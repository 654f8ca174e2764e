import EspWaveRider.Firmware.LoopPhases
import EspWaveRider.Firmware.PeerStore

/-!
# Every run of the main loop

What the main loop of `rust/firmware/esp32s3/src/main.rs` keeps, whatever radar, radio, peers,
broker, connections and the USB port bring, in any order and over any number of boots.

* `FirmwareState.Sound` — settings within their ranges, a table of peers in order, no update that
  runs, and no time that is still to come;
* `Sound.work`, `Sound.handleCommand`, `Sound.serviceFirmwareSync` — each phase keeps it;
* `device_sound` — so does every run;
* `answers_consistent` — whatever is shown in a round of a run is there and fits together.
-/

namespace EspWaveRider.Firmware

open Text Radar Command

/-! ## The state -/

/-- A tag as it was configured, not heard since. -/
def BleIdentityTagState.unheard (tag : BleIdentityTagState) : BleIdentityTagState :=
  { tag with lastRssi := -127, lastSeenMs := 0 }

theorem BleIdentityTagState.unheard_configuredBleTag (label address : Str) (minRssi : ℤ) :
    (configuredBleTag label address minRssi).unheard = configuredBleTag label address minRssi := by
  unfold configuredBleTag
  dsimp only
  split <;> rfl

theorem BleIdentityTagState.Written.unheard {tag : BleIdentityTagState} (h : tag.Written) :
    tag.unheard = tag := by
  obtain ⟨label, address, minRssi, rfl⟩ := h
  exact unheard_configuredBleTag ..

theorem BleIdentityTagState.Written.lastSeenMs {tag : BleIdentityTagState} (h : tag.Written) :
    tag.lastSeenMs = 0 := by
  rw [← h.unheard]
  rfl

theorem BleIdentityTagState.unheard_notice (tag : BleIdentityTagState) (address : Str) (rssi : ℤ)
    (nowMs : ℕ) : (tag.notice address rssi nowMs).unheard = tag.unheard := by
  unfold notice
  split <;> rfl

theorem BleIdentityTagState.lastSeenMs_notice (tag : BleIdentityTagState) (address : Str) (rssi : ℤ)
    (nowMs : ℕ) : (tag.notice address rssi nowMs).lastSeenMs = tag.lastSeenMs ∨
      (tag.notice address rssi nowMs).lastSeenMs = nowMs := by
  unfold notice
  split
  · exact .inl rfl
  · exact .inr rfl

namespace FirmwareState

/-- The node with its tags as they were configured. -/
def unheard (s : FirmwareState) : FirmwareState :=
  { s with bleIdentityTags := s.bleIdentityTags.map (·.unheard) }

/-- The update neither runs nor was it started or completed later than now. -/
structure SyncIdle (sync : FirmwareSyncState) (clock : ℕ) : Prop where
  inProgress : sync.inProgress = false
  lastStartedMs : sync.lastStartedMs ≤ clock
  lastCompletedMs : sync.lastCompletedMs ≤ clock

/-- What holds of the state of a node at a time. -/
structure Sound (s : FirmwareState) (clock : ℕ) : Prop where
  wellSet : s.unheard.WellSet
  named : s.Named
  tagsHeard : ∀ tag ∈ s.bleIdentityTags, tag.lastSeenMs ≤ clock
  sync : SyncIdle s.firmwareSyncState clock
  mark : ∀ m : TimeMark, s.mark m ≤ clock
  peers : PeersTabled s.udpDiscoveryPeers clock

/-! ### The settings -/

/-- What is well set is so by its settings and its tags. -/
theorem WellSet.of_same {s s' : FirmwareState} (h : s.WellSet)
    (hsetting : ∀ k : Setting, s'.setting k = s.setting k)
    (htags : s'.bleIdentityTags = s.bleIdentityTags) : s'.WellSet := by
  have hsense : s'.sensitivityPercent = s.sensitivityPercent := hsetting .sensePct
  have hhold : s'.presenceHoldMs = s.presenceHoldMs := hsetting .holdMs
  have hgates : s'.minActiveGates = s.minActiveGates := hsetting .minGates
  have hactivity : s'.minActivityScore = s.minActivityScore := hsetting .minAct
  have hbrightness : s'.ledBrightness = s.ledBrightness := hsetting .ledBri
  have hpath : s'.mqttWebsocketPath = s.mqttWebsocketPath := hsetting .mqttWsp
  have hx : s'.poseXCm = s.poseXCm := hsetting .poseX
  have hy : s'.poseYCm = s.poseYCm := hsetting .poseY
  have hheading : s'.headingDeg = s.headingDeg := hsetting .poseH
  refine ⟨?_, ?_, ?_, ?_, ?_, ?_⟩
  · rw [hsense, hhold, hgates, hactivity, hbrightness]
    exact h.tuning
  · rw [htags]
    exact h.bleIdentityTags
  · rw [hpath]
    exact h.mqttWebsocketPath
  · rw [hx]
    exact h.poseXCm
  · rw [hy]
    exact h.poseYCm
  · rw [hheading]
    exact h.headingDeg

theorem Named.of_same {s s' : FirmwareState} (h : s.Named)
    (hsetting : ∀ k : Setting, s'.setting k = s.setting k) : s'.Named := by
  have hnode : s'.nodeId = s.nodeId := hsetting .nodeId
  have hfriendly : s'.friendlyName = s.friendlyName := hsetting .friendly
  exact ⟨hnode ▸ h.nodeId, hfriendly ▸ h.friendlyName⟩

theorem WellSet.unheard {s : FirmwareState} (h : s.WellSet) : s.unheard.WellSet := by
  refine ⟨h.tuning, fun slot hslot => ?_, h.mqttWebsocketPath, h.poseXCm, h.poseYCm, h.headingDeg⟩
  have htag := h.bleIdentityTags slot hslot
  show ((s.bleIdentityTags.map BleIdentityTagState.unheard)[slot]).Written
  rw [Vector.getElem_map, htag.unheard]
  exact htag

/-! ### Work -/

theorem Sound.mono {s : FirmwareState} {clock clock' : ℕ} (h : s.Sound clock)
    (hclock : clock ≤ clock') : s.Sound clock' where
  wellSet := h.wellSet
  named := h.named
  tagsHeard tag htag := (h.tagsHeard tag htag).trans hclock
  sync := ⟨h.sync.inProgress, h.sync.lastStartedMs.trans hclock, h.sync.lastCompletedMs.trans hclock⟩
  mark m := (h.mark m).trans hclock
  peers := h.peers.mono hclock

/-- The peers apart, work keeps everything. -/
theorem Sound.networkWork {s s' : FirmwareState} {uptimeMs clock : ℕ} (h : s.Sound clock)
    (huptime : uptimeMs ≤ clock) (hwork : NetworkWork uptimeMs s s')
    (hpeers : PeersTabled s'.udpDiscoveryPeers clock) : s'.Sound clock where
  wellSet := h.wellSet.of_same
    (fun k => (by cases k <;> rfl : _ = s'.setting k).trans
      ((hwork.setting k).trans (by cases k <;> rfl)))
    (congrArg (Vector.map _) hwork.bleIdentityTags)
  named := h.named.of_same fun k => (hwork.setting k).trans (by cases k <;> rfl)
  tagsHeard := by
    rw [show s'.bleIdentityTags = s.bleIdentityTags from hwork.bleIdentityTags]
    exact h.tagsHeard
  sync := by
    rw [show s'.firmwareSyncState = s.firmwareSyncState from hwork.firmwareSyncState]
    exact h.sync
  mark m := by
    have hmark := hwork.mark m
    rw [show FirmwareState.mark { s with udpDiscoveryPeers := s'.udpDiscoveryPeers } m = s.mark m
      by cases m <;> rfl] at hmark
    exact hmark.trans (max_le (h.mark m) huptime)
  peers := hpeers

theorem Sound.work {s s' : FirmwareState} {uptimeMs clock : ℕ} (h : s.Sound clock)
    (huptime : uptimeMs ≤ clock) (hwork : Work uptimeMs s s') : s'.Sound clock := by
  refine h.networkWork huptime hwork.networkWork ?_
  rw [hwork.udpDiscoveryPeers]
  exact h.peers

/-! ### Boot -/

theorem mark_bootState (mac : Vector UInt8 6) (settings : Option Nvs) (m : TimeMark) :
    (bootState mac settings).mark m = 0 := by
  cases settings with
  | none => cases m <;> rfl
  | some settings =>
    refine disconnectedIf_rule (Q := fun s => FirmwareState.mark
      ({ s with bootCount := saturatingSucc s.bootCount }.initializeDeviceIdentity mac) m = 0)
      _ _ (fun ht => ?_) ?_
    · exact (by cases m <;> rfl : _ = _).trans ht
    · cases m <;> rfl

theorem firmwareSyncState_bootState (mac : Vector UInt8 6) (settings : Option Nvs) :
    (bootState mac settings).firmwareSyncState = {} := by
  cases settings with
  | none => rfl
  | some settings =>
    exact disconnectedIf_rule (Q := fun s => s.firmwareSyncState = {}) _ _ id rfl

theorem sound_bootState (mac : Vector UInt8 6) (settings : Option Nvs) (clock : ℕ) :
    (bootState mac settings).Sound clock where
  wellSet := (wellSet_bootState mac settings).unheard
  named := named_bootState mac settings
  tagsHeard tag htag := by
    obtain ⟨slot, hslot, rfl⟩ := Vector.getElem_of_mem htag
    rw [((wellSet_bootState mac settings).bleIdentityTags slot hslot).lastSeenMs]
    exact Nat.zero_le _
  sync := by
    rw [firmwareSyncState_bootState]
    exact ⟨rfl, Nat.zero_le _, Nat.zero_le _⟩
  mark m := by
    rw [mark_bootState]
    exact Nat.zero_le _
  peers := by
    rw [udpDiscoveryPeers_bootState]
    exact .nil

/-! ### Commands -/

theorem unheard_applyHomeAssistantConfig (s : FirmwareState) (payload : HomeAssistantConfigPayload) :
    (s.applyHomeAssistantConfig payload).unheard = s.unheard.applyHomeAssistantConfig payload := by
  have hlink (c : Bool) (t : FirmwareState) (reasonText : Str) :
      (if c then t.markWifiDisconnected reasonText else t).unheard =
        if c then t.unheard.markWifiDisconnected reasonText else t.unheard := by
    cases c <;> rfl
  exact congrArg (fun t : FirmwareState =>
    { t.markMqttRuntimeDirty with lastMqttRoomSummaryPublishMs := 0 }) (hlink _ _ _)

/-- Forgetting when the tags were heard does not get in the way of a command. -/
theorem ParsedEffect.unheard {s s' : FirmwareState} (h : ParsedEffect s s') :
    ParsedEffect s.unheard s'.unheard := by
  cases h with
  | nothing => exact .nothing
  | homeAssistantConfig payload =>
    rw [unheard_applyHomeAssistantConfig]
    exact .homeAssistantConfig payload
  | roomConfig hparse => exact .roomConfig hparse
  | websocketConfig payload => exact .websocketConfig payload
  | mqttEndpoint payload => exact .mqttEndpoint payload
  | tuningConfig hparse => exact .tuningConfig hparse
  | @bleTag slot hslot label address minRssi =>
    have htags : (s.bleIdentityTags.set slot
          (configuredBleTag label (normalizeBleIdentityValue address) minRssi) hslot).map
            BleIdentityTagState.unheard =
        (s.bleIdentityTags.map BleIdentityTagState.unheard).set slot
          (configuredBleTag label (normalizeBleIdentityValue address) minRssi) hslot := by
      rw [Vector.map_set, BleIdentityTagState.unheard_configuredBleTag]
    show ParsedEffect s.unheard { s.unheard with bleIdentityTags := _ }
    rw [htags]
    exact .bleTag hslot label address minRssi
  | firmwareSyncState sync => exact .firmwareSyncState sync

theorem SyncIdle.requestFirmwareUpdate {s : FirmwareState} {clock : ℕ}
    (h : SyncIdle s.firmwareSyncState clock) (targetVersion targetNodeId targetSource : Str) :
    SyncIdle (s.requestFirmwareUpdate targetVersion targetNodeId targetSource).firmwareSyncState
      clock := by
  unfold FirmwareState.requestFirmwareUpdate
  dsimp only
  split
  · exact ⟨h.inProgress, h.lastStartedMs, Nat.zero_le _⟩
  · split
    · exact ⟨h.inProgress, h.lastStartedMs, h.lastCompletedMs⟩
    · exact ⟨h.inProgress, h.lastStartedMs, h.lastCompletedMs⟩

theorem SyncIdle.requestFirmwareSync {s : FirmwareState} {uptimeMs : ℕ}
    (h : SyncIdle s.firmwareSyncState uptimeMs) :
    SyncIdle (s.requestFirmwareSync uptimeMs).firmwareSyncState uptimeMs := by
  unfold FirmwareState.requestFirmwareSync
  dsimp only
  split_ifs
  · exact ⟨h.inProgress, h.lastStartedMs, le_rfl⟩
  · exact ⟨h.inProgress, h.lastStartedMs, le_rfl⟩
  · exact h.requestFirmwareUpdate _ _ _

theorem SyncIdle.handleCommand {s : FirmwareState} {uptimeMs : ℕ}
    (h : SyncIdle s.firmwareSyncState uptimeMs) (command : Str) :
    SyncIdle (s.handleCommand command uptimeMs).state.firmwareSyncState uptimeMs := by
  have htag (slot : ℕ) (tag : BleIdentityTagState) (s' : FirmwareState)
      (hset : s.setBleTag slot tag = some s') : SyncIdle s'.firmwareSyncState uptimeMs := by
    obtain ⟨tags, rfl⟩ := setBleTag_eq hset
    exact h
  rw [state_handleCommand]
  cases parseDeviceCommand command with
  | none => exact h
  | some command =>
    let Q (s' : FirmwareState) : Prop := SyncIdle s'.firmwareSyncState uptimeMs
    show Q (s.handleDeviceCommand uptimeMs command).state
    cases command with
    | homeAssistantConfig payload =>
      refine state_configured h _ _ fun config => ?_
      exact disconnectedIf_rule (Q := Q) _ _ id h
    | homeAssistantRoomConfig payload => exact state_configured h _ _ fun _ => h
    | homeAssistantWebSocketConfig payload => exact state_configured h _ _ fun _ => h
    | homeAssistantMqttEndpoint payload => exact state_configured h _ _ fun _ => h
    | tuningConfig payload => exact state_configured h _ _ fun _ => h
    | bleTagConfig payload => exact state_configuredTag h _ _ fun _ s' => htag _ _ s'
    | bleTagClear payload => exact state_configuredTag h _ _ fun _ s' => htag _ _ s'
    | firmwareSync => exact h.requestFirmwareSync
    | firmwareUpdate targetVersion => exact h.requestFirmwareUpdate _ _ _
    | homeAssistantRoomPosePublish payload =>
      simp only [handleDeviceCommand]
      split
      · split <;> exact h
      · exact h
    | _ => exact h

/-- A configuration forgets when the last room summary was sent. -/
theorem ParsedEffect.mark_le {s s' : FirmwareState} (h : ParsedEffect s s') (m : TimeMark) :
    s'.mark m ≤ s.mark m := by
  cases h with
  | homeAssistantConfig payload =>
    refine disconnectedIf_rule (Q := fun t => FirmwareState.mark
      { t.markMqttRuntimeDirty with lastMqttRoomSummaryPublishMs := 0 } m ≤ s.mark m) _ _ ?_ ?_
    · exact fun ht => (le_of_eq (by cases m <;> rfl)).trans ht
    · cases m <;> first | exact le_rfl | exact Nat.zero_le _
  | _ => cases m <;> first | exact le_rfl | exact Nat.zero_le _

theorem ParsedEffect.tagsHeard {s s' : FirmwareState} {clock : ℕ} (h : ParsedEffect s s')
    (htags : ∀ tag ∈ s.bleIdentityTags, tag.lastSeenMs ≤ clock) :
    ∀ tag ∈ s'.bleIdentityTags, tag.lastSeenMs ≤ clock := by
  cases h with
  | homeAssistantConfig payload =>
    exact disconnectedIf_rule (Q := fun t => ∀ tag ∈ t.bleIdentityTags, tag.lastSeenMs ≤ clock)
      _ _ id htags
  | @bleTag slot hslot label address minRssi =>
    intro tag htag
    have htag : tag ∈ s.bleIdentityTags.set slot
      (configuredBleTag label (normalizeBleIdentityValue address) minRssi) hslot := htag
    rcases Vector.mem_or_eq_of_mem_set htag with hkept | rfl
    · exact htags tag hkept
    · rw [BleIdentityTagState.Written.lastSeenMs ⟨label, address, minRssi, rfl⟩]
      exact Nat.zero_le _
  | _ => exact htags

theorem Sound.handleCommand {s : FirmwareState} {uptimeMs : ℕ} (h : s.Sound uptimeMs)
    (command : Str) : (s.handleCommand command uptimeMs).state.Sound uptimeMs := by
  have heffect := s.parsedEffect_handleCommand command uptimeMs
  refine ⟨h.wellSet.parsedEffect heffect.unheard, h.named.parsedEffect heffect,
    heffect.tagsHeard h.tagsHeard, h.sync.handleCommand command,
    fun m => (heffect.mark_le m).trans (h.mark m), ?_⟩
  rw [(identity_handleCommand s command uptimeMs).2]
  exact h.peers

/-! ### The update and the tags -/

/-- Whatever the download meets, the update is over when the call returns. -/
theorem SyncIdle.serviceFirmwareSync {s : FirmwareState} {uptimeMs : ℕ}
    (h : SyncIdle s.firmwareSyncState uptimeMs) (httpsOta : Bool) (attempts : List Attempt)
    (flash : OtaFlash) : SyncIdle
      (s.serviceFirmwareSync httpsOta uptimeMs attempts flash).1.firmwareSyncState uptimeMs := by
  have hrecord (sync : FirmwareSyncState) (result : CandidatesResult) :
      (sync.record result).lastStartedMs = sync.lastStartedMs := by
    cases result with
    | failed lastError => cases lastError <;> rfl
    | _ => rfl
  unfold FirmwareState.serviceFirmwareSync
  dsimp only
  split_ifs
  · exact h
  · exact ⟨rfl, le_rfl, le_rfl⟩
  · refine ⟨rfl, ?_, le_rfl⟩
    exact (le_of_eq (hrecord _ _)).trans le_rfl

theorem serviceFirmwareSync_eq (s : FirmwareState) (httpsOta : Bool) (uptimeMs : ℕ)
    (attempts : List Attempt) (flash : OtaFlash) :
    ∃ sync, (s.serviceFirmwareSync httpsOta uptimeMs attempts flash).1 =
      { s with firmwareSyncState := sync } := by
  unfold serviceFirmwareSync
  dsimp only
  split_ifs <;> exact ⟨_, rfl⟩

theorem Sound.serviceFirmwareSync {s : FirmwareState} {uptimeMs : ℕ} (h : s.Sound uptimeMs)
    (httpsOta : Bool) (attempts : List Attempt) (flash : OtaFlash) :
    (s.serviceFirmwareSync httpsOta uptimeMs attempts flash).1.Sound uptimeMs := by
  have hidle := h.sync.serviceFirmwareSync httpsOta attempts flash
  obtain ⟨sync, hservice⟩ := s.serviceFirmwareSync_eq httpsOta uptimeMs attempts flash
  rw [hservice] at hidle ⊢
  exact ⟨h.wellSet.of_same (fun k => by cases k <;> rfl) rfl,
    h.named.of_same fun k => by cases k <;> rfl, h.tagsHeard, hidle,
    fun m => (le_of_eq (by cases m <;> rfl)).trans (h.mark m), h.peers⟩

/-- Tags that noted that they were heard now. -/
structure TagsNoted (uptimeMs : ℕ) (tags tags' : Vector BleIdentityTagState maxBleTags) : Prop where
  unheard : tags'.map BleIdentityTagState.unheard = tags.map BleIdentityTagState.unheard
  heard : ∀ tag' ∈ tags', ∃ tag ∈ tags, tag'.lastSeenMs = tag.lastSeenMs ∨ tag'.lastSeenMs = uptimeMs

theorem Sound.tagsNoted {s : FirmwareState} {uptimeMs : ℕ} (h : s.Sound uptimeMs)
    {tags : Vector BleIdentityTagState maxBleTags}
    (htags : TagsNoted uptimeMs s.bleIdentityTags tags) :
    Sound { s with bleIdentityTags := tags } uptimeMs := by
  refine ⟨h.wellSet.of_same (fun k => by cases k <;> rfl) htags.unheard,
    h.named.of_same fun k => by cases k <;> rfl, fun tag' htag' => ?_, h.sync,
    fun m => (le_of_eq (by cases m <;> rfl)).trans (h.mark m), h.peers⟩
  obtain ⟨tag, htag, hkept | hnow⟩ := htags.heard tag' htag'
  · exact hkept.le.trans (h.tagsHeard tag htag)
  · exact hnow.le

end FirmwareState

/-! ## The node -/

namespace Device

/-- What holds of a node between two rounds. -/
structure Sound (d : Device) : Prop where
  state : d.state.Sound d.clock
  clock : d.clock ≤ u32Max
  sightings : SlotTable.Distinct BleBeaconSightingState.occupied BleBeaconSightingState.address
    d.bleSightings
  sightingsHeard : ∀ i, (d.bleSightings i).lastSeenMs ≤ d.clock
  /-- Nothing but text waits for its end of line. -/
  commandBuffer : ∀ byte ∈ d.commandBuffer.items, isAsciiControl byte = false

/-! ### Commands -/

theorem state_effects_handleCommand (uptimeMs : ℕ) (wifiController : Bool)
    (taken : SettingsKey → Bool) (command : Str) (w : Effects.CommandWorld) :
    ((Effects.handleCommand uptimeMs wifiController taken command).run w).2.state =
      (w.state.handleCommand command uptimeMs).state := by
  have hagrees := (Effects.agrees_handleCommand uptimeMs taken command w).2
  cases wifiController with
  | true => exact hagrees
  | false =>
    -- without a controller only the answer to a scan differs
    refine Eq.trans ?_ hagrees
    unfold Effects.handleCommand
    split_ifs
    · rfl
    · rfl
    · cases parseDeviceCommand command with
      | none => rfl
      | some command => cases command <;> rfl

theorem state_handleCommand (d : Device) (answers : HandlerAnswers) (command : Str) :
    (d.handleCommand answers command).1.state =
      (d.state.handleCommand command answers.uptimeMs).state :=
  state_effects_handleCommand ..

theorem Sound.handleCommand {d : Device} (h : d.Sound) {answers : HandlerAnswers}
    (huptime : d.clock ≤ answers.uptimeMs ∧ answers.uptimeMs ≤ answers.replyMs)
    (hreply : answers.replyMs ≤ u32Max) (command : Str) :
    (d.handleCommand answers command).1.Sound := by
  refine ⟨?_, hreply, h.sightings, fun i => ?_, h.commandBuffer⟩
  · rw [state_handleCommand]
    exact ((h.state.mono huptime.1).handleCommand command).mono huptime.2
  · exact (h.sightingsHeard i).trans (huptime.1.trans huptime.2)

theorem Sound.handleHttpRequest {d : Device} (h : d.Sound) {answers : HandlerAnswers}
    (huptime : d.clock ≤ answers.uptimeMs ∧ answers.uptimeMs ≤ answers.replyMs)
    (hreply : answers.replyMs ≤ u32Max) (request : HttpRequestMessage) :
    (d.handleHttpRequest answers request).1.Sound := by
  have hclock := huptime.1.trans huptime.2
  cases request with
  | command command => exact h.handleCommand huptime hreply command.items
  | snapshot =>
    exact ⟨h.state.mono hclock, hreply, h.sightings, fun i => (h.sightingsHeard i).trans hclock,
      h.commandBuffer⟩

/-- No control byte gets into the buffer. -/
theorem forall_editBuffer {commandBuffer : HVec UInt8 256} (byte : UInt8)
    (h : ∀ b ∈ commandBuffer.items, isAsciiControl b = false) :
    ∀ b ∈ (Console.editBuffer commandBuffer byte).items, isAsciiControl b = false := by
  unfold Console.editBuffer
  split_ifs with hreturn hdelete hcontrol
  · exact h
  · exact fun b hb => h b (List.dropLast_subset _ hb)
  · rcases Nat.lt_or_ge commandBuffer.items.length 256 with hroom | hfull
    · rw [Bounded.items_push_getD hroom]
      intro b hb
      rcases List.mem_append.1 hb with hb | hb
      · exact h b hb
      · rw [List.mem_singleton.1 hb]
        simpa using hcontrol
    · rw [Bounded.push_getD_of_full hfull]
      exact h
  · exact h

theorem Sound.readUsbByte {d : Device} (h : d.Sound) {answers : HandlerAnswers}
    (huptime : d.clock ≤ answers.uptimeMs ∧ answers.uptimeMs ≤ answers.replyMs)
    (hreply : answers.replyMs ≤ u32Max) (byte : UInt8) :
    (d.readUsbByte answers byte).1.Sound := by
  unfold Device.readUsbByte
  split_ifs
  · exact h
  · cases Console.command d.commandBuffer with
    | none => exact ⟨h.state, h.clock, h.sightings, h.sightingsHeard, List.forall_mem_nil _⟩
    | some command =>
      have hdone := h.handleCommand huptime hreply command
      exact ⟨hdone.state, hdone.clock, hdone.sightings, hdone.sightingsHeard, List.forall_mem_nil _⟩
  · exact ⟨h.state, h.clock, h.sightings, h.sightingsHeard,
      forall_editBuffer byte h.commandBuffer⟩

/-! ### Advertisements -/

/-- After an advertisement every tag is as it was, or every one has been asked to note it. -/
theorem tags_recordAdvertisement (d : Device) (ad : BleAdvertisement) :
    ∃ f : BleIdentityTagState → BleIdentityTagState,
      (f = id ∨ f = fun tag => tag.notice (normalizeBleIdentityValue ad.address) ad.rssi ad.nowMs) ∧
      (d.recordAdvertisement ad).state =
        { d.state with bleIdentityTags := d.state.bleIdentityTags.map f } := by
  have hslots (f : BleIdentityTagState → BleIdentityTagState) :
      (Vector.ofFn fun slot : Fin maxBleTags =>
        (d.state.bleIdentityTags.toList.map f).getD slot (d.state.bleIdentityTags.get slot)) =
          d.state.bleIdentityTags.map f := by
    ext slot hslot
    simp
  have hkept (store : BleStore maxBleSightings) (f : BleIdentityTagState → BleIdentityTagState)
      (hstore : recordBleAdvertisement ⟨d.bleSightings, d.state.bleIdentityTags.toList⟩ ad = store)
      (htags : store.tags = d.state.bleIdentityTags.toList.map f) :
      (d.recordAdvertisement ad).state =
        { d.state with bleIdentityTags := d.state.bleIdentityTags.map f } := by
    unfold recordAdvertisement
    dsimp only
    rw [hstore, htags, hslots f]
    rfl
  by_cases haddress : ad.address = []
  · exact ⟨id, .inl rfl, hkept _ id (recordBleAdvertisement_of_noAddress _ haddress)
      (List.map_id _).symm⟩
  · obtain ⟨i, -, hstore⟩ := recordBleAdvertisement_spec (by decide)
      (⟨d.bleSightings, d.state.bleIdentityTags.toList⟩ : BleStore maxBleSightings) haddress
    exact ⟨_, .inr rfl, hkept _ _ hstore rfl⟩

theorem tagsNoted_map {tags : Vector BleIdentityTagState maxBleTags} (address : Str) (rssi : ℤ)
    (nowMs : ℕ) {f : BleIdentityTagState → BleIdentityTagState}
    (hf : f = id ∨ f = fun tag => tag.notice address rssi nowMs) :
    FirmwareState.TagsNoted nowMs tags (tags.map f) := by
  have hfunheard (tag : BleIdentityTagState) : (f tag).unheard = tag.unheard := by
    rcases hf with rfl | rfl
    · rfl
    · exact tag.unheard_notice address rssi nowMs
  refine ⟨?_, fun tag' htag' => ?_⟩
  · ext1 slot hslot
    simp only [Vector.getElem_map, hfunheard]
  · obtain ⟨tag, htag, rfl⟩ := Vector.mem_map.1 htag'
    refine ⟨tag, htag, ?_⟩
    rcases hf with rfl | rfl
    · exact .inl rfl
    · exact tag.lastSeenMs_notice address rssi nowMs

/-- A sighting is one that was there, or the new one. -/
theorem sighting_recordAdvertisement (d : Device) (ad : BleAdvertisement)
    (i : Fin maxBleSightings) :
    (d.recordAdvertisement ad).bleSightings i = d.bleSightings i ∨
      (d.recordAdvertisement ad).bleSightings i = ad.sighting := by
  show (recordBleAdvertisement ⟨d.bleSightings, d.state.bleIdentityTags.toList⟩ ad).sightings i = _ ∨
    (recordBleAdvertisement ⟨d.bleSightings, d.state.bleIdentityTags.toList⟩ ad).sightings i = _
  by_cases haddress : ad.address = []
  · rw [recordBleAdvertisement_of_noAddress _ haddress]
    exact .inl rfl
  · obtain ⟨slot, -, hstore⟩ := recordBleAdvertisement_spec (by decide)
      (⟨d.bleSightings, d.state.bleIdentityTags.toList⟩ : BleStore maxBleSightings) haddress
    rw [hstore]
    by_cases hslot : i = slot
    · exact .inr (by rw [hslot]; exact Function.update_self ..)
    · exact .inl (Function.update_of_ne hslot ..)

theorem Sound.recordAdvertisement {d : Device} (h : d.Sound) (ad : BleAdvertisement)
    (hnow : ad.nowMs = d.clock) : (d.recordAdvertisement ad).Sound := by
  obtain ⟨f, hf, hstate⟩ := d.tags_recordAdvertisement ad
  have hdistinct : (⟨d.bleSightings, d.state.bleIdentityTags.toList⟩ :
      BleStore maxBleSightings).Distinct := h.sightings
  refine ⟨?_, h.clock, distinct_recordBleAdvertisement hdistinct ad, fun i => ?_, h.commandBuffer⟩
  · show (d.recordAdvertisement ad).state.Sound d.clock
    rw [hstate]
    have hnoted := @tagsNoted_map d.state.bleIdentityTags (normalizeBleIdentityValue ad.address)
      ad.rssi ad.nowMs f hf
    rw [hnow] at hnoted
    exact h.state.tagsNoted hnoted
  · rcases d.sighting_recordAdvertisement ad i with hkept | hnew
    · exact hkept ▸ h.sightingsHeard i
    · rw [hnew]
      exact hnow.le

theorem Sound.processBleScanEvents {d : Device} (h : d.Sound) (events : List BleScanEventMessage)
    {uptimeMs : ℕ} (hclock : uptimeMs = d.clock) : (d.processBleScanEvents events uptimeMs).Sound := by
  induction events generalizing d with
  | nil => exact h
  | cons event events ih => exact ih (h.recordAdvertisement _ hclock) hclock

/-! ### Rounds -/

theorem Sound.withState {d : Device} (h : d.Sound) {s : FirmwareState} (hs : s.Sound d.clock) :
    (d.withState s).Sound :=
  ⟨hs, h.clock, h.sightings, h.sightingsHeard, h.commandBuffer⟩

/-- Time goes on. -/
theorem Sound.later {d : Device} (h : d.Sound) {clock : ℕ} (hclock : d.clock ≤ clock)
    (hrange : clock ≤ u32Max) : { d with clock }.Sound :=
  ⟨h.state.mono hclock, hrange, h.sightings, fun i => (h.sightingsHeard i).trans hclock,
    h.commandBuffer⟩

theorem Sound.receive {d : Device} (h : d.Sound) {r : Round} (hr : r.InTime d.clock) :
    (d.receive r).1.Sound := by
  have hrange : r.now ≤ u32Max :=
    ((hr.http.1.trans hr.http.2).trans (hr.usb.1.trans hr.usb.2)).trans hr.range
  have hlistened : (d.listen r).1.Sound :=
    ⟨(h.state.mono hr.now).networkWork le_rfl (d.networkWork_listen r)
      (peersTabled_listen (h.state.peers.mono hr.now)), hrange, h.sightings,
      fun i => (h.sightingsHeard i).trans hr.now, h.commandBuffer⟩
  exact hlistened.processBleScanEvents r.bleEvents rfl

theorem clock_processBleScanEvents (d : Device) (events : List BleScanEventMessage) (uptimeMs : ℕ) :
    (d.processBleScanEvents events uptimeMs).clock = d.clock := by
  induction events generalizing d with
  | nil => rfl
  | cons event events ih => exact ih _

theorem clock_receive (d : Device) (r : Round) : (d.receive r).1.clock = r.now :=
  clock_processBleScanEvents ..

/-- Without a request the clock stays where it is. -/
theorem Sound.serve {d : Device} (h : d.Sound) (httpsOta : Bool) {r : Round}
    (hr : r.InTime r.now) (hclock : d.clock = r.now) :
    (d.serve httpsOta r).1.Sound ∧ r.now ≤ (d.serve httpsOta r).1.clock ∧
      (d.serve httpsOta r).1.clock ≤ r.httpAnswers.replyMs := by
  have hreply := (hr.usb.1.trans hr.usb.2).trans hr.range
  unfold Device.serve
  cases r.httpRequest with
  | some request =>
    have huptime : d.clock ≤ r.httpAnswers.uptimeMs ∧
        r.httpAnswers.uptimeMs ≤ r.httpAnswers.replyMs := by
      rw [hclock]
      exact hr.http
    have hhandled : (d.handleHttpRequest r.httpAnswers request).1.clock = r.httpAnswers.replyMs := by
      cases request <;> rfl
    refine ⟨h.handleHttpRequest huptime hreply request, ?_⟩
    show r.now ≤ (d.handleHttpRequest r.httpAnswers request).1.clock ∧
      (d.handleHttpRequest r.httpAnswers request).1.clock ≤ r.httpAnswers.replyMs
    rw [hhandled]
    exact ⟨hr.http.1.trans hr.http.2, le_rfl⟩
  | none =>
    have hstate := h.state.serviceFirmwareSync httpsOta r.attempts d.flash
    rw [hclock] at hstate
    refine ⟨?_, hclock.ge, hclock.trans_le (hr.http.1.trans hr.http.2)⟩
    refine ⟨?_, h.clock, h.sightings, h.sightingsHeard, h.commandBuffer⟩
    show (d.state.serviceFirmwareSync httpsOta r.now r.attempts d.flash).1.Sound d.clock
    rw [hclock]
    exact hstate

theorem Sound.sense {d : Device} (h : d.Sound) {r : Round} (hnow : r.now ≤ d.clock) :
    (d.sense r).Sound :=
  h.withState (h.state.work hnow (FirmwareState.work_pollPresence d.state r.presencePin r.now))

theorem Sound.readUsb {d : Device} (h : d.Sound) {r : Round} (hr : r.InTime r.now)
    (hclock : d.clock ≤ r.httpAnswers.replyMs) : (d.readUsb r).1.Sound := by
  unfold Device.readUsb
  cases r.usbByte with
  | none => exact h
  | some byte => exact h.readUsbByte ⟨hclock.trans hr.usb.1, hr.usb.2⟩ hr.range byte

theorem Sound.round {d : Device} (h : d.Sound) (httpsOta : Bool) {r : Round}
    (hr : r.InTime d.clock) : (d.round httpsOta r).1.Sound := by
  have hr' : r.InTime r.now := ⟨le_rfl, hr.http, hr.usb, hr.range⟩
  obtain ⟨hserved, hnow, hreply⟩ := (h.receive hr).serve httpsOta hr' (d.clock_receive r)
  exact (hserved.sense hnow).readUsb hr' hreply

theorem Sound.boot (mac : Vector UInt8 6) (stored : Nvs) (settingsOpen : Bool) (flash : OtaFlash)
    (reason : Str) (benchmark : Option RuntimeBenchmarkSnapshot) (presencePin : Bool) {uptimeMs : ℕ}
    (huptime : uptimeMs ≤ u32Max) :
    (Device.boot mac stored settingsOpen flash reason benchmark presencePin uptimeMs).Sound where
  state := (FirmwareState.sound_bootState mac _ uptimeMs).work le_rfl
    (FirmwareState.work_pollPresence _ presencePin uptimeMs)
  clock := huptime
  sightings i _ hi _ := by cases hi
  sightingsHeard _ := Nat.zero_le _
  commandBuffer := List.forall_mem_nil _

end Device

/-! ## Every run -/

theorem sound_of_reach {httpsOta : Bool} {mac : Vector UInt8 6} {ok : Device → DeviceEvent → Prop}
    {d : Device} (h : (deviceMachine httpsOta mac).Reach ok d) : d.Sound := by
  refine h.invariant ?_ ?_
  · rintro d ⟨stored, settingsOpen, flash, reason, benchmark, presencePin, uptimeMs, huptime, rfl⟩
    exact Device.Sound.boot mac stored settingsOpen flash reason benchmark presencePin huptime
  · intro d e d' hd _ hstep
    simp only [deviceMachine] at hstep
    cases e with
    | reboot settingsOpen reason benchmark presencePin uptimeMs =>
      dsimp only at hstep
      split_ifs at hstep with huptime
      cases hstep
      exact Device.Sound.boot mac _ settingsOpen _ reason benchmark presencePin huptime
    | round r =>
      dsimp only at hstep
      split_ifs at hstep with hr
      cases hstep
      exact hd.round httpsOta hr

/-- In every run, over any number of boots: settings and tags are within their ranges, the tables
hold few entries of different nodes and addresses, no update is left in progress, no time that is
remembered is still to come, and no control byte waits in the command buffer. -/
theorem device_sound {httpsOta : Bool} {mac : Vector UInt8 6} {d : Device}
    (h : (deviceMachine httpsOta mac).Reach Machine.Always d) :
    d.Sound ∧ d.state.unheard.WithinRanges :=
  ⟨sound_of_reach h, (sound_of_reach h).state.wellSet.withinRanges⟩

/-! ### What is shown -/

namespace Device

/-- The tables that a snapshot is made of are in order. -/
theorem Sound.tabled {d : Device} (h : d.Sound) : d.deviceState.Tabled d.clock :=
  ⟨h.state.peers.length_le, h.state.peers.nodup, h.state.peers.heard, h.sightings⟩

end Device

/-- An answer is there; a snapshot fits together and a debug status is JSON. -/
def Response.Sensible : Response → Prop
  | snapshot answer => ∃ snap, answer = some snap ∧ snap.Consistent
  | debugStatus answer => ∃ text v, answer = some text ∧ JsonGrammar.Document text v
  | text _ => True

namespace Device

theorem Sound.response {d : Device} (h : d.Sound) (answers : HandlerAnswers) (reply : CommandReply) :
    (d.response answers reply).Sensible := by
  cases reply with
  | snapshot => exact h.tabled.snapshot answers.replyMs answers.freeHeapBytes
  | debugStatus =>
    obtain ⟨hex, hhex⟩ := d.state.exists_statusLedHex answers.replyMs
    refine ⟨_, _, ?_, (FirmwareState.denotes_debugStatus hhex).alone⟩
    rw [FirmwareState.debugStatusJson_eq, hhex]
    rfl
  | wifiScanResults => trivial
  | error code => trivial

theorem Sound.sensible_handleCommand {d : Device} (h : d.Sound) {answers : HandlerAnswers}
    (huptime : d.clock ≤ answers.uptimeMs ∧ answers.uptimeMs ≤ answers.replyMs)
    (hreply : answers.replyMs ≤ u32Max) (command : Str) :
    (d.handleCommand answers command).2.1.Sensible :=
  (h.handleCommand huptime hreply command).response answers _

theorem Sound.sensible_serve {d : Device} (h : d.Sound) (httpsOta : Bool) {r : Round}
    (hr : r.InTime r.now) (hclock : d.clock = r.now) :
    ∀ response ∈ (d.serve httpsOta r).2.1, response.Sensible := by
  have hreply := (hr.usb.1.trans hr.usb.2).trans hr.range
  unfold Device.serve
  cases r.httpRequest with
  | none => exact fun _ hresponse => by cases hresponse
  | some request =>
    rintro response hresponse
    cases hresponse
    cases request with
    | snapshot => exact h.response r.httpAnswers .snapshot
    | command command => exact h.sensible_handleCommand (hclock ▸ hr.http) hreply command.items

theorem Sound.sensible_readUsb {d : Device} (h : d.Sound) {r : Round} (hr : r.InTime r.now)
    (hclock : d.clock ≤ r.httpAnswers.replyMs) :
    ∀ response ∈ (d.readUsb r).2.1, response.Sensible := by
  unfold Device.readUsb
  cases r.usbByte with
  | none => exact fun _ hresponse => by cases hresponse
  | some byte =>
    dsimp only
    unfold Device.readUsbByte
    split_ifs
    · exact fun _ hresponse => by cases hresponse
    · cases Console.command d.commandBuffer with
      | none =>
        rintro response hresponse
        cases hresponse
        trivial
      | some command =>
        rintro response hresponse
        cases hresponse
        exact h.sensible_handleCommand ⟨hclock.trans hr.usb.1, hr.usb.2⟩ hr.range command
    · exact fun _ hresponse => by cases hresponse

end Device

theorem isSome_statusLedRgb (s : FirmwareState) (uptimeMs : ℕ) : (s.statusLedRgb uptimeMs).isSome := by
  obtain ⟨hex, hhex⟩ := s.exists_statusLedHex uptimeMs
  obtain ⟨rgb, hrgb, -⟩ := Option.map_eq_some_iff.1 hhex
  rw [hrgb, Option.isSome_some]

namespace Device

/-- A round, phase by phase. -/
theorem round_eq (httpsOta : Bool) (d : Device) (r : Round) :
    d.round httpsOta r =
      let received := d.receive r
      let served := received.1.serve httpsOta r
      let sensed := served.1.sense r
      let read := sensed.readUsb r
      (read.1, ⟨received.2.1, received.2.2 ++ served.2.2 ++ read.2.2, served.2.1,
        sensed.state.statusLedRgb r.now, read.2.1⟩) := rfl

end Device

/-! ### A run -/

def noTime : RuntimeBenchmarkMeasurementSnapshot := { totalUs := 0, perIterNs := 0 }

/-- A benchmark on a processor without limits. -/
def noBenchmark (measuredAtMs : ℕ) : RuntimeBenchmarkSnapshot :=
  { measuredAtMs, iterations := 1000, parseCommandFixture := noTime
    parseRoomConfigFixture := noTime, parseTuningConfigFixture := noTime
    parseGenericFixture := noTime, deriveMetricsFixture := noTime
    detectionCandidateFixture := noTime, detectionCandidate := true, peopleEstimate := 1
    activeGateCount := 6, activityScore := 100, dominantGateDistanceCm := 35 }

def answersAt (uptimeMs : ℕ) : HandlerAnswers :=
  { uptimeMs, replyMs := uptimeMs, benchmark := noBenchmark }

/-- A round in which nothing happens but a request. -/
def requestRound (now : ℕ) (request : HttpRequestMessage) : Round :=
  { now, httpRequest := some request, httpAnswers := answersAt now, usbAnswers := answersAt now }

def factoryDevice : Device :=
  Device.boot ⟨#[2, 0, 0, 10, 11, 12], rfl⟩ {} true
    { selected := .ota0, slots := fun _ => { capacity := 4096 } } "chip_power_on" none false 5

theorem weight_homeAssistantCommand :
    weight Char.utf8Size ("ha_config:net|secret|10.0.0.2|1883||||" : Str) ≤ 256 := by decide

def homeAssistantCommand : HString 256 :=
  ⟨"ha_config:net|secret|10.0.0.2|1883||||", weight_homeAssistantCommand⟩

def configuredDevice : Device :=
  (factoryDevice.round true (requestRound 1000 (.command homeAssistantCommand))).1

theorem start_factoryDevice :
    (deviceMachine true ⟨#[2, 0, 0, 10, 11, 12], rfl⟩).start factoryDevice :=
  ⟨_, _, _, _, _, _, 5, by decide, rfl⟩

theorem step_configuredDevice :
    (deviceMachine true ⟨#[2, 0, 0, 10, 11, 12], rfl⟩).step factoryDevice
      (.round (requestRound 1000 (.command homeAssistantCommand))) = some configuredDevice :=
  step_round (by decide)

theorem reach_configuredDevice :
    (deviceMachine true ⟨#[2, 0, 0, 10, 11, 12], rfl⟩).Reach Machine.Always configuredDevice :=
  .step (.start start_factoryDevice) trivial step_configuredDevice

theorem device_sound_of_request : configuredDevice.state.wifiSsid = ("net" : Str) ∧
    configuredDevice.Sound ∧ configuredDevice.state.unheard.WithinRanges :=
  ⟨by decide +kernel, device_sound reach_configuredDevice⟩

/-- In every round of every run the LED has a colour, and every answer, over HTTP or USB, is there:
a snapshot whose lists, counts and ages fit each other, or a debug status that is JSON. -/
theorem answers_consistent {httpsOta : Bool} {mac : Vector UInt8 6} {d : Device}
    (h : (deviceMachine httpsOta mac).Reach Machine.Always d) {r : Round} (hr : r.InTime d.clock) :
    (d.round httpsOta r).2.statusLed.isSome ∧
      (∀ response ∈ (d.round httpsOta r).2.httpResponse, response.Sensible) ∧
      ∀ response ∈ (d.round httpsOta r).2.usbResponse, response.Sensible := by
  have hr' : r.InTime r.now := ⟨le_rfl, hr.http, hr.usb, hr.range⟩
  have hreceived := (sound_of_reach h).receive hr
  have hclock := d.clock_receive r
  obtain ⟨hserved, hnow, hreply⟩ := hreceived.serve httpsOta hr' hclock
  rw [Device.round_eq]
  exact ⟨isSome_statusLedRgb _ _, hreceived.sensible_serve httpsOta hr' hclock,
    (hserved.sense hnow).sensible_readUsb hr' hreply⟩

theorem answers_consistent_of_request :
    ∃ snap, (configuredDevice.round true (requestRound 2000 .snapshot)).2.httpResponse =
      some (.snapshot (some snap)) ∧ snap.Consistent := by
  have hround := answers_consistent reach_configuredDevice
    (r := requestRound 2000 .snapshot) (by decide +kernel)
  obtain ⟨snap, hsnap, hconsistent⟩ := hround.2.1 (.snapshot _) rfl
  exact ⟨snap, by rw [← hsnap]; rfl, hconsistent⟩

end EspWaveRider.Firmware
