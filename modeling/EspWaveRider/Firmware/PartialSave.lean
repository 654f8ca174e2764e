import EspWaveRider.Firmware.SettingsStore

/-!
# Saves that are cut short

`persist_runtime_config` of `rust/firmware/esp32s3/src/main.rs` makes one write for each
setting and three for each tag.  Any of them can fail, and after a loss of power the rest is
missing.

* `Nvs.Mixes` — the old value under some keys and the new one under the others;
* `Mixes.sameSettings_iff` — when a node does not notice the difference;
* `save_keywise` — what a save leaves behind.
-/

namespace EspWaveRider.Firmware

open Text Command

/-! ## Mixtures -/

/-- Under every key of `mixed` stands what `new` has, or what `old` has. -/
def Nvs.Mixes (fromNew : SettingsKey → Bool) (old new mixed : Nvs) : Prop :=
  ∀ key, mixed.get key = if fromNew key then new.get key else old.get key

namespace NvsBleTag

/-- The slot is in use for a node that boots. -/
def Occupied (tag : NvsBleTag) : Prop := tag.labelRead ≠ [] ∧ tag.addressRead ≠ []

/-- What a used slot boots with. -/
def inUse (tag : NvsBleTag) : BleIdentityTagState where
  occupied := true
  label := tag.labelRead
  address := tag.addressRead
  minRssi := tag.minRssiRead
  lastRssi := -127
  lastSeenMs := 0

structure SameRead (tag tag' : NvsBleTag) : Prop where
  label : tag.labelRead = tag'.labelRead
  address : tag.addressRead = tag'.addressRead
  minRssi : tag.minRssiRead = tag'.minRssiRead

theorem booted_of_occupied {tag : NvsBleTag} (h : tag.Occupied) :
    tag.booted = tag.inUse := by
  have hlabel := h.1
  have haddress := h.2
  simp [booted, configuredBleTag, inUse, minRssiRead, hlabel, haddress]

theorem booted_of_not_occupied {tag : NvsBleTag} (h : ¬tag.Occupied) :
    tag.booted = clearBleIdentityTag := by
  have hfree : ¬(tag.labelRead ≠ [] ∧ tag.addressRead ≠ []) := h
  unfold booted configuredBleTag
  simp only [hfree]
  rfl

/-- A used slot boots the same from the same three values, a free one from any free one. -/
theorem sameTag_booted_iff (tag tag' : NvsBleTag) :
    tag.booted.SameTag tag'.booted ↔
      (tag'.Occupied → tag.SameRead tag') ∧ (¬tag'.Occupied → ¬tag.Occupied) := by
  by_cases hused' : tag'.Occupied
  · rw [booted_of_occupied hused']
    by_cases hused : tag.Occupied
    · rw [booted_of_occupied hused]
      constructor
      · intro hsame
        exact ⟨fun _ => ⟨hsame.label, hsame.address, hsame.minRssi⟩, fun hfree => absurd hused' hfree⟩
      · rintro ⟨hread, -⟩
        obtain ⟨hlabel, haddress, hrssi⟩ := hread hused'
        exact ⟨hlabel, haddress, hrssi, rfl⟩
    · constructor
      · intro hsame
        rw [booted_of_not_occupied hused] at hsame
        exact absurd hsame.occupied Bool.false_ne_true
      · rintro ⟨hread, -⟩
        obtain ⟨hlabel, haddress, -⟩ := hread hused'
        refine absurd ⟨?_, ?_⟩ hused
        · rw [hlabel]
          exact hused'.1
        · rw [haddress]
          exact hused'.2
  · rw [booted_of_not_occupied hused']
    by_cases hused : tag.Occupied
    · constructor
      · intro hsame
        rw [booted_of_occupied hused] at hsame
        exact absurd hsame.occupied.symm Bool.false_ne_true
      · rintro ⟨-, hfree⟩
        exact absurd hused (hfree hused')
    · rw [booted_of_not_occupied hused]
      exact ⟨fun _ => ⟨fun h => absurd h hused', fun _ => hused⟩, fun _ => ⟨rfl, rfl, rfl, rfl⟩⟩

/-- Taking some of the three values of `new` changes nothing that a node boots with: in a used
slot each reads as the old one, and a free slot is not filled. -/
structure ReadsAsBefore (label address minRssi : Bool) (old new : NvsBleTag) : Prop where
  occupied : old.Occupied → (label → new.labelRead = old.labelRead) ∧
    (address → new.addressRead = old.addressRead) ∧ (minRssi → new.minRssiRead = old.minRssiRead)
  free : ¬old.Occupied → (if label then new else old).labelRead = [] ∨
    (if address then new else old).addressRead = []

theorem sameTag_booted_mixed_iff {label address minRssi : Bool} {old new mixed : NvsBleTag}
    (hlabel : mixed.label = if label then new.label else old.label)
    (haddress : mixed.address = if address then new.address else old.address)
    (hrssi : mixed.minRssi = if minRssi then new.minRssi else old.minRssi) :
    mixed.booted.SameTag old.booted ↔ ReadsAsBefore label address minRssi old new := by
  have hlabelRead : mixed.labelRead = (if label then new else old).labelRead := by
    rw [labelRead, hlabel]
    split <;> rfl
  have haddressRead : mixed.addressRead = (if address then new else old).addressRead := by
    rw [addressRead, haddress]
    split <;> rfl
  have hrssiRead : mixed.minRssiRead = (if minRssi then new else old).minRssiRead := by
    rw [minRssiRead, hrssi]
    split <;> rfl
  have hread {α : Type} (taken : Bool) (f : NvsBleTag → α) :
      f (if taken then new else old) = f old ↔ (taken → f new = f old) := by
    cases taken <;> simp
  have hoccupied : mixed.SameRead old ↔ (label → new.labelRead = old.labelRead) ∧
      (address → new.addressRead = old.addressRead) ∧
      (minRssi → new.minRssiRead = old.minRssiRead) := by
    rw [← hread _ labelRead, ← hread _ addressRead, ← hread _ minRssiRead, ← hlabelRead,
      ← haddressRead, ← hrssiRead]
    exact ⟨fun hsame => ⟨hsame.label, hsame.address, hsame.minRssi⟩,
      fun hread => ⟨hread.1, hread.2.1, hread.2.2⟩⟩
  have hfree : ¬mixed.Occupied ↔ (if label then new else old).labelRead = [] ∨
      (if address then new else old).addressRead = [] := by
    rw [Occupied, hlabelRead, haddressRead, not_and_or, not_not, not_not]
  rw [sameTag_booted_iff, hoccupied, hfree]
  exact ⟨fun h => ⟨h.1, h.2⟩, fun h => ⟨h.occupied, h.free⟩⟩

end NvsBleTag

namespace Nvs

/-- The values of `new` under the keys of `fromNew` read as those of `old`. -/
structure ReadsAsBefore (mac : Vector UInt8 6) (fromNew : SettingsKey → Bool) (old new : Nvs) :
    Prop where
  setting : ∀ k, fromNew (.setting k) → k.booted mac (new.setting k) = k.booted mac (old.setting k)
  bleTags : ∀ slot, NvsBleTag.ReadsAsBefore (fromNew (.bleLabel slot)) (fromNew (.bleMac slot))
    (fromNew (.bleRssi slot)) (old.bleTags slot) (new.bleTags slot)

/-- A mixture boots like the old settings exactly when what it has of the new ones reads as
before. -/
theorem Mixes.sameSettings_iff {fromNew : SettingsKey → Bool} {old new mixed : Nvs}
    (h : Mixes fromNew old new mixed) (mac : Vector UInt8 6) :
    FirmwareState.SameSettings (FirmwareState.bootState mac (some mixed))
        (FirmwareState.bootState mac (some old)) ↔
      ReadsAsBefore mac fromNew old new := by
  have hsetting (k : Setting) : (FirmwareState.bootState mac (some mixed)).setting k =
        (FirmwareState.bootState mac (some old)).setting k ↔
      (fromNew (.setting k) → k.booted mac (new.setting k) = k.booted mac (old.setting k)) := by
    have hget : mixed.setting k = _ := h (.setting k)
    rw [FirmwareState.setting_bootState, FirmwareState.setting_bootState, hget]
    by_cases hnew : fromNew (.setting k)
    · simp [hnew, Nvs.get]
    · simp [hnew, Nvs.get]
  have htag (slot : Fin maxBleTags) :=
    NvsBleTag.sameTag_booted_mixed_iff (h (.bleLabel slot)) (h (.bleMac slot)) (h (.bleRssi slot))
  constructor
  · intro hsame
    refine ⟨fun k => (hsetting k).1 (hsame.setting k), fun slot => (htag slot).1 ?_⟩
    have hslot := hsame.bleIdentityTags slot slot.isLt
    rwa [FirmwareState.bleTag_bootState, FirmwareState.bleTag_bootState] at hslot
  · rintro ⟨hsettings, htags⟩
    refine ⟨fun k => (hsetting k).2 (hsettings k), fun slot hslot => ?_⟩
    rw [FirmwareState.bleTag_bootState, FirmwareState.bleTag_bootState]
    exact (htag ⟨slot, hslot⟩).2 (htags ⟨slot, hslot⟩)

/-- A save mixes what was stored with what a complete save stores. -/
theorem mixes_persistRuntimeConfig (settings : Nvs) (taken : SettingsKey → Bool)
    (s : FirmwareState) :
    Mixes taken settings (settings.saved s) (settings.persistRuntimeConfig taken s) := by
  intro key
  cases key with
  | setting k =>
    show (settings.persistRuntimeConfig taken s).setting k = _
    rw [get_persistRuntimeConfig, written]
    split
    · exact (FirmwareState.setting_saved settings s k).symm
    · rfl
  | _ => rfl

theorem Mixes.symm {fromNew : SettingsKey → Bool} {old new mixed : Nvs}
    (h : Mixes fromNew old new mixed) : Mixes (fun key => !fromNew key) new old mixed := by
  intro key
  rw [h key]
  cases hkey : fromNew key <;> simp [hkey]

/-- What is the same under every key boots the same. -/
theorem sameSettings_of_get {settings settings' : Nvs}
    (h : ∀ key, settings.get key = settings'.get key) (mac : Vector UInt8 6) :
    FirmwareState.SameSettings (FirmwareState.bootState mac (some settings))
      (FirmwareState.bootState mac (some settings')) := by
  have hmixes : Mixes (fun _ => false) settings' settings' settings := h
  refine (hmixes.sameSettings_iff mac).2 ⟨nofun, fun slot => ⟨fun _ => ⟨nofun, nofun, nofun⟩, ?_⟩⟩
  intro hfree
  exact Decidable.not_and_iff_not_or_not.1 hfree |>.imp not_not.1 not_not.1

end Nvs

/-! ## Commands -/

namespace FirmwareState

/-- The flash after a command, when of its save only the writes of `taken` take effect. -/
def flashAfter (s : FirmwareState) (command : Str) (uptimeMs : ℕ) (taken : SettingsKey → Bool)
    (flash : Nvs) : Nvs :=
  let outcome := s.handleCommand command uptimeMs
  if outcome.persisted then flash.persistRuntimeConfig taken outcome.state else flash

/-- The node boots with the settings it had before the command or with those after it. -/
def OldOrNew (mac : Vector UInt8 6) (s : FirmwareState) (command : Str) (uptimeMs : ℕ)
    (taken : SettingsKey → Bool) (flash : Nvs) : Prop :=
  SameSettings (bootState mac (some (s.flashAfter command uptimeMs taken flash)))
      (bootState mac (some flash)) ∨
    SameSettings (bootState mac (some (s.flashAfter command uptimeMs taken flash)))
      (bootState mac (some (s.flashAfter command uptimeMs (fun _ => true) flash)))

/-- The flash is as if every write had taken effect. -/
def StoredCompletely (s : FirmwareState) (command : Str) (uptimeMs : ℕ)
    (taken : SettingsKey → Bool) (flash : Nvs) : Prop :=
  ∀ key, (s.flashAfter command uptimeMs taken flash).get key =
    (s.flashAfter command uptimeMs (fun _ => true) flash).get key

theorem SameSettings.refl (s : FirmwareState) : SameSettings s s :=
  ⟨fun _ => rfl, fun _ _ => ⟨rfl, rfl, rfl, rfl⟩⟩

theorem reply_of_persisted_configured {P : Type} {s : FirmwareState} {code : Str}
    {payload : ParseResult P} {apply : P → FirmwareState}
    (h : (s.configured code payload apply).persisted) :
    (s.configured code payload apply).reply = .snapshot := by
  cases payload with
  | ok payload => rfl
  | error _ => cases h

theorem reply_of_persisted_configuredTag {P : Type} {s : FirmwareState} {code : Str}
    {payload : ParseResult P} {apply : P → Option FirmwareState}
    (h : (s.configuredTag code payload apply).persisted) :
    (s.configuredTag code payload apply).reply = .snapshot := by
  cases payload with
  | ok payload =>
    simp only [configuredTag] at h ⊢
    split at h
    · rfl
    · cases h
  | error _ => cases h

/-- Only a configuration that was applied is stored, and it is answered with a snapshot. -/
theorem reply_of_persisted {s : FirmwareState} {command : Str} {uptimeMs : ℕ}
    (h : (s.handleCommand command uptimeMs).persisted) :
    (s.handleCommand command uptimeMs).reply = .snapshot := by
  unfold handleCommand at h ⊢
  split at h
  · cases h
  split at h
  · cases h
  rename_i hsnapshot hdebug
  rw [if_neg hsnapshot, if_neg hdebug]
  cases hcommand : parseDeviceCommand command with
  | none =>
    rw [hcommand] at h
    cases h
  | some command =>
    rw [hcommand] at h
    cases command with
    | homeAssistantConfig payload => exact reply_of_persisted_configured h
    | homeAssistantRoomConfig payload => exact reply_of_persisted_configured h
    | homeAssistantWebSocketConfig payload => exact reply_of_persisted_configured h
    | homeAssistantMqttEndpoint payload => exact reply_of_persisted_configured h
    | tuningConfig payload => exact reply_of_persisted_configured h
    | bleTagConfig payload => exact reply_of_persisted_configuredTag h
    | bleTagClear payload => exact reply_of_persisted_configuredTag h
    | homeAssistantRoomPosePublish payload =>
      unfold handleDeviceCommand at h
      dsimp only at h
      split at h
      · split at h <;> cases h
      · cases h
    | _ => cases h

/-- After a save of which any writes fail, each key has its old value or its new one.  The node
boots with the old settings or the new ones exactly when the new values that were written read
as before or the old ones that were left do, and a command that is answered has been stored
completely exactly when every write that failed was of the value that was stored. -/
theorem save_keywise (mac : Vector UInt8 6) (s : FirmwareState) (command : Str) (uptimeMs : ℕ)
    (taken : SettingsKey → Bool) (flash : Nvs) :
    let outcome := s.handleCommand command uptimeMs
    let complete := flash.saved outcome.state
    (∀ key, (s.flashAfter command uptimeMs taken flash).get key = flash.get key ∨
        outcome.persisted ∧ (s.flashAfter command uptimeMs taken flash).get key = complete.get key) ∧
      (OldOrNew mac s command uptimeMs taken flash ↔
        (outcome.persisted → flash.ReadsAsBefore mac taken complete ∨
          complete.ReadsAsBefore mac (fun key => !taken key) flash)) ∧
      ((outcome.reply = .snapshot → StoredCompletely s command uptimeMs taken flash) ↔
        (outcome.persisted → ∀ key, taken key = false → flash.get key = complete.get key)) := by
  intro outcome complete
  by_cases hpersisted : outcome.persisted
  · have hafter (taken : SettingsKey → Bool) : s.flashAfter command uptimeMs taken flash =
        flash.persistRuntimeConfig taken outcome.state := if_pos hpersisted
    have hmixes : Nvs.Mixes taken flash complete _ :=
      flash.mixes_persistRuntimeConfig taken outcome.state
    refine ⟨fun key => ?_, ?_, ?_⟩
    · rw [hafter, hmixes key]
      split
      · exact .inr ⟨hpersisted, rfl⟩
      · exact .inl rfl
    · unfold OldOrNew
      rw [hafter, hafter, hmixes.sameSettings_iff mac]
      exact ((or_congr_right (hmixes.symm.sameSettings_iff mac)).trans
        (imp_iff_right hpersisted).symm)
    · have hstored : StoredCompletely s command uptimeMs taken flash ↔
          ∀ key, taken key = false → flash.get key = complete.get key := by
        refine forall_congr' fun key => ?_
        rw [hafter, hafter, hmixes key]
        show _ = complete.get key ↔ _
        cases taken key <;> simp
      rw [imp_iff_right (reply_of_persisted hpersisted), imp_iff_right hpersisted, hstored]
  · have hafter (taken : SettingsKey → Bool) : s.flashAfter command uptimeMs taken flash = flash :=
      if_neg hpersisted
    refine ⟨fun key => .inl (by rw [hafter]), iff_of_true ?_ (absurd · hpersisted),
      iff_of_true ?_ (absurd · hpersisted)⟩
    · unfold OldOrNew
      rw [hafter]
      exact .inl (.refl _)
    · intro _ key
      rw [hafter, hafter]

/-- Power that fails after the first writes leaves a network with no broker to reach. -/
theorem save_torn :
    ¬∀ (mac : Vector UInt8 6) (s : FirmwareState) (command : Str) (uptimeMs : ℕ)
      (taken : SettingsKey → Bool) (flash : Nvs), OldOrNew mac s command uptimeMs taken flash ∧
        ((s.handleCommand command uptimeMs).reply = .snapshot →
          StoredCompletely s command uptimeMs taken flash) := by
  intro hall
  let mac : Vector UInt8 6 := ⟨#[2, 0, 0, 10, 11, 12], rfl⟩
  let taken : SettingsKey → Bool
    | .setting .enabled | .setting .wifiSsid => true
    | _ => false
  have hatomic := hall mac (bootState mac (some {})) "ha_config:net|secret|10.0.0.2|1883||||" 0
    taken {}
  rcases hatomic.1 with hold | hnew
  · have hssid := hold.setting .wifiSsid
    revert hssid
    decide +kernel
  · have hhost := hnew.setting .mqttHost
    revert hhost
    decide +kernel

end FirmwareState

end EspWaveRider.Firmware
