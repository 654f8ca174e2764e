import EspWaveRider.Firmware.DeviceUpdates
import EspWaveRider.Fleet

/-!
# Updates in a fleet

Which updates the nodes of a fleet offer each other, and when a node turns to one
(`rust/firmware/esp32s3/src/main.rs`).

* `fleet_offer_told` — whatever release a node names was told by a message under the name it gives;
* `rust_fleet_stays` — a fleet of nodes with this firmware never updates itself: without a command
  that names a version nothing is ever queued, and no step writes to flash.
-/

namespace EspWaveRider

open Text Firmware Machine Release Command

/-! ## Offers -/

/-- No release is newer than itself. -/
theorem not_newer_core :
    ¬ versionRank rustFirmwareVersion < versionRank (semanticVersionCore rustFirmwareVersion) := by
  decide

/-- A release that a node names is that of a fresh peer in its table. -/
theorem exists_offering_peer {s : FirmwareState} {uptimeMs : ℕ}
    (h : (s.firmwareSyncSnapshot uptimeMs).highestPeerVersion ≠ []) :
    ∃ peer ∈ s.udpDiscoveryPeers, FirmwareState.ReleaseCandidate uptimeMs peer ∧
      (s.firmwareSyncSnapshot uptimeMs).highestPeerVersion = semanticVersionCore peer.firmwareVersion ∧
      (s.firmwareSyncSnapshot uptimeMs).highestPeerNodeId = peer.nodeId := by
  obtain ⟨peer, hpeer⟩ := Option.isSome_iff_exists.1
    ((FirmwareState.highestPeerVersion_ne_nil_iff s uptimeMs).1 h)
  have hmem : peer ∈ s.releaseCandidates uptimeMs := List.mem_of_find?_eq_some hpeer
  obtain ⟨htable, hcandidate⟩ := List.mem_filter.1 hmem
  rw [FirmwareState.firmwareSyncSnapshot_eq_reportedPeer, hpeer]
  exact ⟨peer, htable, by simpa using hcandidate, rfl, rfl⟩

section Offers

variable {ι : Type} [DecidableEq ι] {party : ι → FleetParty} {n : Network ι FleetNode PeerMessage}

/-- In every run of a fleet, a release that a node names was told under the identifier it gives by a
message of a node of the fleet, for the target of this firmware. -/
theorem fleet_offer_told (h : (fleet party).network.Reach Always n) {i : ι} {d : Device}
    (hd : n.party i = .rust d) {uptimeMs : ℕ}
    (hoffer : (d.state.firmwareSyncSnapshot uptimeMs).highestPeerVersion ≠ []) :
    ∃ m ∈ n.sent, m.readSender = (d.state.firmwareSyncSnapshot uptimeMs).highestPeerNodeId ∧
      semanticVersionCore m.readVersion =
        (d.state.firmwareSyncSnapshot uptimeMs).highestPeerVersion ∧
      m.readTarget = rustBuildTarget ∧
      ((d.state.firmwareSyncSnapshot uptimeMs).syncAvailable → m.isRust = false) := by
  have htold := told_of_reach h i
  rw [hd] at htold
  obtain ⟨peer, hpeer, hcandidate, hversion, hid⟩ := exists_offering_peer hoffer
  obtain ⟨m, hm, hsender, -, -, hread, htarget⟩ := (htold peer hpeer).latest
  refine ⟨m, hm, hsender.trans hid.symm, ?_, htarget.trans hcandidate.2.1, fun havailable => ?_⟩
  · rw [hversion, hread]
  · -- a Rust node tells the version that this one runs
    cases m with
    | cppAnnouncement c => rfl
    | cppSummary c => rfl
    | rustAnnouncement A _ _ | rustSummary A _ =>
      rw [FirmwareState.syncAvailable_iff, hversion, ← hread,
        compareSemanticVersions_pos_iff] at havailable
      exact absurd havailable not_newer_core

end Offers

/-- The Rust node offers the release that the C++ node runs. -/
theorem fleet_offer_told_of_announcement : ∃ n : Network Bool FleetNode PeerMessage, ∃ m ∈ n.sent,
    n.party true = .rust toldDevice ∧ semanticVersionCore m.readVersion = ("1.4.0" : Str) ∧
      m.readSender = ("den" : Str) ∧ m.isRust = false := by
  obtain ⟨n, hreach, hn⟩ := reach_told
  obtain ⟨m, hm, hsender, hversion, -, hrust⟩ :=
    @fleet_offer_told Bool _ _ _ hreach true _ hn 3000 (by decide +kernel)
  exact ⟨n, m, hm, hn, hversion.trans (by decide +kernel), hsender.trans (by decide +kernel),
    hrust (by decide +kernel)⟩

/-! ## A fleet of this firmware -/

/-- The command names a version to update to. -/
def NamesVersion (command : Str) : Prop :=
  ∃ version, parseDeviceCommand command = some (.firmwareUpdate version)

/-- No command of the round does. -/
def NamesNoVersion (httpsOta : Bool) (d : Device) : DeviceEvent → Prop
  | .reboot .. => True
  | .round r => ∀ s command, d.Executes httpsOta r s command → ¬ NamesVersion command

/-- The peers of the node run what it runs. -/
def PeersAlike (s : FirmwareState) : Prop :=
  ∀ peer ∈ s.udpDiscoveryPeers, peer.firmwareVersion = rustFirmwareVersion

/-- Among equals there is nothing to offer. -/
theorem syncAvailable_of_peersAlike {s : FirmwareState} (h : PeersAlike s) (uptimeMs : ℕ) :
    (s.firmwareSyncSnapshot uptimeMs).syncAvailable = false := by
  rw [Bool.eq_false_iff, Ne, FirmwareState.syncAvailable_iff, compareSemanticVersions_pos_iff]
  intro hhigher
  have hnamed : (s.firmwareSyncSnapshot uptimeMs).highestPeerVersion ≠ [] := by
    intro hnone
    rw [hnone] at hhigher
    exact absurd hhigher (by decide)
  obtain ⟨peer, hpeer, -, hversion, -⟩ := exists_offering_peer hnamed
  rw [hversion, h peer hpeer] at hhigher
  exact absurd hhigher not_newer_core

theorem pending_requestFirmwareSync {s : FirmwareState} {uptimeMs : ℕ}
    (h : (s.firmwareSyncSnapshot uptimeMs).syncAvailable = false) :
    (s.requestFirmwareSync uptimeMs).firmwareSyncState.pending = false := by
  unfold FirmwareState.requestFirmwareSync
  dsimp only
  split_ifs with hempty hlow
  · rfl
  · rfl
  · have havailable : (s.firmwareSyncSnapshot uptimeMs).syncAvailable = true := by
      rw [FirmwareSyncSnapshot.syncAvailable, decide_eq_true hempty,
        decide_eq_true (not_le.1 hlow)]
      rfl
    rw [h] at havailable
    cases havailable

/-- A command that names no version queues nothing. -/
theorem pending_handleCommand {s : FirmwareState} (halike : PeersAlike s)
    (hidle : s.firmwareSyncState.pending = false) {command : Str}
    (hnames : ¬ NamesVersion command) (uptimeMs : ℕ) :
    (s.handleCommand command uptimeMs).state.firmwareSyncState.pending = false := by
  by_cases hsync : parseDeviceCommand command = some .firmwareSync
  · rw [FirmwareState.state_handleCommand, hsync]
    exact pending_requestFirmwareSync (syncAvailable_of_peersAlike halike uptimeMs)
  · rw [FirmwareState.firmwareSyncState_handleCommand _ uptimeMs]
    · exact hidle
    · exact fun h => h.elim hsync hnames

/-- No update is queued, and none of the peers has another one. -/
structure Settled (d : Device) (flash : OtaFlash) : Prop where
  pending : d.state.firmwareSyncState.pending = false
  flash : d.flash = flash

section Rounds

variable {d : Device} {r : Round} {flash : OtaFlash}

theorem Settled.of_update {d' : Device} (h : Settled d flash) (hsame : d'.update = d.update) :
    Settled d' flash :=
  ⟨(congrArg (fun update => update.1.pending) hsame).trans h.pending,
    (congrArg Prod.snd hsame).trans h.flash⟩

theorem Settled.handleCommand (h : Settled d flash) (halike : PeersAlike d.state) {command : Str}
    (hnames : ¬ NamesVersion command)
    (answers : HandlerAnswers) : Settled (d.handleCommand answers command).1 flash := by
  refine ⟨?_, h.flash⟩
  rw [Device.state_handleCommand]
  exact pending_handleCommand halike h.pending hnames _

/-- An update that is not queued is not carried out. -/
theorem Settled.serve (h : Settled d flash) (halike : PeersAlike d.state) {httpsOta : Bool}
    (hnames : ∀ command : HString 256, r.httpRequest = some (.command command) →
      ¬ NamesVersion command.items) :
    Settled (d.serve httpsOta r).1 flash := by
  unfold Device.serve
  cases hrequest : r.httpRequest with
  | none =>
    have hkept : d.state.serviceFirmwareSync httpsOta r.now r.attempts d.flash =
        (d.state, d.flash) := by
      unfold FirmwareState.serviceFirmwareSync
      rw [if_pos (by simp [h.pending])]
    dsimp only
    rw [hkept]
    exact h
  | some request =>
    cases request with
    | snapshot => exact h.of_update rfl
    | command command =>
      exact (h.handleCommand halike (hnames command hrequest) r.httpAnswers).of_update rfl

theorem Settled.readUsb (h : Settled d flash) (halike : PeersAlike d.state)
    (hnames : ∀ command, r.usbByte = some 0x0A → Console.command d.commandBuffer = some command →
      ¬ NamesVersion command) :
    Settled (d.readUsb r).1 flash := by
  unfold Device.readUsb
  cases hbyte : r.usbByte with
  | none => exact h
  | some byte =>
    dsimp only
    unfold Device.readUsbByte
    split_ifs with hfeed
    · exact h.of_update rfl
    · cases hcommand : Console.command d.commandBuffer with
      | none => exact h.of_update rfl
      | some command =>
        have hdone := h.handleCommand halike (hnames command (hfeed ▸ hbyte) hcommand) r.usbAnswers
        exact hdone.of_update rfl
    · exact h.of_update rfl

theorem AllTold.peersAlike {sent : List PeerMessage} {s : FirmwareState} (h : AllTold sent s)
    (hrust : ∀ m ∈ sent, m.isRust) : PeersAlike s := by
  intro peer hpeer
  obtain ⟨m, hm, -, -, -, hversion, -⟩ := (h peer hpeer).latest
  have hm := hrust m hm
  rw [← hversion]
  cases m with
  | rustAnnouncement _ _ _ | rustSummary _ _ => rfl
  | cppAnnouncement _ | cppSummary _ => cases hm

/-- A round among equals, without a command that names a version. -/
theorem Settled.round {ι : Type} {party : ι → FleetParty} {sent : List PeerMessage}
    (h : Settled d flash) (hrust : ∀ m ∈ sent, m.isRust) (htold : AllTold sent d.state)
    (hheard : (fleet party).Heard sent (.rust (.round r))) {httpsOta : Bool}
    (hnames : NamesNoVersion httpsOta d (.round r)) : Settled (d.round httpsOta r).1 flash := by
  have hallows := roundAllows_hearsOnly hheard httpsOta d
  have hkept {s s' : FirmwareState} (hsteps : peerMachine.Steps (HearsOnly sent) s s')
      (hs : AllTold sent s) : AllTold sent s' :=
    hsteps.invariant (fun _ _ _ hs hok hstep => hs.peerStep hok hstep) hs
  have hreceived := hkept (Device.steps_receive hallows) htold
  have hserved := hkept (Device.steps_serve hallows) hreceived
  have hsensed := hkept (steps_of_work hallows.work (FirmwareState.work_pollPresence
    ((d.receive r).1.serve httpsOta r).1.state r.presencePin r.now)) hserved
  have hserve : Settled ((d.receive r).1.serve httpsOta r).1 flash :=
    (h.of_update (d.update_receive r)).serve (hreceived.peersAlike hrust)
      fun command hrequest => hnames _ _ (.http hrequest)
  rw [Device.round_eq]
  exact (hserve.of_update (Device.update_sense _ r)).readUsb (hsensed.peersAlike hrust)
    fun command hbyte hcommand => hnames _ _ (.usb hbyte hcommand)

end Rounds

/-! ## Runs of such a fleet -/

section Runs

variable {ι : Type} [DecidableEq ι] {party : ι → FleetParty} {n n' : Network ι FleetNode PeerMessage}

/-- The nodes all have this firmware. -/
def AllRust (party : ι → FleetParty) : Prop := ∀ i, ∃ httpsOta mac, party i = .rust httpsOta mac

/-- The node that does something is given no version. -/
def NoneNamed (party : ι → FleetParty) (n : Network ι FleetNode PeerMessage) (e : ι × FleetEvent) :
    Prop :=
  ∀ httpsOta mac d event, party e.1 = .rust httpsOta mac → n.party e.1 = .rust d →
    e.2 = .rust event → NamesNoVersion httpsOta d event

theorem isRust_of_sent (hall : AllRust party) (h : (fleet party).network.Reach Always n) :
    ∀ m ∈ n.sent, m.isRust := by
  intro m hm
  obtain ⟨i, node, e, node', -, -, hstep, htells⟩ := Protocol.Reach.said (reach_each h) hm
  obtain ⟨httpsOta, mac, hparty⟩ := hall i
  cases e with
  | cpp c summary =>
    obtain ⟨_, hcpp, -, -⟩ := cpp_of_step hstep
    rw [hparty] at hcpp
    cases hcpp
  | rust e =>
    obtain ⟨_, _, d, -, -, rfl, -, -⟩ := rust_of_step hstep
    cases e with
    | reboot _ _ _ _ _ => cases htells
    | round r =>
      rcases List.mem_append.1 htells with hannounced | hsummarized
      · obtain ⟨-, -, rfl⟩ := Option.map_eq_some_iff.1 (Option.mem_toList.1 hannounced)
        rfl
      · obtain ⟨-, -, rfl⟩ := Option.map_eq_some_iff.1 (Option.mem_toList.1 hsummarized)
        rfl

theorem settled_boot {mac : Vector UInt8 6} {stored : Nvs} {settingsOpen : Bool} {flash : OtaFlash}
    {reason : Str} {benchmark : Option RuntimeBenchmarkSnapshot} {presencePin : Bool} {uptimeMs : ℕ} :
    Settled (Device.boot mac stored settingsOpen flash reason benchmark presencePin uptimeMs)
      flash := by
  refine ⟨?_, rfl⟩
  show ((FirmwareState.bootState mac _).pollPresence presencePin uptimeMs).firmwareSyncState.pending
    = false
  rw [(FirmwareState.work_pollPresence _ presencePin uptimeMs).firmwareSyncState,
    FirmwareState.firmwareSyncState_bootState]

/-- What a step makes of the nodes. -/
theorem settled_step (hall : AllRust party) (hreach : (fleet party).network.Reach Always n)
    (hidle : ∀ i d, n.party i = .rust d → d.state.firmwareSyncState.pending = false)
    {e : ι × FleetEvent} (hnamed : NoneNamed party n e) (hstep : (fleet party).network.step n e = some n')
    {i : ι} {d' : Device} (hd' : n'.party i = .rust d') :
    ∃ d, n.party i = .rust d ∧ Settled d' d.flash := by
  obtain ⟨j, e⟩ := e
  obtain ⟨hheard, node, hnode, rfl⟩ := Protocol.network_step_eq_some_iff.1 hstep
  by_cases hi : i = j
  · subst hi
    simp only [Function.update_self] at hd'
    subst hd'
    cases e with
    | cpp c summary =>
      obtain ⟨_, -, -, hcpp⟩ := cpp_of_step hnode
      cases hcpp
    | rust e =>
      obtain ⟨httpsOta, mac, d, d', hparty, hd, hdevice, hsame⟩ := rust_of_step hnode
      cases hsame
      refine ⟨d, hd, ?_⟩
      have hnames := hnamed httpsOta mac d e hparty hd rfl
      cases e with
      | reboot settingsOpen reason benchmark pin uptimeMs =>
        simp only [deviceMachine] at hdevice
        split_ifs at hdevice
        cases hdevice
        exact settled_boot
      | round r =>
        simp only [deviceMachine] at hdevice
        split_ifs at hdevice
        cases hdevice
        have htold := told_of_reach hreach i
        rw [hd] at htold
        exact Settled.round ⟨hidle i d hd, rfl⟩ (isRust_of_sent hall hreach) htold hheard hnames
  · simp only [Function.update_of_ne hi] at hd'
    exact ⟨d', hd', hidle i d' hd', rfl⟩

theorem pending_of_reach (hall : AllRust party)
    (h : (fleet party).network.Reach (NoneNamed party) n) :
    ∀ i d, n.party i = .rust d → d.state.firmwareSyncState.pending = false := by
  induction h with
  | @start n hstart =>
    intro i d hd
    obtain ⟨httpsOta, mac, hparty⟩ := hall i
    have hboot : (party i).start (n.party i) := hstart.1 i
    rw [hparty, hd] at hboot
    obtain ⟨stored, settingsOpen, flash, reason, benchmark, pin, uptimeMs, -, rfl⟩ := hboot
    exact settled_boot.pending
  | step hreach hnamed hstep ih =>
    intro i d' hd'
    obtain ⟨d, -, hsettled⟩ :=
      settled_step hall (hreach.mono fun _ _ _ => trivial) ih hnamed hstep hd'
    exact hsettled.pending

/-- A fleet of nodes with this firmware never updates itself: in every run in which no command names
a version, no node ever has an update queued or offers one, and no step changes the OTA slots of a
node. -/
theorem rust_fleet_stays (hall : AllRust party) (h : (fleet party).network.Reach (NoneNamed party) n)
    {i : ι} {d : Device} (hd : n.party i = .rust d) :
    d.state.firmwareSyncState.pending = false ∧
      (∀ uptimeMs, (d.state.firmwareSyncSnapshot uptimeMs).syncAvailable = false) ∧
      ∀ e n' d', NoneNamed party n e → (fleet party).network.step n e = some n' →
        n'.party i = .rust d' → d'.flash = d.flash := by
  have hreach : (fleet party).network.Reach Always n := h.mono fun _ _ _ => trivial
  have hidle := pending_of_reach hall h
  refine ⟨hidle i d hd, fun uptimeMs => ?_, fun e n' d' hnamed hstep hd' => ?_⟩
  · have htold := told_of_reach hreach i
    rw [hd] at htold
    exact syncAvailable_of_peersAlike (htold.peersAlike (isRust_of_sent hall hreach)) uptimeMs
  · obtain ⟨d₀, hd₀, hsettled⟩ := settled_step hall hreach hidle hnamed hstep hd'
    rw [hd] at hd₀
    cases hd₀
    exact hsettled.flash

end Runs

/-! ### Two nodes that are told to look for updates -/

def twoNodes (_ : Bool) : FleetParty := .rust true hallMac

theorem weight_firmwareSync : weight Char.utf8Size ("firmware_sync" : Str) ≤ 256 := by decide

def syncRound : Round := requestRound 1000 (.command ⟨"firmware_sync", weight_firmwareSync⟩)

theorem rust_fleet_stays_when_asked :
    (factoryDevice.round true syncRound).1.state.firmwareSyncState.pending = false ∧
      (factoryDevice.round true syncRound).1.state.firmwareSyncState.lastError =
        ("no_peer_release_candidate" : Str) := by
  have hstart : (fleet twoNodes).network.start ⟨fun _ => .rust factoryDevice, []⟩ :=
    ⟨fun _ => start_factoryDevice, rfl⟩
  have hstep : (fleet twoNodes).network.step ⟨fun _ => .rust factoryDevice, []⟩
      (true, .rust (.round syncRound)) = some _ :=
    step_rust rfl rfl (fun w hw => absurd hw List.not_mem_nil) (by decide)
  have hnamed : NoneNamed twoNodes ⟨fun _ => .rust factoryDevice, []⟩
      (true, .rust (.round syncRound)) := by
    intro httpsOta mac d event _ _ hevent
    cases hevent
    intro s command hexecutes
    cases hexecutes with
    | usb hbyte _ => cases hbyte
    | http hrequest =>
      cases hrequest
      rintro ⟨version, hversion⟩
      have hparse : parseDeviceCommand ("firmware_sync" : Str) = some .firmwareSync := by decide
      rw [hparse] at hversion
      cases hversion
  have hstays := rust_fleet_stays (fun _ => ⟨_, _, rfl⟩) ((Reach.start hstart).step hnamed hstep)
    (i := true) rfl
  exact ⟨hstays.1, by decide +kernel⟩

end EspWaveRider
