import EspWaveRider.Firmware.FirmwareSync
import EspWaveRider.Lib.FirstMax

/-!
# Which release a node syncs to

`firmware_sync_snapshot` of `rust/firmware/esp32s3/src/main.rs` looks through the table
of peers for the highest release, and `request_firmware_sync` queues it.

* `firmwareSyncSnapshot_eq` — the search is the scan for the first of the greatest;
* `releaseSelection` — what it finds, and what a request does with it.
-/

namespace EspWaveRider.Firmware

open Text Release FirstMax

/-- Whether what was found is newer than what the node runs. -/
def FirmwareSyncSnapshot.syncAvailable (snapshot : FirmwareSyncSnapshot) : Bool :=
  snapshot.highestPeerVersion ≠ [] &&
    compareSemanticVersions snapshot.highestPeerVersion snapshot.localVersionCore > 0

/-- The cores decide. -/
theorem compareSemanticVersions_core (left right : Str) :
    compareSemanticVersions (semanticVersionCore left) (semanticVersionCore right) =
      compareSemanticVersions left right := by
  simp only [compareSemanticVersions, semanticVersionCore_idem]

namespace UdpDiscoveryPeerState

/-- A room summary of the peer came in lately. -/
def SummaryFresh (uptimeMs : ℕ) (peer : UdpDiscoveryPeerState) : Prop :=
  peer.lastRoomSummaryMs > 0 ∧ uptimeMs - peer.lastRoomSummaryMs ≤ roomSummaryPeerFreshnessMs

instance (uptimeMs : ℕ) (peer : UdpDiscoveryPeerState) : Decidable (SummaryFresh uptimeMs peer) :=
  inferInstanceAs (Decidable (_ ∧ _))

/-- The version of the peer in the order of `compareSemanticVersions`. -/
def rank (peer : UdpDiscoveryPeerState) : List ℕ := versionRank peer.firmwareVersion

end UdpDiscoveryPeerState

open UdpDiscoveryPeerState

namespace FirmwareState

/-- The peers that count. -/
def releaseCandidates (s : FirmwareState) (uptimeMs : ℕ) : List UdpDiscoveryPeerState :=
  s.udpDiscoveryPeers.filter (ReleaseCandidate uptimeMs)

/-- The first of them whose version no other one exceeds. -/
def selectedPeer (s : FirmwareState) (uptimeMs : ℕ) : Option UdpDiscoveryPeerState :=
  (s.releaseCandidates uptimeMs).find? fun peer =>
    ∀ other ∈ s.releaseCandidates uptimeMs,
      ¬ compareSemanticVersions other.firmwareVersion peer.firmwareVersion > 0

/-- The snapshot when this peer is the highest. -/
def reportedPeer (uptimeMs : ℕ) : Option UdpDiscoveryPeerState → FirmwareSyncSnapshot
  | none =>
    { localVersionCore := semanticVersionCore rustFirmwareVersion
      highestPeerNodeId := [], highestPeerVersion := [], highestPeerSource := [] }
  | some peer =>
    { localVersionCore := semanticVersionCore rustFirmwareVersion
      highestPeerNodeId := peer.nodeId
      highestPeerVersion := semanticVersionCore peer.firmwareVersion
      highestPeerSource := if SummaryFresh uptimeMs peer then "room_summary" else "udp_discovery" }

theorem considerPeer_of_not_candidate {uptimeMs : ℕ} {peer : UdpDiscoveryPeerState}
    (h : ¬ ReleaseCandidate uptimeMs peer) (snapshot : FirmwareSyncSnapshot) :
    considerPeer uptimeMs snapshot peer = snapshot := by
  rw [considerPeer]
  by_cases hstale : uptimeMs - peer.lastSeenMs > udpDiscoveryPeerFreshnessMs
  · rw [if_pos hstale]
  by_cases htarget : peer.buildTarget ≠ rustBuildTarget
  · rw [if_neg hstale, if_pos htarget]
  by_cases hcore : semanticVersionCore peer.firmwareVersion = []
  · rw [if_neg hstale, if_neg htarget, if_pos hcore]
  · exact absurd ⟨Nat.not_lt.1 hstale, not_not.1 htarget, hcore⟩ h

/-- A candidate takes the place of what is reported when it ranks higher. -/
theorem considerPeer_of_candidate {uptimeMs : ℕ} {peer : UdpDiscoveryPeerState}
    (h : ReleaseCandidate uptimeMs peer) {best : Option UdpDiscoveryPeerState}
    (hbest : ∀ b ∈ best, ReleaseCandidate uptimeMs b) :
    considerPeer uptimeMs (reportedPeer uptimeMs best) peer =
      reportedPeer uptimeMs (pick rank best peer) := by
  rw [considerPeer, if_neg (Nat.not_lt.2 h.1), if_neg (not_not.2 h.2.1), if_neg h.2.2]
  cases best with
  | none =>
    have hempty : (reportedPeer uptimeMs none).highestPeerVersion = [] := rfl
    rw [if_pos (Or.inl hempty)]
    rfl
  | some b =>
    have hne : semanticVersionCore b.firmwareVersion ≠ [] := (hbest b rfl).2.2
    have hhigher : ((reportedPeer uptimeMs (some b)).highestPeerVersion = [] ∨
        compareSemanticVersions (semanticVersionCore peer.firmwareVersion)
          (reportedPeer uptimeMs (some b)).highestPeerVersion > 0) ↔ b.rank < peer.rank := by
      show semanticVersionCore b.firmwareVersion = [] ∨ compareSemanticVersions _
        (semanticVersionCore b.firmwareVersion) > 0 ↔ _
      rw [compareSemanticVersions_core, compareSemanticVersions_pos_iff]
      exact or_iff_right hne
    rw [pick]
    by_cases hlt : b.rank < peer.rank
    · rw [if_pos (hhigher.2 hlt), if_pos hlt]
      rfl
    · rw [if_neg (mt hhigher.1 hlt), if_neg hlt]

theorem pick_candidate {uptimeMs : ℕ} {peer : UdpDiscoveryPeerState}
    (h : ReleaseCandidate uptimeMs peer) {best : Option UdpDiscoveryPeerState}
    (hbest : ∀ b ∈ best, ReleaseCandidate uptimeMs b) :
    ∀ b ∈ pick rank best peer, ReleaseCandidate uptimeMs b := by
  cases best with
  | none =>
    rintro b ⟨⟩
    exact h
  | some a =>
    intro b hb
    rw [pick] at hb
    split at hb
    · cases hb
      exact h
    · exact hbest b hb

/-- The search reports the first of the greatest. -/
theorem firmwareSyncSnapshot_eq (s : FirmwareState) (uptimeMs : ℕ) :
    s.firmwareSyncSnapshot uptimeMs =
      reportedPeer uptimeMs (scan rank (s.releaseCandidates uptimeMs)) := by
  have hfold (peers : List UdpDiscoveryPeerState) (best : Option UdpDiscoveryPeerState)
      (hbest : ∀ b ∈ best, ReleaseCandidate uptimeMs b) :
      peers.foldl (considerPeer uptimeMs) (reportedPeer uptimeMs best) =
        reportedPeer uptimeMs ((peers.filter (ReleaseCandidate uptimeMs)).foldl (pick rank) best) := by
    induction peers generalizing best with
    | nil => rfl
    | cons peer peers ih =>
      rw [List.foldl_cons]
      by_cases hpeer : ReleaseCandidate uptimeMs peer
      · rw [considerPeer_of_candidate hpeer hbest, ih _ (pick_candidate hpeer hbest),
          List.filter_cons_of_pos (by simpa using hpeer), List.foldl_cons]
      · rw [considerPeer_of_not_candidate hpeer, ih _ hbest,
          List.filter_cons_of_neg (by simpa using hpeer)]
  exact hfold s.udpDiscoveryPeers none (by simp)

theorem scan_releaseCandidates (s : FirmwareState) (uptimeMs : ℕ) :
    scan rank (s.releaseCandidates uptimeMs) = s.selectedPeer uptimeMs := by
  rw [scan_eq_find?, selectedPeer]
  congr 1
  funext peer
  simp only [Greatest, compareSemanticVersions_pos_iff, not_lt]
  rfl

theorem selectedPeer_isSome_iff (s : FirmwareState) (uptimeMs : ℕ) :
    (s.selectedPeer uptimeMs).isSome ↔
      ∃ peer ∈ s.udpDiscoveryPeers, ReleaseCandidate uptimeMs peer := by
  rw [← scan_releaseCandidates, scan_isSome_iff, releaseCandidates, Ne, List.filter_eq_nil_iff]
  simp

/-- A request on an idle node. -/
theorem requestFirmwareSync_of_idle {s : FirmwareState} (hidle : ¬ s.SyncBusy) (uptimeMs : ℕ) :
    let snapshot := s.firmwareSyncSnapshot uptimeMs
    let sync := (s.requestFirmwareSync uptimeMs).firmwareSyncState
    (sync.pending = snapshot.syncAvailable) ∧
      (sync.pending → sync.targetVersion = semanticVersionCore snapshot.highestPeerVersion) := by
  intro snapshot sync
  have hbusy : (s.firmwareSyncState.pending || s.firmwareSyncState.inProgress) = false := by
    simpa [SyncBusy] using hidle
  have hsync : sync = (s.requestFirmwareSync uptimeMs).firmwareSyncState := rfl
  rw [requestFirmwareSync] at hsync
  by_cases hempty : snapshot.highestPeerVersion = []
  · rw [if_pos hempty] at hsync
    simp [hsync, FirmwareSyncSnapshot.syncAvailable, hempty]
  rw [if_neg hempty] at hsync
  by_cases hlow : compareSemanticVersions snapshot.highestPeerVersion snapshot.localVersionCore ≤ 0
  · rw [if_pos hlow] at hsync
    simp [hsync, FirmwareSyncSnapshot.syncAvailable, not_lt.2 hlow]
  have hcore : semanticVersionCore snapshot.highestPeerVersion ≠ [] := by
    intro hnone
    apply hlow
    rw [compareSemanticVersions, hnone]
    simp only [true_and, ↓reduceIte]
    split <;> decide
  rw [if_neg hlow, requestFirmwareUpdate] at hsync
  dsimp only at hsync
  rw [if_neg hcore, if_neg (by rw [hbusy]; decide)] at hsync
  have havailable : snapshot.syncAvailable = true := by
    rw [FirmwareSyncSnapshot.syncAvailable, decide_eq_true hempty, decide_eq_true (not_le.1 hlow)]
    rfl
  rw [hsync, havailable]
  exact ⟨rfl, fun _ => rfl⟩

/-- The snapshot reports the selected peer. -/
theorem firmwareSyncSnapshot_eq_reportedPeer (s : FirmwareState) (uptimeMs : ℕ) :
    s.firmwareSyncSnapshot uptimeMs = reportedPeer uptimeMs (s.selectedPeer uptimeMs) := by
  rw [← scan_releaseCandidates]
  exact firmwareSyncSnapshot_eq s uptimeMs

theorem semanticVersionCore_highestPeerVersion (s : FirmwareState) (uptimeMs : ℕ) :
    semanticVersionCore (s.firmwareSyncSnapshot uptimeMs).highestPeerVersion =
      (s.firmwareSyncSnapshot uptimeMs).highestPeerVersion := by
  rw [firmwareSyncSnapshot_eq_reportedPeer]
  cases s.selectedPeer uptimeMs with
  | none => rfl
  | some peer => exact semanticVersionCore_idem _

theorem highestPeerVersion_ne_nil_iff (s : FirmwareState) (uptimeMs : ℕ) :
    (s.firmwareSyncSnapshot uptimeMs).highestPeerVersion ≠ [] ↔
      (s.selectedPeer uptimeMs).isSome := by
  rw [firmwareSyncSnapshot_eq_reportedPeer]
  cases hpeer : s.selectedPeer uptimeMs with
  | none => exact iff_of_false (fun h => h rfl) Bool.false_ne_true
  | some peer =>
    have hmem : peer ∈ s.releaseCandidates uptimeMs := List.mem_of_find?_eq_some hpeer
    have hcandidate : ReleaseCandidate uptimeMs peer := by
      simpa using (List.mem_filter.1 hmem).2
    exact iff_of_true hcandidate.2.2 rfl

/-- A fresh room summary is named as the source. -/
theorem highestPeerSource_reportedPeer_iff (uptimeMs : ℕ) (peer : UdpDiscoveryPeerState) :
    (reportedPeer uptimeMs (some peer)).highestPeerSource = ("room_summary" : Str) ↔
      SummaryFresh uptimeMs peer := by
  show (if SummaryFresh uptimeMs peer then ("room_summary" : Str) else "udp_discovery") = _ ↔ _
  have hsources : ("udp_discovery" : Str) ≠ "room_summary" := by decide
  by_cases hfresh : SummaryFresh uptimeMs peer
  · rw [if_pos hfresh]
    exact iff_of_true rfl hfresh
  · rw [if_neg hfresh]
    exact iff_of_false hsources hfresh

/-- An update is available when the version is newer than the local one. -/
theorem syncAvailable_iff (s : FirmwareState) (uptimeMs : ℕ) :
    (s.firmwareSyncSnapshot uptimeMs).syncAvailable ↔
      compareSemanticVersions (s.firmwareSyncSnapshot uptimeMs).highestPeerVersion
        rustFirmwareVersion > 0 := by
  have hcore := semanticVersionCore_highestPeerVersion s uptimeMs
  have hlocal := localVersionCore_firmwareSyncSnapshot s uptimeMs
  set snapshot := s.firmwareSyncSnapshot uptimeMs
  have hcompare : compareSemanticVersions snapshot.highestPeerVersion snapshot.localVersionCore =
      compareSemanticVersions snapshot.highestPeerVersion rustFirmwareVersion := by
    rw [hlocal, ← hcore, compareSemanticVersions_core, hcore]
  rw [FirmwareSyncSnapshot.syncAvailable, hcompare, Bool.and_eq_true, decide_eq_true_eq,
    decide_eq_true_eq, and_iff_right_iff_imp]
  intro hhigher hempty
  rw [hempty, compareSemanticVersions_pos_iff] at hhigher
  exact List.not_lt_nil _ hhigher

/-- The snapshot names a version exactly when there is a candidate; it reports the first
candidate that no other one exceeds, and a request on an idle node queues this version
exactly when it is newer than the local one. -/
theorem releaseSelection (s : FirmwareState) (uptimeMs : ℕ) :
    let snapshot := s.firmwareSyncSnapshot uptimeMs
    (snapshot.highestPeerVersion ≠ [] ↔
        ∃ peer ∈ s.udpDiscoveryPeers, ReleaseCandidate uptimeMs peer) ∧
      (snapshot.highestPeerVersion ≠ [] → ∃ peer, s.selectedPeer uptimeMs = some peer ∧
        snapshot.highestPeerVersion = semanticVersionCore peer.firmwareVersion ∧
        snapshot.highestPeerNodeId = peer.nodeId ∧
        (snapshot.highestPeerSource = ("room_summary" : Str) ↔ SummaryFresh uptimeMs peer)) ∧
      (snapshot.syncAvailable ↔
        compareSemanticVersions snapshot.highestPeerVersion rustFirmwareVersion > 0) ∧
      (¬ s.SyncBusy →
        let sync := (s.requestFirmwareSync uptimeMs).firmwareSyncState
        (sync.pending ↔ snapshot.syncAvailable) ∧
          (sync.pending → sync.targetVersion = snapshot.highestPeerVersion)) := by
  intro snapshot
  have hnamed := highestPeerVersion_ne_nil_iff s uptimeMs
  refine ⟨hnamed.trans (selectedPeer_isSome_iff s uptimeMs), ?_, syncAvailable_iff s uptimeMs, ?_⟩
  · intro hne
    obtain ⟨peer, hpeer⟩ := Option.isSome_iff_exists.1 (hnamed.1 hne)
    have hsnapshot : snapshot = reportedPeer uptimeMs (some peer) := by
      rw [← hpeer]
      exact firmwareSyncSnapshot_eq_reportedPeer s uptimeMs
    rw [hsnapshot]
    exact ⟨peer, hpeer, rfl, rfl, highestPeerSource_reportedPeer_iff uptimeMs peer⟩
  · intro hidle
    obtain ⟨hpending, htarget⟩ := requestFirmwareSync_of_idle hidle uptimeMs
    refine ⟨by rw [hpending], ?_⟩
    intro h
    exact (htarget h).trans (semanticVersionCore_highestPeerVersion s uptimeMs)

end FirmwareState

end EspWaveRider.Firmware
