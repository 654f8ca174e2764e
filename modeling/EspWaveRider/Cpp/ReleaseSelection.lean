import EspWaveRider.Cpp.PeerAdmission
import EspWaveRider.Cpp.UdpDiscovery
import EspWaveRider.Lib.FirstMax
import EspWaveRider.VersionOrder

/-!
# Which release a C++ node syncs to

`findHighestPeerReleaseVersion` of `src/main.cpp` looks through the room peers and then through the
peers discovered over UDP for the highest release that was built for this board.

* `findHighestPeerReleaseVersion_eq` — the search is the scan for the first of the greatest;
* `highestRelease_iff` — what it finds.
-/

namespace EspWaveRider.Cpp

open Text FirstMax Narrowing

/-- What the search looks at of a peer. -/
structure PeerCandidate where
  nodeId : Str
  version : Str
  buildTarget : Str
  source : Str
  deriving DecidableEq

/-- The best release so far; there is none while the version is empty. -/
structure PeerRelease where
  nodeId : Str := []
  version : Str := []
  source : Str := []
  deriving DecidableEq

def considerPeer (localBuildTarget : Str) (best : PeerRelease) (candidate : PeerCandidate) : PeerRelease :=
  let candidateCore := semanticVersionCore candidate.version
  if candidate.nodeId = [] ∨ candidateCore = [] ∨ candidate.buildTarget ≠ localBuildTarget then best
  else if best.version = [] ∨ compareSemanticVersions candidateCore best.version > 0 then
    ⟨candidate.nodeId, candidateCore, candidate.source⟩
  else best

def roomCandidates (roomPeers : RoomPeers) (now : UInt32) : List PeerCandidate :=
  (List.finRange maxRoomPeers).filterMap fun index =>
    let peer := roomPeers index
    if !peer.occupied || now - peer.lastUpdatedMs > roomPeerFreshnessMs then none
    else some ⟨peer.nodeId, peer.firmwareVersion, peer.buildTarget, "room_summary"⟩

def udpCandidates (udpDiscoveryPeers : UdpDiscoveryPeers) (now : UInt32) : List PeerCandidate :=
  (List.finRange maxUdpDiscoveryPeers).filterMap fun index =>
    let peer := udpDiscoveryPeers index
    if !peer.occupied || now - peer.lastSeenMs > udpDiscoveryPeerFreshnessMs then none
    else some ⟨peer.nodeId, peer.firmwareVersion, peer.buildTarget, "udp_discovery"⟩

/-- The peers in the order in which they are considered. -/
def visiblePeers (roomPeers : RoomPeers) (udpDiscoveryPeers : UdpDiscoveryPeers) (now : UInt32) :
    List PeerCandidate :=
  roomCandidates roomPeers now ++ udpCandidates udpDiscoveryPeers now

/-- The search over the visible peers. -/
def findHighestPeerReleaseVersion (localBuildTarget : Str) (visible : List PeerCandidate) : PeerRelease :=
  visible.foldl (considerPeer localBuildTarget) {}

/-! ## The core of a core -/

theorem trim_eq_self {s : Str} (h : ∀ c ∈ s, isCSpace c = false) : trim s = s := by
  have hdrop : s.dropWhile isCSpace = s := List.dropWhile_eq_self_iff.2 fun hlen => by
    simp [h _ (List.getElem_mem hlen)]
  rw [trim, hdrop, List.rdropWhile_eq_self_iff]
  intro hne
  simp [h _ (List.getLast_mem hne)]

theorem isCSpace_of_isAsciiDigit {c : Char} (h : isAsciiDigit c) : isCSpace c = false := by
  simp only [isAsciiDigit, Bool.and_eq_true, decide_eq_true_eq] at h
  have hlow : '0'.toNat ≤ c.toNat := h.1
  have hzero : '0'.toNat = 48 := rfl
  have hspace : c ≠ ' ' := by
    rintro rfl
    exact absurd hlow (by decide)
  simp [isCSpace, hspace]
  omega

theorem semanticVersionCore_idem (version : Str) :
    semanticVersionCore (semanticVersionCore version) = semanticVersionCore version := by
  rcases semanticVersionCore_cases version with hempty | ⟨major, minor, patch, hmajor, hminor, hpatch, heq⟩
  · rw [hempty]
    rfl
  · rw [heq]
    have hchars : ∀ c ∈ major ++ '.' :: minor ++ '.' :: patch, isAsciiDigit c ∨ c = '.' := by
      intro c hc
      simp only [List.mem_append, List.mem_cons] at hc
      rcases hc with (hc | hc | hc) | hc | hc
      · exact .inl (hmajor.2 c hc)
      · exact .inr hc
      · exact .inl (hminor.2 c hc)
      · exact .inr hc
      · exact .inl (hpatch.2 c hc)
    have htrim : trim (major ++ '.' :: minor ++ '.' :: patch) = major ++ '.' :: minor ++ '.' :: patch :=
      trim_eq_self fun c hc => by
        rcases hchars c hc with hdigit | rfl
        · exact isCSpace_of_isAsciiDigit hdigit
        · decide
    have hcore := Release.semanticVersionCore_of_numbers hmajor hminor hpatch
    have htrim' : Text.trim (major ++ '.' :: minor ++ '.' :: patch) = major ++ '.' :: minor ++ '.' :: patch :=
      Text.trim_eq_self fun c hc => by
        rcases hchars c hc with hdigit | rfl
        · exact isWhitespace_of_isAsciiDigit hdigit
        · decide
    rw [Release.semanticVersionCore, htrim'] at hcore
    rw [semanticVersionCore, htrim]
    exact hcore

/-- The cores decide. -/
theorem compareSemanticVersions_core (left right : Str) :
    compareSemanticVersions (semanticVersionCore left) (semanticVersionCore right) =
      compareSemanticVersions left right := by
  simp only [compareSemanticVersions, semanticVersionCore_idem]

/-! ## The search -/

namespace PeerCandidate

/-- A peer that counts: it has a name, runs a release and was built for the same board. -/
def Counts (localBuildTarget : Str) (candidate : PeerCandidate) : Prop :=
  candidate.nodeId ≠ [] ∧ semanticVersionCore candidate.version ≠ [] ∧
    candidate.buildTarget = localBuildTarget

instance (localBuildTarget : Str) (candidate : PeerCandidate) :
    Decidable (candidate.Counts localBuildTarget) := inferInstanceAs (Decidable (_ ∧ _))

/-- Its version in the order of `compareSemanticVersions`. -/
def rank (candidate : PeerCandidate) : List ℤ := (versionNumbers candidate.version).map narrowInt

theorem compare_pos_iff (left right : PeerCandidate) :
    compareSemanticVersions left.version right.version > 0 ↔ right.rank < left.rank := by
  rw [gt_iff_lt, ← not_le, compareSemanticVersions_eq, order_le_zero_iff, not_le]
  rfl

end PeerCandidate

open PeerCandidate

/-- What is reported when this peer is the best. -/
def reportedRelease : Option PeerCandidate → PeerRelease
  | none => {}
  | some peer => ⟨peer.nodeId, semanticVersionCore peer.version, peer.source⟩

theorem considerPeer_of_not_counts {localBuildTarget : Str} {candidate : PeerCandidate}
    (h : ¬ candidate.Counts localBuildTarget) (best : PeerRelease) :
    considerPeer localBuildTarget best candidate = best := by
  refine if_pos ?_
  by_contra hnone
  push Not at hnone
  exact h hnone

theorem considerPeer_of_counts {localBuildTarget : Str} {candidate : PeerCandidate}
    (h : candidate.Counts localBuildTarget) {best : Option PeerCandidate}
    (hbest : ∀ b ∈ best, b.Counts localBuildTarget) :
    considerPeer localBuildTarget (reportedRelease best) candidate =
      reportedRelease (pick rank best candidate) := by
  rw [considerPeer, if_neg (by simpa [Counts] using h)]
  cases best with
  | none => exact if_pos (Or.inl rfl)
  | some b =>
    have hne : semanticVersionCore b.version ≠ [] := (hbest b rfl).2.1
    have hhigher : ((reportedRelease (some b)).version = [] ∨ compareSemanticVersions
        (semanticVersionCore candidate.version) (reportedRelease (some b)).version > 0) ↔
        b.rank < candidate.rank := by
      show semanticVersionCore b.version = [] ∨ compareSemanticVersions _ (semanticVersionCore b.version) > 0 ↔ _
      rw [compareSemanticVersions_core, compare_pos_iff]
      exact or_iff_right hne
    rw [pick]
    by_cases hlt : b.rank < candidate.rank
    · rw [if_pos (hhigher.2 hlt), if_pos hlt]
      rfl
    · rw [if_neg (mt hhigher.1 hlt), if_neg hlt]

theorem pick_counts {localBuildTarget : Str} {candidate : PeerCandidate}
    (h : candidate.Counts localBuildTarget) {best : Option PeerCandidate}
    (hbest : ∀ b ∈ best, b.Counts localBuildTarget) :
    ∀ b ∈ pick rank best candidate, b.Counts localBuildTarget := by
  cases best with
  | none =>
    rintro b ⟨⟩
    exact h
  | some a =>
    intro b hb
    rw [pick] at hb
    split at hb
    · cases hb
      exact h
    · exact hbest b hb

/-- The search reports the first of the greatest. -/
theorem findHighestPeerReleaseVersion_eq (localBuildTarget : Str) (visible : List PeerCandidate) :
    findHighestPeerReleaseVersion localBuildTarget visible =
      reportedRelease (scan rank (visible.filter (·.Counts localBuildTarget))) := by
  have hfold (best : Option PeerCandidate) (hbest : ∀ b ∈ best, b.Counts localBuildTarget) :
      visible.foldl (considerPeer localBuildTarget) (reportedRelease best) =
        reportedRelease ((visible.filter (·.Counts localBuildTarget)).foldl (pick rank) best) := by
    induction visible generalizing best with
    | nil => rfl
    | cons candidate visible ih =>
      rw [List.foldl_cons]
      by_cases hcounts : candidate.Counts localBuildTarget
      · rw [considerPeer_of_counts hcounts hbest, ih _ (pick_counts hcounts hbest),
          List.filter_cons_of_pos (by simpa using hcounts), List.foldl_cons]
      · rw [considerPeer_of_not_counts hcounts, ih _ hbest,
          List.filter_cons_of_neg (by simpa using hcounts)]
  exact hfold none (by simp)

/-- The release is that of a peer that counts, and no such peer runs a higher one. -/
structure Highest (localBuildTarget : Str) (visible : List PeerCandidate) (release : PeerRelease) :
    Prop where
  named : ∃ peer ∈ visible, peer.Counts localBuildTarget ∧ release.nodeId = peer.nodeId ∧
    release.version = semanticVersionCore peer.version ∧ release.source = peer.source
  highest : ∀ other ∈ visible, other.Counts localBuildTarget →
    ¬ compareSemanticVersions other.version release.version > 0

/-- What is found is the highest release, and none is found only if no peer counts. -/
theorem highestRelease_iff (localBuildTarget : Str) (visible : List PeerCandidate) :
    let release := findHighestPeerReleaseVersion localBuildTarget visible
    (release.version ≠ [] ↔ ∃ peer ∈ visible, peer.Counts localBuildTarget) ∧
      (release.version ≠ [] → Highest localBuildTarget visible release) := by
  intro release
  have hrelease : release = reportedRelease (scan rank (visible.filter (·.Counts localBuildTarget))) :=
    findHighestPeerReleaseVersion_eq localBuildTarget visible
  cases hscan : scan rank (visible.filter (·.Counts localBuildTarget)) with
  | none =>
    have hnone : release.version = [] := by rw [hrelease, hscan]; rfl
    have hempty : visible.filter (·.Counts localBuildTarget) = [] := by
      by_contra hne
      have hsome : (scan rank (visible.filter (·.Counts localBuildTarget))).isSome :=
        scan_isSome_iff.2 hne
      rw [hscan] at hsome
      cases hsome
    refine ⟨iff_of_false (not_not.2 hnone) ?_, fun hne => absurd hnone hne⟩
    rintro ⟨peer, hpeer, hcounts⟩
    exact absurd hcounts (by simpa using List.filter_eq_nil_iff.1 hempty peer hpeer)
  | some peer =>
    rw [hscan] at hrelease
    rw [scan_eq_find?] at hscan
    obtain ⟨hpeer, hcounts⟩ := List.mem_filter.1 (List.mem_of_find?_eq_some hscan)
    have hcounts : peer.Counts localBuildTarget := of_decide_eq_true hcounts
    have hgreatest : Greatest rank (visible.filter (·.Counts localBuildTarget)) peer := by
      simpa using List.find?_some hscan
    have hversion : release.version = semanticVersionCore peer.version := by rw [hrelease]; rfl
    have hne : release.version ≠ [] := by
      rw [hversion]
      exact hcounts.2.1
    refine ⟨iff_of_true hne ⟨peer, hpeer, hcounts⟩, fun _ => ⟨⟨peer, hpeer, hcounts, ?_⟩, ?_⟩⟩
    · rw [hrelease]
      exact ⟨rfl, rfl, rfl⟩
    · intro other hother hothercounts
      rw [hversion, ← compareSemanticVersions_core, semanticVersionCore_idem, compareSemanticVersions_core,
        compare_pos_iff, not_lt]
      exact hgreatest other (List.mem_filter.2 ⟨hother, decide_eq_true hothercounts⟩)

end EspWaveRider.Cpp
