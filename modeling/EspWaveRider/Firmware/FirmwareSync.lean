import EspWaveRider.Firmware.OtaDownload
import EspWaveRider.Lib.Machine

/-!
# Firmware sync

Requests for a firmware update and the service that carries them out
(`rust/firmware/esp32s3/src/main.rs`), as a state machine over one boot: the
firmware state, the two application slots and the slot the node runs from.

* `serviceFirmwareSync` — the candidates for one request, one after the other;
* `slots_serviceCandidates` — a service leaves the selected slot alone;
* `bootImage_untouched` — while every service finds the booted slot selected, the
  running image stays as it was;
* `queuedUpdate_kept_iff` — what is queued stays queued, unless a sync request
  comes while no newer release is visible.
-/

namespace EspWaveRider.Firmware

open Text Release

def udpDiscoveryPeerFreshnessMs : ℕ := 20000
def roomSummaryPeerFreshnessMs : ℕ := 20000
def firmwareReleaseRepoOwner : Str := "JerrettDavis"
def firmwareReleaseRepoName : Str := "EspWaveRider"

/-! ## Versions -/

/-- Major, minor and patch number; a number that does not fit counts as zero. -/
def fillSemanticParts (version : Str) : List ℕ :=
  let parts := ((version.splitOn '.').take 3).map fun part => (parseUnsigned u32Max part).getD 0
  parts ++ List.replicate (3 - parts.length) 0

/-- The sign of the first difference. -/
def compareParts : List ℕ → List ℕ → ℤ
  | l :: left, r :: right => if l < r then -1 else if l > r then 1 else compareParts left right
  | _, _ => 0

def compareSemanticVersions (left right : Str) : ℤ :=
  let leftCore := semanticVersionCore left
  let rightCore := semanticVersionCore right
  if leftCore = [] ∧ rightCore = [] then 0
  else if leftCore = [] then -1
  else if rightCore = [] then 1
  else compareParts (fillSemanticParts leftCore) (fillSemanticParts rightCore)

example : compareSemanticVersions "v1.10.0" "1.9.7-dirty" = 1 := by decide

/-! ## Requests -/

/-- The part of the snapshot a request looks at. -/
structure FirmwareSyncSnapshot where
  localVersionCore : Str
  highestPeerNodeId : Str
  highestPeerVersion : Str
  highestPeerSource : Str

namespace FirmwareState

/-- One peer in the search for the highest release. -/
def considerPeer (uptimeMs : ℕ) (snapshot : FirmwareSyncSnapshot) (peer : UdpDiscoveryPeerState) :
    FirmwareSyncSnapshot :=
  let candidateVersion := semanticVersionCore peer.firmwareVersion
  if uptimeMs - peer.lastSeenMs > udpDiscoveryPeerFreshnessMs then snapshot
  else if peer.buildTarget ≠ rustBuildTarget then snapshot
  else if candidateVersion = [] then snapshot
  else if snapshot.highestPeerVersion = [] ∨
      compareSemanticVersions candidateVersion snapshot.highestPeerVersion > 0 then
    { snapshot with
      highestPeerNodeId := peer.nodeId
      highestPeerVersion := candidateVersion
      highestPeerSource :=
        if peer.lastRoomSummaryMs > 0 ∧
            uptimeMs - peer.lastRoomSummaryMs ≤ roomSummaryPeerFreshnessMs then "room_summary"
        else "udp_discovery" }
  else snapshot

def firmwareSyncSnapshot (s : FirmwareState) (uptimeMs : ℕ) : FirmwareSyncSnapshot :=
  s.udpDiscoveryPeers.foldl (considerPeer uptimeMs)
    { localVersionCore := semanticVersionCore rustFirmwareVersion
      highestPeerNodeId := [], highestPeerVersion := [], highestPeerSource := [] }

def requestFirmwareUpdate (s : FirmwareState) (targetVersion targetNodeId targetSource : Str) :
    FirmwareState :=
  let sync := s.firmwareSyncState
  let targetCore := semanticVersionCore targetVersion
  if targetCore = [] then
    { s with firmwareSyncState := { sync with
        lastSuccess := false
        lastError := "target_version_is_not_a_release"
        status := "Peer version is not a release build; GitHub sync is unavailable."
        lastCompletedMs := 0 } }
  else if sync.pending || sync.inProgress then
    { s with firmwareSyncState := { sync with
        lastSuccess := false
        lastError := "firmware_sync_busy"
        status := "Firmware sync already in progress." } }
  else
    let downloadUrl := firmwareReleaseAssetUrl firmwareReleaseRepoOwner firmwareReleaseRepoName
      targetCore rustBuildTarget
    { s with firmwareSyncState := { sync with
        pending := true
        lastSuccess := false
        targetVersion := targetCore
        targetNodeId
        targetSource
        downloadUrl
        lastError := []
        status := ("Queued firmware sync to release " : Str) ++ targetCore ++
          (if downloadUrl = [] then [] else (" for " : Str) ++ rustBuildTarget) } }

def requestFirmwareSync (s : FirmwareState) (uptimeMs : ℕ) : FirmwareState :=
  let snapshot := s.firmwareSyncSnapshot uptimeMs
  let sync := s.firmwareSyncState
  if snapshot.highestPeerVersion = [] then
    { s with firmwareSyncState := { sync with
        lastSuccess := false
        lastError := "no_peer_release_candidate"
        status := "No peer release version is available to sync from."
        lastCompletedMs := uptimeMs
        pending := false } }
  else if compareSemanticVersions snapshot.highestPeerVersion snapshot.localVersionCore ≤ 0 then
    { s with firmwareSyncState := { sync with
        lastSuccess := true
        lastError := []
        status := "Already on the highest visible peer release."
        lastCompletedMs := uptimeMs
        pending := false } }
  else
    s.requestFirmwareUpdate snapshot.highestPeerVersion snapshot.highestPeerNodeId
      snapshot.highestPeerSource

end FirmwareState

/-! ## The service -/

def firmwareReleaseDownloadUrlCandidates (targetVersion primaryUrl : Str) : List Str :=
  let urls := firmwareReleaseAssetUrls firmwareReleaseRepoOwner firmwareReleaseRepoName
    targetVersion rustBuildTarget
  if primaryUrl ≠ [] ∧ primaryUrl ∉ urls then primaryUrl :: urls else urls

inductive CandidatesResult where
  | tlsInitFailed
  | staged (bytesWritten : ℕ) (scheme : DownloadUrlScheme)
  /-- Nothing staged, with the last error. -/
  | failed (lastError : Option Str)
  deriving DecidableEq

/-- What a candidate meets: whether TLS comes up, the answers to its update and the
network. -/
structure Attempt where
  tlsReady : Bool := false
  conditions : UpdateConditions := ⟨none, false, false, false⟩
  exchanges : List Exchange := []

/-- The loop over the candidate addresses; `httpsOta` is the build feature. -/
def serviceCandidates (httpsOta : Bool) :
    List Str → List Attempt → Option Str → OtaFlash → CandidatesResult × OtaFlash
  | [], _, lastError, flash => (.failed lastError, flash)
  | candidateUrl :: urls, attempts, _, flash =>
    match parseDownloadUrl candidateUrl with
    | none => (.failed (some "release_download_url_invalid"), flash)
    | some downloadUrl =>
      let attempt := attempts.headD {}
      if downloadUrl.scheme = .https ∧ !httpsOta then
        (.failed (some "firmware_https_disabled"), flash)
      else if downloadUrl.scheme = .https ∧ !attempt.tlsReady then (.tlsInitFailed, flash)
      else
        match performUpdate downloadUrl.scheme attempt.conditions downloadUrl attempt.exchanges
            flash with
        | (.ok bytesWritten, flash) => (.staged bytesWritten downloadUrl.scheme, flash)
        | (.error error, flash) =>
          if error = ("firmware_http_not_found" : Str) then
            serviceCandidates httpsOta urls attempts.tail (some error) flash
          else (.failed (some error), flash)

def stagedStatus (bytesWritten : ℕ) (scheme : DownloadUrlScheme) : Str :=
  (match scheme with
    | .https => ("Firmware staged into the next OTA partition from HTTPS source (" : Str)
    | .http => "Firmware staged into the next OTA partition from HTTP source (") ++
  decimal (min bytesWritten u32Max) ++ (" bytes). Reboot to boot the staged image." : Str)

def failedStatus (error : Str) : Str :=
  if error = ("firmware_https_disabled" : Str) then
    "Rust firmware sync HTTPS support is disabled in this build."
  else if error = ("release_download_url_invalid" : Str) then
    "Rust firmware sync resolved a release asset URL, but it is not a valid HTTP or HTTPS download target."
  else "Rust firmware sync failed while downloading or staging the firmware image."

/-- What the sync state says after the candidates. -/
def FirmwareSyncState.record (sync : FirmwareSyncState) : CandidatesResult → FirmwareSyncState
  | .tlsInitFailed =>
    { sync with
      lastError := "firmware_https_tls_init_failed"
      status := "Rust firmware sync could not initialize TLS after Wi-Fi came up." }
  | .staged bytesWritten scheme =>
    { sync with lastSuccess := true, lastError := [], status := stagedStatus bytesWritten scheme }
  | .failed none => sync
  | .failed (some error) => { sync with lastError := error, status := failedStatus error }

def FirmwareState.serviceFirmwareSync (s : FirmwareState) (httpsOta : Bool)
    (uptimeMs : ℕ) (attempts : List Attempt) (flash : OtaFlash) : FirmwareState × OtaFlash :=
  let sync := s.firmwareSyncState
  if !sync.pending || sync.inProgress then (s, flash)
  else
    let started := { sync with
      pending := false, inProgress := true, lastSuccess := false, lastStartedMs := uptimeMs }
    let (serviced, flash) :=
      if started.downloadUrl = [] then
        ({ started with
            lastError := "release_download_url_missing"
            status := "Rust firmware sync could not resolve a GitHub release asset URL for this board target." },
          flash)
      else
        let (result, flash) := serviceCandidates httpsOta
          (firmwareReleaseDownloadUrlCandidates started.targetVersion started.downloadUrl)
          attempts none flash
        (started.record result, flash)
    ({ s with firmwareSyncState :=
        { serviced with inProgress := false, lastCompletedMs := uptimeMs } }, flash)

/-! ## One boot -/

/-- The node during one boot: `booted` is the slot it runs from, `bootImage` that
slot as it was at boot. -/
structure OtaNode where
  state : FirmwareState
  flash : OtaFlash
  booted : OtaSlot
  bootImage : OtaPartition

inductive OtaEvent where
  /-- The command `firmware_update`. -/
  | update (targetVersion : Str)
  /-- The command `firmware_sync`. -/
  | sync (uptimeMs : ℕ)
  /-- UDP discovery heard from peers. -/
  | heard (peers : List UdpDiscoveryPeerState)
  | service (uptimeMs : ℕ) (attempts : List Attempt)

def OtaNode.step (httpsOta : Bool) (s : OtaNode) : OtaEvent → OtaNode
  | .update targetVersion =>
    { s with state := s.state.requestFirmwareUpdate targetVersion "manual" "manual" }
  | .sync uptimeMs => { s with state := s.state.requestFirmwareSync uptimeMs }
  | .heard peers => { s with state := { s.state with udpDiscoveryPeers := peers } }
  | .service uptimeMs attempts =>
    let (state, flash) := s.state.serviceFirmwareSync httpsOta uptimeMs attempts s.flash
    { s with state, flash }

/-- Boot: the selected slot is the one that runs. -/
def otaMachine (httpsOta : Bool) : Machine OtaNode OtaEvent where
  start s := s.flash.selected = s.booted ∧ s.flash.slots s.booted = s.bootImage ∧
    s.state.firmwareSyncState = {}
  step s e := some (s.step httpsOta e)

/-! ## The running image -/

theorem OtaSlot.next_ne (slot : OtaSlot) : slot.next ≠ slot := by
  cases slot <;> decide

/-- An update writes no slot but the one after the selected one. -/
theorem slots_performFirmwareUpdate (download : OtaM ℕ) (conditions : UpdateConditions)
    (flash : OtaFlash) {slot : OtaSlot} (h : slot ≠ flash.selected.next) :
    (performFirmwareUpdate download conditions flash).2.slots slot = flash.slots slot := by
  unfold performFirmwareUpdate
  split
  · rfl
  · rfl
  · split
    · rfl
    · split
      · rfl
      · dsimp only
        split
        · exact Function.update_of_ne h _ _
        · split
          · exact Function.update_of_ne h _ _
          · exact Function.update_of_ne h _ _

/-- A failed update selects nothing. -/
theorem selected_of_error {download : OtaM ℕ} {conditions : UpdateConditions} {flash : OtaFlash}
    {error : Str} (h : (performFirmwareUpdate download conditions flash).1 = .error error) :
    (performFirmwareUpdate download conditions flash).2.selected = flash.selected := by
  unfold performFirmwareUpdate at h ⊢
  split
  · rfl
  · rfl
  · split
    · rfl
    · split
      · rfl
      · rename_i hstation hlayout hnext
        rw [hstation] at h
        dsimp only at h ⊢
        rw [if_neg hlayout, if_neg hnext] at h
        split
        · rfl
        · rename_i bytesWritten p hdownload
          rw [hdownload] at h
          dsimp only at h
          split
          · rfl
          · rename_i hactivates
            rw [if_neg hactivates] at h
            cases h

/-- The candidates leave the slot alone that is selected when they start. -/
theorem slots_serviceCandidates (httpsOta : Bool) (urls : List Str)
    (attempts : List Attempt) (lastError : Option Str) (flash : OtaFlash) :
    (serviceCandidates httpsOta urls attempts lastError flash).2.slots flash.selected =
      flash.slots flash.selected := by
  induction urls generalizing attempts lastError flash with
  | nil => rfl
  | cons candidateUrl urls ih =>
    rw [serviceCandidates]
    split
    · rfl
    · rename_i downloadUrl hurl
      dsimp only
      set attempt := attempts.headD {}
      split
      · rfl
      · split
        · rfl
        · have hslots := slots_performFirmwareUpdate
            (downloadImage downloadUrl.scheme downloadUrl attempt.exchanges) attempt.conditions
            flash flash.selected.next_ne.symm
          rw [performUpdate_eq]
          split
          · rename_i hrun
            rw [hrun] at hslots
            exact hslots
          · rename_i error flash' hrun
            split
            · -- not found: the next candidate meets the same selection
              have hselected := selected_of_error (congrArg Prod.fst hrun)
              rw [hrun] at hslots hselected
              have hrest := ih attempts.tail (some error) flash'
              rw [hselected] at hrest
              exact hrest.trans hslots
            · rw [hrun] at hslots
              exact hslots

theorem slots_serviceFirmwareSync (s : FirmwareState) (httpsOta : Bool) (uptimeMs : ℕ)
    (attempts : List Attempt) (flash : OtaFlash) :
    (s.serviceFirmwareSync httpsOta uptimeMs attempts flash).2.slots flash.selected =
      flash.slots flash.selected := by
  unfold FirmwareState.serviceFirmwareSync
  dsimp only
  split
  · rfl
  · split
    · rfl
    · exact slots_serviceCandidates httpsOta _ attempts none flash

/-- A service finds the booted slot selected: no update was activated since boot. -/
def BootedSelected (s : OtaNode) : OtaEvent → Prop
  | .service _ _ => s.flash.selected = s.booted
  | _ => True

/-- In every run in which services find the booted slot selected, the running image
stays as it was at boot. -/
theorem bootImage_untouched (httpsOta : Bool) {s : OtaNode}
    (h : (otaMachine httpsOta).Reach BootedSelected s) :
    s.flash.slots s.booted = s.bootImage := by
  refine h.invariant (I := fun s => s.flash.slots s.booted = s.bootImage) ?_ ?_
  · rintro s ⟨_, himage, _⟩
    exact himage
  · rintro s e _ himage hselected ⟨⟩
    cases e with
    | update targetVersion => exact himage
    | sync uptimeMs => exact himage
    | heard peers => exact himage
    | service uptimeMs attempts =>
      have hslots := slots_serviceFirmwareSync s.state httpsOta uptimeMs attempts s.flash
      rw [hselected] at hslots
      exact hslots.trans himage

/-! ## Two updates in one boot -/

/-- A server that delivers an image of eight bytes over HTTPS. -/
def imageAttempt (image : List UInt8) : Attempt :=
  { tlsReady := true
    conditions := ⟨some true, true, true, true⟩
    exchanges := [{ imageResponse image with dns := some true, sessionOpened := true }] }

def bootedNode : OtaNode :=
  { state := {}, flash := { selected := .ota0, slots := fun _ => { capacity := 4096 } }
    booted := .ota0, bootImage := { capacity := 4096 } }

/-- A release is requested and installed. -/
def installed (s : OtaNode) (version : Str) (image : List UInt8) : OtaNode :=
  (s.step true (.update version)).step true (.service 0 [imageAttempt image])

theorem reach_installed (ok : OtaNode → OtaEvent → Prop) {s : OtaNode} (version : Str)
    (image : List UInt8) (h : (otaMachine true).Reach ok s) (hupdate : ok s (.update version))
    (hservice : ok (s.step true (.update version)) (.service 0 [imageAttempt image])) :
    (otaMachine true).Reach ok (installed s version image) :=
  Machine.Reach.step (Machine.Reach.step h hupdate rfl) hservice rfl

theorem bootImage_untouched_by_first_update :
    ∃ s : OtaNode, s.flash.selected = .ota1 ∧ s.flash.slots s.booted = s.bootImage := by
  have hreach := reach_installed BootedSelected "1.2.3" [1, 2, 3, 4, 5, 6, 7, 8]
    (Machine.Reach.start (s := bootedNode) ⟨rfl, rfl, rfl⟩) trivial rfl
  exact ⟨_, by decide +kernel, bootImage_untouched true hreach⟩

/-- The second update of a boot is written over the running image. -/
theorem bootImage_overwritten :
    ∃ s, (otaMachine true).Reach Machine.Always s ∧ s.flash.slots s.booted ≠ s.bootImage := by
  have hfirst := reach_installed Machine.Always "1.2.3" [1, 2, 3, 4, 5, 6, 7, 8]
    (Machine.Reach.start (s := bootedNode) ⟨rfl, rfl, rfl⟩) trivial trivial
  have hsecond := reach_installed _ "1.2.4" [8, 7, 6, 5, 4, 3, 2, 1] hfirst trivial trivial
  exact ⟨_, hsecond, by decide +kernel⟩

/-! ## The order of versions -/

/-- What versions are compared by; a text that is no release comes first. -/
def versionRank (version : Str) : List ℕ :=
  let core := semanticVersionCore version
  if core = [] then [] else fillSemanticParts core

theorem length_fillSemanticParts (version : Str) : (fillSemanticParts version).length = 3 := by
  have htake : ((version.splitOn '.').take 3).length ≤ 3 := List.length_take_le ..
  rw [fillSemanticParts, List.length_append, List.length_replicate, List.length_map]
  omega

theorem compareParts_pos_iff {left right : List ℕ} (h : left.length = right.length) :
    compareParts left right > 0 ↔ right < left := by
  induction left generalizing right with
  | nil =>
    obtain rfl := List.length_eq_zero_iff.1 h.symm
    simp [compareParts]
  | cons l left ih =>
    cases right with
    | nil => cases h
    | cons r right =>
      have hlength : left.length = right.length := by simpa using h
      rw [compareParts, List.cons_lt_cons_iff]
      rcases Nat.lt_trichotomy l r with hlt | rfl | hgt
      · rw [if_pos hlt]
        omega
      · simpa using ih hlength
      · rw [if_neg (by omega), if_pos hgt]
        exact ⟨fun _ => Or.inl hgt, fun _ => by omega⟩

theorem compareSemanticVersions_pos_iff (left right : Str) :
    compareSemanticVersions left right > 0 ↔ versionRank right < versionRank left := by
  have hne (version : Str) : [] < fillSemanticParts version := by
    have hlength := length_fillSemanticParts version
    cases hparts : fillSemanticParts version with
    | nil => simp [hparts] at hlength
    | cons part parts => exact List.nil_lt_cons part parts
  simp only [compareSemanticVersions, versionRank]
  by_cases hleft : semanticVersionCore left = [] <;>
    by_cases hright : semanticVersionCore right = []
  · simp [hleft, hright]
  · simp [hleft, hright]
  · simpa [hleft, hright] using hne _
  · simp only [hleft, hright, and_self, ↓reduceIte]
    exact compareParts_pos_iff (by rw [length_fillSemanticParts, length_fillSemanticParts])

/-! ## A queued update -/

/-- The part of the sync state that says what is to be installed. -/
structure UpdateQueue where
  pending : Bool
  inProgress : Bool
  targetVersion : Str
  targetNodeId : Str
  targetSource : Str
  downloadUrl : Str
  deriving DecidableEq

namespace FirmwareState

def updateQueue (s : FirmwareState) : UpdateQueue :=
  let sync := s.firmwareSyncState
  { pending := sync.pending, inProgress := sync.inProgress, targetVersion := sync.targetVersion
    targetNodeId := sync.targetNodeId, targetSource := sync.targetSource
    downloadUrl := sync.downloadUrl }

/-- An update is queued or being installed. -/
def SyncBusy (s : FirmwareState) : Prop :=
  s.firmwareSyncState.pending ∨ s.firmwareSyncState.inProgress

/-- A peer heard lately runs a release for this board. -/
def ReleaseCandidate (uptimeMs : ℕ) (peer : UdpDiscoveryPeerState) : Prop :=
  uptimeMs - peer.lastSeenMs ≤ udpDiscoveryPeerFreshnessMs ∧ peer.buildTarget = rustBuildTarget ∧
    semanticVersionCore peer.firmwareVersion ≠ []

/-- One of them runs a newer one than this node. -/
def NewerReleaseVisible (s : FirmwareState) (uptimeMs : ℕ) : Prop :=
  ∃ peer ∈ s.udpDiscoveryPeers, ReleaseCandidate uptimeMs peer ∧
    compareSemanticVersions (semanticVersionCore peer.firmwareVersion)
      (semanticVersionCore rustFirmwareVersion) > 0

instance (uptimeMs : ℕ) (peer : UdpDiscoveryPeerState) : Decidable (ReleaseCandidate uptimeMs peer) :=
  inferInstanceAs (Decidable (_ ∧ _))

instance (s : FirmwareState) (uptimeMs : ℕ) : Decidable (s.NewerReleaseVisible uptimeMs) :=
  inferInstanceAs (Decidable (∃ peer ∈ _, _))

theorem rank_considerPeer (uptimeMs : ℕ) (snapshot : FirmwareSyncSnapshot)
    (peer : UdpDiscoveryPeerState) (rank : List ℕ) :
    rank < versionRank (considerPeer uptimeMs snapshot peer).highestPeerVersion ↔
      rank < versionRank snapshot.highestPeerVersion ∨ ReleaseCandidate uptimeMs peer ∧
        rank < versionRank (semanticVersionCore peer.firmwareVersion) := by
  rw [considerPeer]
  by_cases hstale : uptimeMs - peer.lastSeenMs > udpDiscoveryPeerFreshnessMs
  · rw [if_pos hstale]
    exact ⟨Or.inl, fun h => h.resolve_right fun hc => absurd hc.1.1 (Nat.not_le.2 hstale)⟩
  rw [if_neg hstale]
  by_cases htarget : peer.buildTarget ≠ rustBuildTarget
  · rw [if_pos htarget]
    exact ⟨Or.inl, fun h => h.resolve_right fun hc => absurd hc.1.2.1 htarget⟩
  rw [if_neg htarget]
  by_cases hcore : semanticVersionCore peer.firmwareVersion = []
  · rw [if_pos hcore]
    exact ⟨Or.inl, fun h => h.resolve_right fun hc => absurd hcore hc.1.2.2⟩
  rw [if_neg hcore]
  have hcandidate : ReleaseCandidate uptimeMs peer :=
    ⟨Nat.not_lt.1 hstale, not_not.1 htarget, hcore⟩
  split
  · rename_i hhigher
    refine ⟨fun hlt => Or.inr ⟨hcandidate, hlt⟩, ?_⟩
    rintro (hlt | ⟨_, hlt⟩)
    · rcases hhigher with hempty | hhigher
      · rw [hempty] at hlt
        exact absurd hlt (List.not_lt_nil rank)
      · exact hlt.trans ((compareSemanticVersions_pos_iff _ _).1 hhigher)
    · exact hlt
  · rename_i hhigher
    rw [not_or, compareSemanticVersions_pos_iff, not_lt] at hhigher
    refine ⟨Or.inl, ?_⟩
    rintro (hlt | ⟨_, hlt⟩)
    · exact hlt
    · exact lt_of_lt_of_le hlt hhigher.2

theorem rank_foldl_considerPeer (uptimeMs : ℕ) (rank : List ℕ)
    (peers : List UdpDiscoveryPeerState) (snapshot : FirmwareSyncSnapshot) :
    rank < versionRank (peers.foldl (considerPeer uptimeMs) snapshot).highestPeerVersion ↔
      rank < versionRank snapshot.highestPeerVersion ∨
        ∃ peer ∈ peers, ReleaseCandidate uptimeMs peer ∧
          rank < versionRank (semanticVersionCore peer.firmwareVersion) := by
  induction peers generalizing snapshot with
  | nil => simp
  | cons peer peers ih =>
    rw [List.foldl_cons, ih, rank_considerPeer, or_assoc]
    simp

theorem localVersionCore_firmwareSyncSnapshot (s : FirmwareState) (uptimeMs : ℕ) :
    (s.firmwareSyncSnapshot uptimeMs).localVersionCore = semanticVersionCore rustFirmwareVersion := by
  have hfold (peers : List UdpDiscoveryPeerState) (snapshot : FirmwareSyncSnapshot) :
      (peers.foldl (considerPeer uptimeMs) snapshot).localVersionCore =
        snapshot.localVersionCore := by
    induction peers generalizing snapshot with
    | nil => rfl
    | cons peer peers ih =>
      rw [List.foldl_cons, ih, considerPeer]
      split_ifs <;> rfl
  exact hfold _ _

/-- The snapshot's highest release is newer than the local one exactly when a
newer one is visible. -/
theorem newerReleaseVisible_iff (s : FirmwareState) (uptimeMs : ℕ) :
    s.NewerReleaseVisible uptimeMs ↔
      compareSemanticVersions (s.firmwareSyncSnapshot uptimeMs).highestPeerVersion
        (s.firmwareSyncSnapshot uptimeMs).localVersionCore > 0 := by
  rw [localVersionCore_firmwareSyncSnapshot, compareSemanticVersions_pos_iff,
    firmwareSyncSnapshot, rank_foldl_considerPeer]
  have hnever : ¬ versionRank (semanticVersionCore rustFirmwareVersion) < versionRank [] :=
    List.not_lt_nil _
  simp only [hnever, false_or, NewerReleaseVisible, compareSemanticVersions_pos_iff]

theorem updateQueue_requestFirmwareUpdate {s : FirmwareState} (hbusy : s.SyncBusy)
    (targetVersion targetNodeId targetSource : Str) :
    (s.requestFirmwareUpdate targetVersion targetNodeId targetSource).updateQueue =
      s.updateQueue := by
  have hbusy : s.firmwareSyncState.pending || s.firmwareSyncState.inProgress := by
    simpa [SyncBusy] using hbusy
  rw [requestFirmwareUpdate]
  by_cases hcore : semanticVersionCore targetVersion = []
  · rw [if_pos hcore]
    rfl
  · rw [if_neg hcore, if_pos hbusy]
    rfl

/-- The early exits of a sync request clear the request that is waiting. -/
theorem updateQueue_requestFirmwareSync {s : FirmwareState} (hbusy : s.SyncBusy) (uptimeMs : ℕ) :
    (s.requestFirmwareSync uptimeMs).updateQueue =
      if s.NewerReleaseVisible uptimeMs then s.updateQueue
      else { s.updateQueue with pending := false } := by
  unfold requestFirmwareSync
  dsimp only
  by_cases hnewer : s.NewerReleaseVisible uptimeMs
  · have hhigher := (newerReleaseVisible_iff s uptimeMs).1 hnewer
    have hne : (s.firmwareSyncSnapshot uptimeMs).highestPeerVersion ≠ [] := by
      intro hempty
      rw [hempty, compareSemanticVersions_pos_iff] at hhigher
      exact List.not_lt_nil _ hhigher
    rw [if_neg hne, if_neg (by omega), if_pos hnewer]
    exact updateQueue_requestFirmwareUpdate hbusy _ _ _
  · have hnot := mt (newerReleaseVisible_iff s uptimeMs).2 hnewer
    rw [if_neg hnewer, if_pos (Int.not_lt.1 hnot)]
    split <;> rfl

end FirmwareState

/-- A step that is no service, and no sync request that finds an update waiting
and no newer release. -/
def KeepsQueue (s : OtaNode) : OtaEvent → Prop
  | .update _ => True
  | .sync uptimeMs => s.state.firmwareSyncState.pending → s.state.NewerReleaseVisible uptimeMs
  | .heard _ => True
  | .service _ _ => False

theorem syncBusy_of_updateQueue_eq {s s' : FirmwareState} (h : s'.updateQueue = s.updateQueue)
    (hbusy : s.SyncBusy) : s'.SyncBusy := by
  have hpending : s'.firmwareSyncState.pending = s.firmwareSyncState.pending :=
    congrArg UpdateQueue.pending h
  have hprogress : s'.firmwareSyncState.inProgress = s.firmwareSyncState.inProgress :=
    congrArg UpdateQueue.inProgress h
  rwa [FirmwareState.SyncBusy, hpending, hprogress]

theorem updateQueue_requestFirmwareSync_iff {s : FirmwareState} (hbusy : s.SyncBusy) (uptimeMs : ℕ) :
    (s.requestFirmwareSync uptimeMs).updateQueue = s.updateQueue ↔
      (s.firmwareSyncState.pending → s.NewerReleaseVisible uptimeMs) := by
  rw [FirmwareState.updateQueue_requestFirmwareSync hbusy]
  split
  · rename_i hnewer
    exact ⟨fun _ _ => hnewer, fun _ => rfl⟩
  · rename_i hnewer
    constructor
    · intro h hpending
      have hcleared : false = s.firmwareSyncState.pending := congrArg UpdateQueue.pending h
      rw [hpending] at hcleared
      cases hcleared
    · intro h
      have hidle : s.firmwareSyncState.pending = false :=
        Bool.eq_false_iff.2 fun hpending => hnewer (h hpending)
      rw [FirmwareState.updateQueue, hidle]

theorem updateQueue_step {httpsOta : Bool} {s : OtaNode} (hbusy : s.state.SyncBusy) {e : OtaEvent}
    (hkeeps : KeepsQueue s e) : (s.step httpsOta e).state.updateQueue = s.state.updateQueue := by
  cases e with
  | update targetVersion =>
    exact FirmwareState.updateQueue_requestFirmwareUpdate hbusy targetVersion _ _
  | sync uptimeMs => exact (updateQueue_requestFirmwareSync_iff hbusy uptimeMs).2 hkeeps
  | heard peers => rfl
  | service uptimeMs attempts => exact hkeeps.elim

/-- An update that is queued or being installed: update requests leave it alone, a
sync request does so exactly if nothing waits or a newer release is visible, and
without other sync requests it stays the same up to the next service. -/
theorem queuedUpdate_kept_iff (httpsOta : Bool) {s : OtaNode} (hbusy : s.state.SyncBusy) :
    (∀ targetVersion targetNodeId targetSource,
      (s.state.requestFirmwareUpdate targetVersion targetNodeId targetSource).updateQueue =
        s.state.updateQueue) ∧
    (∀ uptimeMs, (s.state.requestFirmwareSync uptimeMs).updateQueue = s.state.updateQueue ↔
      (s.state.firmwareSyncState.pending → s.state.NewerReleaseVisible uptimeMs)) ∧
    ∀ s', ((otaMachine httpsOta).startingAt s).Reach KeepsQueue s' →
      s'.state.updateQueue = s.state.updateQueue := by
  refine ⟨FirmwareState.updateQueue_requestFirmwareUpdate hbusy,
    updateQueue_requestFirmwareSync_iff hbusy, ?_⟩
  intro s' hreach
  refine hreach.invariant (I := fun s' => s'.state.updateQueue = s.state.updateQueue) ?_ ?_
  · rintro s' rfl
    rfl
  · rintro t e _ hqueue hkeeps ⟨⟩
    have hbusy' := syncBusy_of_updateQueue_eq hqueue hbusy
    exact (updateQueue_step hbusy' hkeeps).trans hqueue

/-- The node with an update waiting. -/
def queuedNode : OtaNode := bootedNode.step true (.update "1.2.3")

/-- A peer that has just announced a newer release. -/
def newerPeer : UdpDiscoveryPeerState :=
  { nodeId := "den", firmwareVersion := "1.3.0", buildTarget := rustBuildTarget, lastSeenMs := 9000
    lastRoomSummaryMs := 0 }

theorem queuedUpdate_kept_with_newer_peer :
    ∃ s : OtaNode, s.state.firmwareSyncState.status = ("Firmware sync already in progress." : Str) ∧
      s.state.updateQueue = queuedNode.state.updateQueue := by
  obtain ⟨_, _, hrun⟩ := queuedUpdate_kept_iff true (s := queuedNode) (Or.inl (by decide +kernel))
  have hheard : ((otaMachine true).startingAt queuedNode).Reach KeepsQueue
      (queuedNode.step true (.heard [newerPeer])) :=
    Machine.Reach.step (e := .heard [newerPeer]) (Machine.Reach.start rfl) trivial rfl
  have hsync := Machine.Reach.step (e := .sync 10000) hheard (fun _ => by decide +kernel) rfl
  exact ⟨_, by decide +kernel, hrun _ hsync⟩

/-- A sync request that finds no peer clears an update that is waiting. -/
theorem queuedUpdate_dropped :
    ¬ ∀ s, (otaMachine true).Reach Machine.Always s → s.state.SyncBusy →
      ∀ uptimeMs, (s.state.requestFirmwareSync uptimeMs).updateQueue = s.state.updateQueue := by
  intro hall
  have hreach : (otaMachine true).Reach Machine.Always queuedNode :=
    Machine.Reach.step (Machine.Reach.start (s := bootedNode) ⟨rfl, rfl, rfl⟩) trivial rfl
  exact absurd (hall queuedNode hreach (Or.inl (by decide +kernel)) 10000) (by decide +kernel)

end EspWaveRider.Firmware
