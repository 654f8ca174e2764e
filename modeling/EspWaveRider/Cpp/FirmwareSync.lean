import EspWaveRider.Cpp.FirmwareUpdate
import EspWaveRider.Cpp.ReleaseSelection

/-!
# Updates of the C++ firmware, from the request to the restart

`requestFirmwareUpdate` and `serviceFirmwareSync` of `src/main.cpp` with the commands that reach
them.  A request queues one release; the next pass of the main loop fetches its checksum, downloads
it, and restarts the node when the image was written and has this checksum.

* `serviceFirmwareSync` — one pass, with the release server and the download as its world;
* `updateMachine` — commands, passes and boots in any order;
* `Queued` — what is queued was asked for, by its version or as the highest release of the peers;
* `update_runs` — what holds in every run.
-/

namespace EspWaveRider.Cpp

open Text Machine

def minTrustedTlsUnixTime : ℤ := 1704067200
def firmwareTlsTimeSyncWaitMs : UInt32 := 15000

/-- What the firmware was built as. -/
structure FirmwareBuild where
  firmwareVersion : Str
  firmwareBuildTarget : BuildTarget

structure FirmwareSyncState where
  pending : Bool := false
  inProgress : Bool := false
  lastSuccess : Bool := false
  targetVersion : Str := []
  targetNodeId : Str := []
  targetSource : Str := []
  downloadUrl : Str := []
  statusText : Str := []
  lastError : Str := []
  lastStartedMs : UInt32 := 0
  lastCompletedMs : UInt32 := 0
  deriving DecidableEq

/-! ## Requests -/

def firmwareReleaseAssetUrl (firmwareBuildTarget : BuildTarget) (versionCore : Str) : Str :=
  let normalizedCore := semanticVersionCore versionCore
  if normalizedCore = [] then []
  else ("https://github.com/JerrettDavis/EspWaveRider/releases/download/v" : Str) ++ normalizedCore ++
    '/' :: firmwareReleaseAssetName firmwareBuildTarget normalizedCore ".bin"

namespace FirmwareSyncState

def requestFirmwareUpdate (build : FirmwareBuild) (s : FirmwareSyncState)
    (targetVersion targetNodeId targetSource : Str) (now : UInt32) : FirmwareSyncState :=
  let targetCore := semanticVersionCore targetVersion
  if targetCore = [] then
    { s with
      lastSuccess := false
      lastError := "target_version_is_not_a_release"
      statusText := "Peer version is not a release build; GitHub sync is unavailable."
      lastCompletedMs := now }
  else if s.pending || s.inProgress then
    { s with
      lastSuccess := false
      lastError := "firmware_sync_busy"
      statusText := "Firmware sync already in progress."
      lastCompletedMs := now }
  else
    { s with
      pending := true
      lastSuccess := false
      targetVersion := targetCore
      targetNodeId
      targetSource
      downloadUrl := firmwareReleaseAssetUrl build.firmwareBuildTarget targetCore
      lastError := []
      statusText := ("Queued firmware sync to " : Str) ++ targetCore }

/-- The command `firmware_sync`. -/
def requestFirmwareSync (build : FirmwareBuild) (s : FirmwareSyncState) (visible : List PeerCandidate)
    (now : UInt32) : FirmwareSyncState :=
  let release := findHighestPeerReleaseVersion build.firmwareBuildTarget.1 visible
  let localCore := semanticVersionCore build.firmwareVersion
  if release.version = [] then
    { s with
      lastSuccess := false
      lastError := "no_peer_release_candidate"
      statusText := "No peer release version is available to sync from."
      lastCompletedMs := now }
  else if compareSemanticVersions release.version localCore ≤ 0 then
    { s with
      lastSuccess := true
      lastError := []
      statusText := "Already on the highest visible peer release."
      lastCompletedMs := now }
  else s.requestFirmwareUpdate build release.version release.nodeId release.source now

/-- The branches of `handleUsbCommand` about updates; any other command leaves them alone. -/
def handleUsbCommand (build : FirmwareBuild) (s : FirmwareSyncState) (visible : List PeerCandidate)
    (now : UInt32) (command : Str) : FirmwareSyncState :=
  if command = ("firmware_sync" : Str) then s.requestFirmwareSync build visible now
  else if ("firmware_update:" : Str).isPrefixOf command then
    s.requestFirmwareUpdate build (command.drop ("firmware_update:" : Str).length) "manual" "manual" now
  else s

end FirmwareSyncState

/-! ## The service -/

/-- The readings of `time` and `millis`: at first, and in every pass of the wait for the clock. -/
structure TlsClock where
  now : ℤ
  startMs : UInt32
  waits : List (UInt32 × ℤ)

/-- The rest of the wait: the error, if any; `none` when the readings end before the wait does. -/
def waitForTlsClock (startMs : UInt32) : List (UInt32 × ℤ) → Option (Option Str)
  | [] => none
  | (ms, now) :: waits =>
    if ms - startMs < firmwareTlsTimeSyncWaitMs then
      if now ≥ minTrustedTlsUnixTime then some none else waitForTlsClock startMs waits
    else some (some "clock_not_synced_for_tls")

def ensureTrustedTlsClock (clock : TlsClock) : Option (Option Str) :=
  if clock.now ≥ minTrustedTlsUnixTime then some none else waitForTlsClock clock.startMs clock.waits

/-- What a pass of the service finds: the clock, the release server and what a download of an
address runs into. -/
structure ServiceWorld where
  startedMs : UInt32
  completedMs : UInt32
  wifiConnected : Bool
  tlsClock : TlsClock
  api : ReleaseApi
  download : Str → Environment

/-- The state after a pass, what was asked of the flash on the way, and whether the node restarts. -/
structure ServiceOutcome where
  sync : FirmwareSyncState
  calls : List Call
  restarted : Bool

/-- A checksum is empty when there is an error. -/
def checksumText : Except Str Str → Str
  | .ok checksum => checksum
  | .error _ => []

def checksumError : Except Str Str → Str
  | .ok _ => []
  | .error error => error

namespace FirmwareSyncState

/-- The pass ends with this error. -/
def failed (s : FirmwareSyncState) (w : ServiceWorld) (error statusText : Str) (calls : List Call) :
    ServiceOutcome where
  sync := { s with
    inProgress := false, lastSuccess := false, lastError := error, statusText
    lastCompletedMs := w.completedMs }
  calls := calls
  restarted := false

def applied (s : FirmwareSyncState) (w : ServiceWorld) (calls : List Call) : ServiceOutcome where
  sync := { s with
    inProgress := false, lastSuccess := true
    statusText := ("Firmware " : Str) ++ s.targetVersion ++ (" applied; rebooting." : Str)
    lastCompletedMs := w.completedMs }
  calls := calls
  restarted := true

/-- The update that was started, up to its end. -/
def carryOut (build : FirmwareBuild) (s : FirmwareSyncState) (w : ServiceWorld) : Option ServiceOutcome :=
  if !w.wifiConnected then
    some (s.failed w "wifi_not_connected" "Firmware sync failed: Wi-Fi is not connected." [])
  else if s.downloadUrl = [] then
    some (s.failed w "download_url_missing"
      "Firmware sync failed: no release asset URL was available." [])
  else match ensureTrustedTlsClock w.tlsClock with
    | none => none
    | some (some error) =>
      some (s.failed w error
        "Firmware sync failed: device clock is not trusted for TLS validation." [])
    | some none =>
      let fetched := fetchFirmwareReleaseChecksum build.firmwareBuildTarget w.api s.targetVersion
      let expectedSha256 := checksumText fetched
      if expectedSha256.length ≠ 64 then
        some (s.failed w (checksumError fetched)
          (("Firmware sync failed: unable to verify release checksum (" : Str) ++
            checksumError fetched ++ (")." : Str)) [])
      else match downloadAndApplyFirmware (w.download s.downloadUrl) expectedSha256 with
        | none => none
        | some outcome =>
          if outcome.result then some (s.applied w outcome.calls)
          else some (s.failed w outcome.error (("Firmware sync failed: " : Str) ++ outcome.error)
            outcome.calls)

/-- One pass; `none` when its world ends before it does. -/
def serviceFirmwareSync (build : FirmwareBuild) (s : FirmwareSyncState) (w : ServiceWorld) :
    Option ServiceOutcome :=
  if !s.pending || s.inProgress then some ⟨s, [], false⟩
  else
    carryOut build { s with
      pending := false, inProgress := true, lastStartedMs := w.startedMs, lastError := []
      statusText := ("Downloading firmware " : Str) ++ s.targetVersion ++ (" from GitHub..." : Str) } w

end FirmwareSyncState

/-! ## Runs -/

/-- A command with the peers that were visible when it came. -/
structure UpdateRequest where
  command : Str
  visible : List PeerCandidate

/-- The state, with the request that queued an update last. -/
structure UpdateRun where
  sync : FirmwareSyncState := {}
  asked : Option UpdateRequest := none

inductive UpdateEvent where
  | boot
  /-- A command, with what the tables of peers hold. -/
  | command (command : Str) (roomPeers : RoomPeers) (udpDiscoveryPeers : UdpDiscoveryPeers) (now : UInt32)
  | service (w : ServiceWorld)

namespace UpdateRun

def handle (build : FirmwareBuild) (s : UpdateRun) (request : UpdateRequest) (now : UInt32) : UpdateRun :=
  let sync := s.sync.handleUsbCommand build request.visible now request.command
  { sync, asked := if !s.sync.pending && sync.pending then some request else s.asked }

end UpdateRun

def updateMachine (build : FirmwareBuild) : Machine UpdateRun UpdateEvent where
  start s := s = {}
  step s
    | .boot => some {}
    | .command command roomPeers udpDiscoveryPeers now =>
      some (s.handle build ⟨command, visiblePeers roomPeers udpDiscoveryPeers now⟩ now)
    | .service w => (s.sync.serviceFirmwareSync build w).map fun outcome =>
        if outcome.restarted then {} else { s with sync := outcome.sync }

/-! ## What is queued -/

/-- The release is named by the command, or the highest one of the peers that were visible, and newer
than the one that runs. -/
inductive Names (build : FirmwareBuild) (request : UpdateRequest) (version : Str) : Prop where
  | manual {text : Str} : request.command = ("firmware_update:" : Str) ++ text →
      semanticVersionCore text = version → Names build request version
  | highest {release : PeerRelease} : request.command = ("firmware_sync" : Str) →
      Highest build.firmwareBuildTarget.1 request.visible release → release.version = version →
      compareSemanticVersions version (semanticVersionCore build.firmwareVersion) > 0 →
      Names build request version

namespace FirmwareSyncState

/-- An update that is queued is one to a release, at its address. -/
structure Targets (build : FirmwareBuild) (s : FirmwareSyncState) (version : Str) : Prop where
  targetVersion : s.targetVersion = version
  release : version ≠ []
  core : semanticVersionCore version = version
  downloadUrl : s.downloadUrl = firmwareReleaseAssetUrl build.firmwareBuildTarget version

/-- What is queued, where it comes from and where it goes to. -/
def update (s : FirmwareSyncState) : Bool × Bool × Str × Str × Str × Str :=
  (s.pending, s.inProgress, s.targetVersion, s.targetNodeId, s.targetSource, s.downloadUrl)

variable {build : FirmwareBuild} {s : FirmwareSyncState}

/-- A request leaves the update alone, or queues one where there was none. -/
theorem requestFirmwareUpdate_cases (s : FirmwareSyncState) (version nodeId source : Str) (now : UInt32) :
    (s.requestFirmwareUpdate build version nodeId source now).update = s.update ∨
      (s.pending = false ∧ s.inProgress = false ∧
        (s.requestFirmwareUpdate build version nodeId source now).pending = true ∧
        (s.requestFirmwareUpdate build version nodeId source now).inProgress = false ∧
        (s.requestFirmwareUpdate build version nodeId source now).Targets build
          (semanticVersionCore version)) := by
  unfold requestFirmwareUpdate
  dsimp only
  split_ifs with hcore hbusy
  · exact Or.inl rfl
  · exact Or.inl rfl
  · have hidle : s.pending = false ∧ s.inProgress = false := by simpa using hbusy
    exact Or.inr ⟨hidle.1, hidle.2, rfl, hidle.2, rfl, hcore, semanticVersionCore_idem version, rfl⟩

/-- A command leaves the update alone, or queues the one it names where there was none. -/
theorem handleUsbCommand_cases (s : FirmwareSyncState) (request : UpdateRequest) (now : UInt32) :
    (s.handleUsbCommand build request.visible now request.command).update = s.update ∨
      (s.pending = false ∧ s.inProgress = false ∧
        (s.handleUsbCommand build request.visible now request.command).pending = true ∧
        (s.handleUsbCommand build request.visible now request.command).inProgress = false ∧
        ∃ version, Names build request version ∧
          (s.handleUsbCommand build request.visible now request.command).Targets build version) := by
  unfold handleUsbCommand
  split_ifs with hsync hmanual
  · unfold requestFirmwareSync
    dsimp only
    split_ifs with hnone hold
    · exact Or.inl rfl
    · exact Or.inl rfl
    · have hhighest := (highestRelease_iff build.firmwareBuildTarget.1 request.visible).2 hnone
      obtain ⟨peer, -, -, -, hversion, -⟩ := hhighest.named
      have hcore : semanticVersionCore (findHighestPeerReleaseVersion build.firmwareBuildTarget.1
          request.visible).version = (findHighestPeerReleaseVersion build.firmwareBuildTarget.1
          request.visible).version := by
        rw [hversion, semanticVersionCore_idem]
      rcases @requestFirmwareUpdate_cases build s _ _ _ now with hsame | ⟨hp, hi, hp', hi', htargets⟩
      · exact Or.inl hsame
      · refine Or.inr ⟨hp, hi, hp', hi', _, .highest hsync hhighest hcore.symm ?_, htargets⟩
        rw [hcore]
        exact not_le.1 hold
  · obtain ⟨text, htext⟩ := List.isPrefixOf_iff_prefix.1 hmanual
    have hdrop : request.command.drop ("firmware_update:" : Str).length = text := by
      rw [← htext, List.drop_left]
    rcases @requestFirmwareUpdate_cases build s _ _ _ now with hsame | ⟨hp, hi, hp', hi', htargets⟩
    · exact Or.inl hsame
    · exact Or.inr ⟨hp, hi, hp', hi', _, .manual htext.symm (by rw [hdrop]), htargets⟩
  · exact Or.inl rfl

/-! ## What a pass does -/

/-- The image of this release was written as a whole, and has the checksum the release names. -/
def Installed (build : FirmwareBuild) (w : ServiceWorld) (version : Str) (calls : List Call) : Prop :=
  ∃ checksum, fetchFirmwareReleaseChecksum build.firmwareBuildTarget w.api version = .ok checksum ∧
    Applied (w.download (firmwareReleaseAssetUrl build.firmwareBuildTarget version)) checksum calls

/-- A pass over an update to this release: it is over then, and the node restarts only with the
release installed; otherwise what was begun is given up. -/
structure Serviced (build : FirmwareBuild) (w : ServiceWorld) (version : Str) (outcome : ServiceOutcome) :
    Prop where
  pending : outcome.sync.pending = false
  inProgress : outcome.sync.inProgress = false
  installed : outcome.restarted = true → Installed build w version outcome.calls
  cleanedUp : outcome.restarted = false → (∃ n, .updateBegin n true ∈ outcome.calls) →
    CleanedUp outcome.calls

theorem eq_ok_of_length {fetched : Except Str Str} (h : (checksumText fetched).length = 64) :
    fetched = .ok (checksumText fetched) := by
  cases fetched with
  | ok checksum => rfl
  | error error => cases h

/-- A pass that fails before the download. -/
theorem serviced_failed {version : Str} (hpending : s.pending = false) (w : ServiceWorld)
    (error statusText : Str) : Serviced build w version (s.failed w error statusText []) where
  pending := hpending
  inProgress := rfl
  installed h := by cases h
  cleanedUp _ := by
    rintro ⟨n, hn⟩
    exact absurd hn List.not_mem_nil

theorem serviced_carryOut {version : Str} (hpending : s.pending = false) (h : s.Targets build version)
    {w : ServiceWorld} {outcome : ServiceOutcome} (hrun : s.carryOut build w = some outcome) :
    Serviced build w version outcome := by
  unfold carryOut at hrun
  split at hrun
  · cases hrun
    exact serviced_failed hpending ..
  split at hrun
  · cases hrun
    exact serviced_failed hpending ..
  split at hrun
  · cases hrun
  · cases hrun
    exact serviced_failed hpending ..
  dsimp only at hrun
  split at hrun
  · cases hrun
    exact serviced_failed hpending ..
  · rename_i hlength
    have hfetched := eq_ok_of_length (not_not.1 hlength)
    rw [h.targetVersion] at hfetched
    split at hrun
    · cases hrun
    · rename_i result hdownload
      rw [h.downloadUrl] at hdownload
      obtain ⟨happlied, hcleaned⟩ := downloadAndApplyFirmware_verified hdownload
      rw [h.targetVersion] at happlied
      split at hrun
      · rename_i hok
        cases hrun
        exact ⟨hpending, rfl, fun _ => ⟨_, hfetched, happlied hok⟩, nofun⟩
      · rename_i hfailed
        cases hrun
        exact ⟨hpending, rfl, nofun, fun _ => hcleaned (by simpa using hfailed)⟩

end FirmwareSyncState

/-! ## Every run -/

open FirmwareSyncState

/-- Nothing is in progress between the passes, and what is queued was asked for. -/
structure Queued (build : FirmwareBuild) (s : UpdateRun) : Prop where
  inProgress : s.sync.inProgress = false
  asked : s.sync.pending = true → ∃ request ∈ s.asked, ∃ version, Names build request version ∧
    s.sync.Targets build version

namespace Queued

variable {build : FirmwareBuild} {s : UpdateRun}

theorem targets_of_update {s s' : FirmwareSyncState} {version : Str} (h : s.Targets build version)
    (hsame : s'.update = s.update) : s'.Targets build version := by
  simp only [update, Prod.mk.injEq] at hsame
  obtain ⟨-, -, htarget, -, -, hurl⟩ := hsame
  exact ⟨htarget.trans h.targetVersion, h.release, h.core, hurl.trans h.downloadUrl⟩

theorem handle (h : Queued build s) (request : UpdateRequest) (now : UInt32) :
    Queued build (s.handle build request now) := by
  rcases @handleUsbCommand_cases build s.sync request now with
    hsame | ⟨hpending, -, hpending', hprogress', version, hnames, htargets⟩
  · have hpending : (s.handle build request now).sync.pending = s.sync.pending :=
      congrArg Prod.fst hsame
    refine ⟨(congrArg (·.2.1) hsame).trans h.inProgress, fun hqueued => ?_⟩
    rw [hpending] at hqueued
    obtain ⟨asked, hasked, version, hnames, htargets⟩ := h.asked hqueued
    refine ⟨asked, ?_, version, hnames, targets_of_update htargets hsame⟩
    show asked ∈ (if !s.sync.pending && _ then some request else s.asked)
    rw [hqueued, Bool.not_true, Bool.false_and, if_neg Bool.false_ne_true]
    exact hasked
  · refine ⟨hprogress', fun _ => ⟨request, ?_, version, hnames, htargets⟩⟩
    show request ∈ (if !s.sync.pending && (s.sync.handleUsbCommand build request.visible now
      request.command).pending then some request else s.asked)
    rw [hpending, hpending']
    rfl

/-- A pass without anything queued does nothing; otherwise it carries out what was asked for. -/
theorem service_cases (h : Queued build s) {w : ServiceWorld} {outcome : ServiceOutcome}
    (hrun : s.sync.serviceFirmwareSync build w = some outcome) :
    (s.sync.pending = false ∧ outcome = ⟨s.sync, [], false⟩) ∨
      (s.sync.pending = true ∧ ∃ request ∈ s.asked, ∃ version, Names build request version ∧
        Serviced build w version outcome) := by
  unfold serviceFirmwareSync at hrun
  cases hpending : s.sync.pending with
  | false =>
    rw [hpending] at hrun
    cases hrun
    exact Or.inl ⟨rfl, rfl⟩
  | true =>
    rw [hpending, h.inProgress, if_neg (by simp)] at hrun
    obtain ⟨request, hrequest, version, hnames, htargets⟩ := h.asked hpending
    refine Or.inr ⟨rfl, request, hrequest, version, hnames, serviced_carryOut rfl ?_ hrun⟩
    exact ⟨htargets.targetVersion, htargets.release, htargets.core, htargets.downloadUrl⟩

theorem step {s' : UpdateRun} {e : UpdateEvent} (h : Queued build s)
    (hstep : (updateMachine build).step s e = some s') : Queued build s' := by
  have hboot : Queued build {} := ⟨rfl, fun hpending => by cases hpending⟩
  cases e with
  | boot =>
    cases hstep
    exact hboot
  | command command roomPeers udpDiscoveryPeers now =>
    cases hstep
    exact h.handle _ now
  | service w =>
    obtain ⟨outcome, hservice, rfl⟩ := Option.map_eq_some_iff.1 hstep
    split
    · exact hboot
    · rcases h.service_cases hservice with ⟨-, rfl⟩ | ⟨-, request, -, version, -, hserviced⟩
      · exact h
      · refine ⟨hserviced.inProgress, fun hpending => ?_⟩
        rw [hserviced.pending] at hpending
        cases hpending

end Queued

theorem queued_of_reach {build : FirmwareBuild} {s : UpdateRun}
    (h : (updateMachine build).Reach Always s) : Queued build s := by
  refine h.invariant ?_ fun s e s' hs _ hstep => hs.step hstep
  rintro s rfl
  exact ⟨rfl, fun hpending => by cases hpending⟩

def devkitBuild : FirmwareBuild := ⟨"1.3.0", devkitTarget⟩

def zeroDigest : Str := List.replicate 64 '0'

/-- A server with one release, whose image has the digest it names. -/
def devkitWorld : ServiceWorld where
  startedMs := 2000
  completedMs := 9000
  wifiConnected := true
  tlsClock := ⟨1750000000, 2000, []⟩
  api :=
    { get := fun _ => some (200, ("\x7b\"assets\":[\x7b\"name\":\"" : Str) ++ devkitImage.1 ++
        ("\",\"digest\":\"sha256:" : Str) ++ zeroDigest ++ ("\"\x7d]\x7d" : Str))
      errorToString := fun _ => [] }
  download _ := { smallUpdate with sha256 := fun _ => List.replicate 32 0 }

/-- An update was asked for. -/
def askedRun : UpdateRun :=
  ({} : UpdateRun).handle devkitBuild ⟨"firmware_update:v1.4.0", visiblePeers (fun _ => {}) (fun _ => {}) 1000⟩
    1000

theorem reach_askedRun : (updateMachine devkitBuild).Reach Always askedRun :=
  .step (e := .command "firmware_update:v1.4.0" (fun _ => {}) (fun _ => {}) 1000) (.start rfl) trivial rfl

end EspWaveRider.Cpp
