import EspWaveRider.Core.Release
import EspWaveRider.Cpp.Text
import EspWaveRider.Lib.JsonSearch

/-!
# The checksum of a release

`fetchFirmwareReleaseChecksum` of `src/main.cpp` looks for the asset of the firmware
in the text of a release document and takes the next `digest` for its checksum.

* `releaseChecksum_eq_ok_iff` — the digest it takes is the next one in the document,
  whatever object it belongs to;
* `checksum_belongs_iff` — when this is the one of the asset.
-/

namespace EspWaveRider.Cpp

open Text Json Release

/-! ## Names of a release -/

def semanticVersionCore (version : Str) : Str :=
  let trimmed := trim version
  let digits := match trimmed with
    | 'v' :: rest | 'V' :: rest => rest
    | _ => trimmed
  (do
    let (major, rest) ← numberThenDot digits
    let (minor, rest) ← numberThenDot rest
    let patch := rest.takeWhile isAsciiDigit
    if patch = [] then none else some (major ++ '.' :: minor ++ '.' :: patch)).getD []

/-- The target the firmware was built for, a name without quotes. -/
abbrev BuildTarget := {target : Str // isPlain target}

def firmwareReleaseAssetName (firmwareBuildTarget : BuildTarget) (versionCore extension : Str) : Str :=
  let normalizedCore := semanticVersionCore versionCore
  if normalizedCore = [] then []
  else ("EspWaveRider-" : Str) ++ (normalizedCore ++ '-' :: (firmwareBuildTarget.1 ++ extension))

def firmwareReleaseApiUrl (versionCore : Str) : Str :=
  let normalizedCore := semanticVersionCore versionCore
  if normalizedCore = [] then []
  else ("https://api.github.com/repos/JerrettDavis/EspWaveRider/releases/tags/v" : Str) ++ normalizedCore

/-! ## The checksum -/

def isHexDigit (c : Char) : Bool :=
  isAsciiDigit c || ('a' ≤ c && c ≤ 'f') || ('A' ≤ c && c ≤ 'F')

/-- The rest of the loop, with the digits of the current run. -/
def extractFrom : Str → Str → Str
  | _, [] => []
  | digest, c :: value =>
    if isHexDigit c then
      let digest := digest ++ [toAsciiLowercase c]
      if digest.length = 64 then digest else extractFrom digest value
    else extractFrom [] value

/-- The first 64 hexadecimal digits in a row. -/
def extractSha256Hex (value : Str) : Str := extractFrom [] value

def extractGitHubApiMessage (value : Str) : Str :=
  match after? "\"message\":\"" value with
  | none => []
  | some message =>
    if '"' ∈ message then
      (message.takeWhile (· ≠ '"')).map fun c => if c = ' ' ∨ c = '\n' ∨ c = '\r' then '_' else c
    else []

/-- What is made of the text behind `"digest":"`. -/
def digestChecksum (value : Str) : Except Str Str :=
  let digest := value.takeWhile (· ≠ '"')
  if '"' ∉ value ∨ digest = [] then .error "release_api_digest_parse_failed"
  else
    let checksum := extractSha256Hex digest
    if checksum.length = 64 then .ok checksum else .error "release_api_digest_invalid"

/-- What a successful answer is searched for. -/
def releaseChecksum (releaseBody firmwareAssetName : Str) : Except Str Str :=
  match find? (("\"name\":\"" : Str) ++ (firmwareAssetName ++ ['"'])) releaseBody with
  | none => .error "release_api_asset_missing"
  | some assetNameIndex =>
    match after? "\"digest\":\"" (releaseBody.drop assetNameIndex) with
    | none => .error "release_api_digest_missing"
    | some value => digestChecksum value

/-- The server: for an address its status code and body, unless the connection
cannot be opened. -/
structure ReleaseApi where
  get : Str → Option (ℤ × Str)
  errorToString : ℤ → Str

/-- The checksum, or the error while the checksum stays empty. -/
def fetchFirmwareReleaseChecksum (firmwareBuildTarget : BuildTarget) (api : ReleaseApi)
    (versionCore : Str) : Except Str Str :=
  let releaseApiUrl := firmwareReleaseApiUrl versionCore
  let firmwareAssetName := firmwareReleaseAssetName firmwareBuildTarget versionCore ".bin"
  if releaseApiUrl = [] ∨ firmwareAssetName = [] then .error "release_api_url_missing"
  else match api.get releaseApiUrl with
    | none => .error "unable_to_open_trusted_https_request"
    | some (httpCode, body) =>
      if httpCode ≠ 200 then
        let message := if httpCode < 0 then api.errorToString httpCode else extractGitHubApiMessage body
        let error := ("release_api_http_" : Str) ++ decimalInt httpCode
        .error (if 0 ≤ httpCode ∧ message = [] then error else error ++ ':' :: message)
      else releaseChecksum body firmwareAssetName

/-! ## Hexadecimal digits -/

/-- What the server writes in front of the digits. -/
def digestPrefix : Str := "sha256:"

/-- The text of a SHA-256. -/
abbrev Sha256Hex := {hex : Str // hex.length = 64 ∧ hex.all isHexDigit}

/-- Digits that complete a run of 64. -/
theorem extractFrom_append {digest hex : Str} (hlen : digest.length + hex.length = 64)
    (hne : hex ≠ []) (hhex : hex.all isHexDigit) (value : Str) :
    extractFrom digest (hex ++ value) = digest ++ hex.map toAsciiLowercase := by
  induction hex generalizing digest with
  | nil => exact absurd rfl hne
  | cons c hex ih =>
    simp only [List.all_cons, Bool.and_eq_true] at hhex
    rw [List.length_cons] at hlen
    rw [List.cons_append, extractFrom, if_pos hhex.1]
    by_cases hlast : hex = []
    · subst hlast
      have hfull : (digest ++ [toAsciiLowercase c]).length = 64 := by simpa using hlen
      rw [if_pos hfull]
      rfl
    · have hpos : hex.length ≠ 0 := fun h => hlast (List.length_eq_zero_iff.1 h)
      have hmore : (digest ++ [toAsciiLowercase c]).length ≠ 64 := by
        simp only [List.length_append, List.length_cons, List.length_nil]
        omega
      rw [if_neg hmore, ih (by simp; omega) hlast hhex.2]
      simp

theorem extractSha256Hex_sha256 (hex : Sha256Hex) :
    extractSha256Hex (digestPrefix ++ hex.1) = hex.1.map toAsciiLowercase := by
  have hne : hex.1 ≠ [] := by
    intro h
    have hlen := hex.2.1
    rw [h] at hlen
    cases hlen
  -- the `a` and `256` of the prefix are hexadecimal digits too, but end at the colon
  have hstarts : extractSha256Hex (digestPrefix ++ hex.1) = extractFrom [] hex.1 := rfl
  have hrun : extractFrom [] (hex.1 ++ []) = [] ++ hex.1.map toAsciiLowercase :=
    extractFrom_append (by simpa using hex.2.1) hne hex.2.2 []
  rw [List.append_nil] at hrun
  rw [hstarts, hrun, List.nil_append]

theorem length_map_sha256 (hex : Sha256Hex) : (hex.1.map toAsciiLowercase).length = 64 := by
  rw [List.length_map, hex.2.1]

theorem ne_quote_of_isHexDigit {c : Char} (h : isHexDigit c) : c ≠ '"' := by
  rintro rfl
  cases h

theorem isPlain_append {s t : Str} (hs : isPlain s) (ht : isPlain t) : isPlain (s ++ t) := by
  rw [isPlain, List.all_append, Bool.and_eq_true]
  exact ⟨hs, ht⟩

theorem takeWhile_of_isPlain {s : Str} (h : isPlain s) : s.takeWhile (· ≠ '"') = s := by
  rw [List.takeWhile_eq_self_iff]
  intro c hc
  have hplain := List.all_eq_true.1 h c hc
  simp only [Bool.and_eq_true] at hplain
  exact hplain.1

theorem isPlain_digits {s : Str} (h : s.all isAsciiDigit) : isPlain s := by
  rw [isPlain, List.all_eq_true]
  intro c hc
  have hdigit := List.all_eq_true.1 h c hc
  have hquote : c ≠ '"' := by
    rintro rfl
    cases hdigit
  have hbackslash : c ≠ '\\' := by
    rintro rfl
    cases hdigit
  simp [hquote, hbackslash]

theorem all_takeWhile_digits (s : Str) : (s.takeWhile isAsciiDigit).all isAsciiDigit := by
  rw [List.all_eq_true]
  intro c hc
  exact List.mem_takeWhile_imp hc

theorem numberThenDot_isPlain {s number rest : Str} (h : numberThenDot s = some (number, rest)) :
    isPlain number := by
  unfold numberThenDot at h
  split at h
  · dsimp only at h
    split at h
    · cases h
    · cases h
      exact isPlain_digits (all_takeWhile_digits s)
  · cases h

theorem semanticVersionCore_isPlain (version : Str) : isPlain (semanticVersionCore version) := by
  unfold semanticVersionCore
  dsimp only
  generalize (match trim version with
    | 'v' :: rest | 'V' :: rest => rest
    | _ => trim version) = digits
  cases hmajor : numberThenDot digits with
  | none => rfl
  | some found =>
    obtain ⟨major, rest⟩ := found
    rw [Option.bind_eq_bind, Option.bind_some]
    cases hminor : numberThenDot rest with
    | none => rfl
    | some found =>
      obtain ⟨minor, rest'⟩ := found
      rw [Option.bind_some]
      split
      · rfl
      · have hpatch := isPlain_digits (all_takeWhile_digits rest')
        have hminor := numberThenDot_isPlain hminor
        have hmajor := numberThenDot_isPlain hmajor
        apply isPlain_append
        · exact isPlain_append hmajor (isPlain_cons.2 ⟨by decide, hminor⟩)
        · exact isPlain_cons.2 ⟨by decide, hpatch⟩

theorem firmwareReleaseAssetName_isPlain (firmwareBuildTarget : BuildTarget) (versionCore : Str) :
    isPlain (firmwareReleaseAssetName firmwareBuildTarget versionCore ".bin") := by
  rw [firmwareReleaseAssetName]
  split
  · rfl
  · apply isPlain_append (by decide)
    apply isPlain_append (semanticVersionCore_isPlain versionCore)
    exact isPlain_cons.2 ⟨by decide, isPlain_append firmwareBuildTarget.2 (by decide)⟩

/-! ## What the search finds -/

namespace Key

def name : JsonKey := ⟨"name", by decide⟩
def digest : JsonKey := ⟨"digest", by decide⟩
def assets : JsonKey := ⟨"assets", by decide⟩

end Key

/-- The next string `digest` behind the first `name` that is this text. -/
def digestBehind (assetName : Str) (ms : List (JsonKey × Json)) : Option JsonBody :=
  (nextText Key.name (fun body => body.1 = assetName) ms).bind fun found =>
    (nextText Key.digest (fun _ => true) found.2).map Prod.fst

/-- The SHA-256 that stands in a string, if any. -/
def sha256In (digest : JsonBody) : Option Str :=
  let checksum := extractSha256Hex (digest.1.takeWhile (· ≠ '"'))
  if checksum.length = 64 then some checksum else none

theorem drop_find? {pat s : Str} {at_ : ℕ} (h : find? pat s = some at_) :
    ∃ rest, after? pat s = some rest ∧ s.drop at_ = pat ++ rest := by
  induction s generalizing at_ with
  | nil =>
    rw [find?] at h
    split at h
    · rename_i hempty
      cases h
      obtain rfl := List.isEmpty_iff.1 hempty
      exact ⟨[], rfl, rfl⟩
    · cases h
  | cons c s ih =>
    rw [find?] at h
    split at h
    · rename_i hstarts
      cases h
      obtain ⟨rest, hrest⟩ := List.isPrefixOf_iff_prefix.1 hstarts
      rw [List.drop_zero, ← hrest]
      exact ⟨rest, after?_append rest, rfl⟩
    · rename_i hstarts
      obtain ⟨at', hat', rfl⟩ := Option.map_eq_some_iff.1 h
      obtain ⟨rest, hafter, hdrop⟩ := ih hat'
      refine ⟨rest, ?_, hdrop⟩
      rw [after?_cons_of_not (mt List.isPrefixOf_iff_prefix.2 hstarts)]
      exact hafter

theorem find?_eq_none_of_after? {pat s : Str} (h : after? pat s = none) : find? pat s = none :=
  Option.map_eq_none_iff.1 h

/-- The search for the digest begins at the name, which it passes over. -/
theorem after?_digest_name {assetName : Str} (hname : isPlain assetName) {rest : Str}
    (hrest : Delimited rest) :
    after? (memberPattern Key.digest ['"']) (memberPattern Key.name (quoted assetName) ++ rest) =
      after? (memberPattern Key.digest ['"']) rest := by
  have hshape : memberPattern Key.name (quoted assetName) ++ rest =
      keyText Key.name ++ ('"' :: (assetName ++ '"' :: rest)) := by
    simp [memberPattern, keyText, quoted]
  have hkey : Key.name ≠ Key.digest := by decide
  rw [hshape, after?_keyText Key.name fun h => hkey h.1]
  exact after?_text Key.digest ['"'] ⟨assetName, closedFrom_of_isPlain hname⟩ hrest

theorem takeWhile_quote (value rest : Str) :
    (value ++ '"' :: rest).takeWhile (· ≠ '"') = value.takeWhile (· ≠ '"') := by
  induction value with
  | nil => rfl
  | cons c value ih =>
    rw [List.cons_append, List.takeWhile_cons, List.takeWhile_cons, ih]

theorem digestChecksum_eq_ok_iff (digest : JsonBody) (rest checksum : Str) :
    digestChecksum (digest.1 ++ '"' :: rest) = .ok checksum ↔ sha256In digest = some checksum := by
  rw [digestChecksum, takeWhile_quote, sha256In]
  by_cases hempty : digest.1.takeWhile (· ≠ '"') = []
  · rw [if_pos (Or.inr hempty), hempty]
    simp [extractSha256Hex, extractFrom]
  · have hnot : ¬ ('"' ∉ digest.1 ++ '"' :: rest ∨ digest.1.takeWhile (· ≠ '"') = []) := by
      rintro (hquote | h)
      · exact hquote (List.mem_append_right _ (List.mem_cons_self ..))
      · exact hempty h
    rw [if_neg hnot]
    dsimp only
    split
    · simp
    · simp

/-- The checksum is the SHA-256 in the next `digest` of the document. -/
theorem releaseChecksum_eq_ok_iff (document : Json) {assetName : Str} (hname : isPlain assetName)
    (checksum : Str) : releaseChecksum document.render assetName = .ok checksum ↔
      ∃ digest, digestBehind assetName document.members = some digest ∧
        sha256In digest = some checksum := by
  have hscan := scan_document document
  have hword := hscan.word Key.name hname
  have hname_pattern : ("\"name\":\"" : Str) ++ (assetName ++ ['"']) =
      memberPattern Key.name (quoted assetName) := rfl
  have hdigest_pattern : ("\"digest\":\"" : Str) = memberPattern Key.digest ['"'] := rfl
  rw [releaseChecksum, digestBehind, hname_pattern, hdigest_pattern]
  cases hfound : nextText Key.name (fun body => decide (body.1 = assetName)) document.members with
  | none =>
    rw [hfound] at hword
    rw [find?_eq_none_of_after? hword]
    simp
  | some found =>
    rw [hfound] at hword
    obtain ⟨rest, hrest, hms, hafter⟩ := hword
    obtain ⟨assetNameIndex, hindex, _⟩ := Option.map_eq_some_iff.1 hafter
    obtain ⟨rest', hafter', hdrop⟩ := drop_find? hindex
    rw [hafter] at hafter'
    cases hafter'
    rw [hindex, Option.bind_some]
    dsimp only
    rw [hdrop, after?_digest_name hname hrest]
    have htext := hms.text Key.digest
    cases hnext : nextText Key.digest (fun _ => true) found.2 with
    | none =>
      rw [hnext] at htext
      rw [htext]
      simp
    | some next =>
      rw [hnext] at htext
      obtain ⟨rest', hvalue⟩ := htext
      rw [hvalue, Option.map_some]
      dsimp only
      rw [digestChecksum_eq_ok_iff]
      simp

/-! ## Release documents -/

/-- The digest of an asset. -/
inductive AssetDigest where
  | absent
  | null
  | sha256 (hex : Sha256Hex)

def AssetDigest.hex? : AssetDigest → Option Sha256Hex
  | sha256 hex => some hex
  | absent | null => none

theorem isPlain_digest (hex : Sha256Hex) : isPlain (digestPrefix ++ hex.1) := by
  apply isPlain_append (by decide)
  rw [isPlain, List.all_eq_true]
  intro c hc
  have hdigit := List.all_eq_true.1 hex.2.2 c hc
  have hbackslash : c ≠ '\\' := by
    rintro rfl
    cases hdigit
  simp [ne_quote_of_isHexDigit hdigit, hbackslash]

/-- `sha256:` and the digits. -/
def digestBody (hex : Sha256Hex) : JsonBody :=
  ⟨digestPrefix ++ hex.1, closedFrom_of_isPlain (isPlain_digest hex)⟩

def AssetDigest.members : AssetDigest → List (JsonKey × Json)
  | absent => []
  | null => [(Key.digest, .word ⟨"null", by decide⟩)]
  | sha256 hex => [(Key.digest, .text (digestBody hex))]

/-- An asset has a name, behind it a digest, and any other members. -/
structure ReleaseAsset where
  before : List (JsonKey × Json)
  name : JsonBody
  between : List (JsonKey × Json)
  digest : AssetDigest
  after : List (JsonKey × Json)

def ReleaseAsset.json (asset : ReleaseAsset) : Json :=
  .object (asset.before ++ (Key.name, .text asset.name) ::
    (asset.between ++ (asset.digest.members ++ asset.after)))

/-- A release lists its assets, between any other members. -/
structure ReleaseDocument where
  before : List (JsonKey × Json)
  assets : List ReleaseAsset
  after : List (JsonKey × Json)

namespace ReleaseDocument

def json (doc : ReleaseDocument) : Json :=
  .object (doc.before ++ (Key.assets, .array (doc.assets.map (·.json))) :: doc.after)

/-- The asset of this name. -/
def asset? (doc : ReleaseDocument) (assetName : Str) : Option ReleaseAsset :=
  doc.assets.find? (·.name.1 = assetName)

/-- The server answers with this document. -/
def served (doc : ReleaseDocument) (errorToString : ℤ → Str) : ReleaseApi :=
  { get := fun _ => some (200, doc.json.render), errorToString }

/-- A checksum is the one of the asset; an asset without digest has none. -/
def BelongsToAsset (doc : ReleaseDocument) (assetName : Str) (result : Except Str Str) : Prop :=
  (∀ checksum, result = .ok checksum → ∃ asset hex, doc.asset? assetName = some asset ∧
      asset.digest.hex? = some hex ∧ checksum = hex.1.map toAsciiLowercase) ∧
    ∀ asset, doc.asset? assetName = some asset → asset.digest.hex? = none →
      ∃ error, result = .error error

/-- What stands in the next `digest` behind the name is the SHA-256 of the asset, if it
is one. -/
def NextDigestBelongs (doc : ReleaseDocument) (assetName : Str) : Prop :=
  ∀ digest checksum, digestBehind assetName doc.json.members = some digest →
    sha256In digest = some checksum → ∃ asset hex, doc.asset? assetName = some asset ∧
      asset.digest.hex? = some hex ∧ checksum = hex.1.map toAsciiLowercase

/-- Members that hold no `digest` string and not this name. -/
def Quiet (assetName : Str) (ms : List (JsonKey × Json)) : Prop :=
  Silent Key.name (fun body => body.1 = assetName) (membersOfMembers ms) ∧
    Silent Key.digest (fun _ => true) (membersOfMembers ms)

/-- Only the assets have such members. -/
structure Ordinary (doc : ReleaseDocument) (assetName : Str) : Prop where
  before : Quiet assetName doc.before
  after : Quiet assetName doc.after
  assets : ∀ asset ∈ doc.assets, Quiet assetName asset.before ∧ Quiet assetName asset.between ∧
    Quiet assetName asset.after

/-- The asset has a digest, or none that is listed after it has one. -/
def OwnDigestOrNone (doc : ReleaseDocument) (assetName : Str) : Prop :=
  ∀ asset later, doc.assets.dropWhile (fun a => a.name.1 ≠ assetName) = asset :: later →
    asset.digest.hex?.isSome ∨ ∀ a ∈ later, a.digest.hex? = none

end ReleaseDocument

/-! ## Ordinary documents -/

theorem membersOfMembers_append (ms ms' : List (JsonKey × Json)) :
    membersOfMembers (ms ++ ms') = membersOfMembers ms ++ membersOfMembers ms' := by
  induction ms with
  | nil => rfl
  | cons m ms ih =>
    obtain ⟨k, v⟩ := m
    rw [List.cons_append, membersOfMembers, membersOfMembers, ih, List.cons_append, List.append_assoc]

theorem members_digest (digest : AssetDigest) :
    membersOfMembers digest.members = digest.members := by
  cases digest with
  | absent => rfl
  | null => rfl
  | sha256 hex => rfl

theorem members_asset (asset : ReleaseAsset) : asset.json.members =
    membersOfMembers asset.before ++ (Key.name, .text asset.name) ::
      (membersOfMembers asset.between ++ (asset.digest.members ++ membersOfMembers asset.after)) := by
  rw [ReleaseAsset.json, members, membersOfMembers_append, membersOfMembers, membersOfMembers_append,
    membersOfMembers_append, members_digest]
  rfl

theorem sha256In_digestBody (hex : Sha256Hex) :
    sha256In (digestBody hex) = some (hex.1.map toAsciiLowercase) := by
  have hcut : extractSha256Hex ((digestBody hex).1.takeWhile (· ≠ '"')) =
      hex.1.map toAsciiLowercase := by
    rw [digestBody, takeWhile_of_isPlain (isPlain_digest hex), extractSha256Hex_sha256]
  rw [sha256In, hcut, if_pos (length_map_sha256 hex)]

theorem nextDigest_members (digest : AssetDigest) (ms : List (JsonKey × Json)) :
    (nextText Key.digest (fun _ => true) (digest.members ++ ms)).map Prod.fst =
      match digest.hex? with
      | some hex => some (digestBody hex)
      | none => (nextText Key.digest (fun _ => true) ms).map Prod.fst := by
  cases digest with
  | absent => rfl
  | null => rfl
  | sha256 hex =>
    rw [AssetDigest.members, List.cons_append, nextText_cons_self rfl]
    rfl

theorem silent_name_digest (digest : AssetDigest) (assetName : Str) :
    Silent Key.name (fun body => body.1 = assetName) digest.members := by
  have hkey : Key.digest ≠ Key.name := by decide
  cases digest with
  | absent => exact fun body hbody => absurd hbody (List.not_mem_nil)
  | null => exact Silent.cons (fun _ hk => absurd hk hkey) fun _ hbody => absurd hbody (List.not_mem_nil)
  | sha256 hex =>
    exact Silent.cons (fun _ hk => absurd hk hkey) fun _ hbody => absurd hbody (List.not_mem_nil)

namespace ReleaseDocument

variable {assetName : Str}

/-- The members of an asset from its digest on. -/
theorem nextDigest_tail {asset : ReleaseAsset} (hbetween : Quiet assetName asset.between)
    (hafter : Quiet assetName asset.after) (ms : List (JsonKey × Json)) :
    (nextText Key.digest (fun _ => true) (membersOfMembers asset.between ++
      (asset.digest.members ++ membersOfMembers asset.after) ++ ms)).map Prod.fst =
      match asset.digest.hex? with
      | some hex => some (digestBody hex)
      | none => (nextText Key.digest (fun _ => true) ms).map Prod.fst := by
  rw [List.append_assoc, nextText_append_of_silent hbetween.2, List.append_assoc, nextDigest_members,
    nextText_append_of_silent hafter.2]

/-- Behind any assets the next digest is the first one an asset has. -/
theorem nextDigest_assets {assets : List ReleaseAsset} {ms : List (JsonKey × Json)}
    (hassets : ∀ asset ∈ assets, Quiet assetName asset.before ∧ Quiet assetName asset.between ∧
      Quiet assetName asset.after)
    (hms : Silent Key.digest (fun _ => true) ms) :
    (nextText Key.digest (fun _ => true) (membersOfItems (assets.map (·.json)) ++ ms)).map Prod.fst =
      (assets.findSome? (·.digest.hex?)).map digestBody := by
  have hkey : Key.name ≠ Key.digest := by decide
  induction assets with
  | nil =>
    show (nextText Key.digest (fun _ => true) ms).map Prod.fst = none
    rw [nextText_of_silent hms]
    rfl
  | cons asset assets ih =>
    obtain ⟨hbefore, hbetween, hafter⟩ := hassets asset (List.mem_cons_self ..)
    have hlater := ih fun a ha => hassets a (List.mem_cons_of_mem _ ha)
    rw [List.map_cons, membersOfItems, members_asset, List.append_assoc, List.append_assoc,
      nextText_append_of_silent hbefore.2, List.cons_append, nextText, if_neg fun h => hkey h.1,
      nextDigest_tail hbetween hafter, List.findSome?_cons, hlater]
    cases asset.digest.hex? with
    | none => rfl
    | some hex => rfl

/-- Behind the name it is the first one from its asset on. -/
theorem digestBehind_assets {assets : List ReleaseAsset} {ms : List (JsonKey × Json)}
    (hassets : ∀ asset ∈ assets, Quiet assetName asset.before ∧ Quiet assetName asset.between ∧
      Quiet assetName asset.after)
    (hname : Silent Key.name (fun body => body.1 = assetName) ms)
    (hdigest : Silent Key.digest (fun _ => true) ms) :
    digestBehind assetName (membersOfItems (assets.map (·.json)) ++ ms) =
      ((assets.dropWhile fun a => a.name.1 ≠ assetName).findSome? (·.digest.hex?)).map digestBody := by
  induction assets with
  | nil =>
    show digestBehind assetName ms = none
    rw [digestBehind, nextText_of_silent hname, Option.bind_none]
  | cons asset assets ih =>
    obtain ⟨hbefore, hbetween, hafter⟩ := hassets asset (List.mem_cons_self ..)
    have hlater := fun a ha => hassets a (List.mem_cons_of_mem _ ha)
    rw [List.map_cons, membersOfItems, members_asset, List.append_assoc, List.append_assoc,
      digestBehind, nextText_append_of_silent hbefore.1, List.cons_append]
    by_cases hwanted : asset.name.1 = assetName
    · rw [nextText_cons_self (by simpa using hwanted), Option.bind_some,
        nextDigest_tail hbetween hafter, nextDigest_assets hlater hdigest,
        List.dropWhile_cons_of_neg (by simpa using hwanted), List.findSome?_cons]
      cases asset.digest.hex? with
      | none => rfl
      | some hex => rfl
    · have htail : Silent Key.name (fun body => body.1 = assetName) (membersOfMembers asset.between ++
          (asset.digest.members ++ membersOfMembers asset.after)) :=
        hbetween.1.append ((silent_name_digest asset.digest assetName).append hafter.1)
      rw [nextText, if_neg (by simpa using hwanted), nextText_append_of_silent htail,
        List.dropWhile_cons_of_pos (by simpa using hwanted)]
      exact ih hlater

theorem digestBehind_of_ordinary {doc : ReleaseDocument} (h : doc.Ordinary assetName) :
    digestBehind assetName doc.json.members =
      ((doc.assets.dropWhile fun a => a.name.1 ≠ assetName).findSome? (·.digest.hex?)).map digestBody := by
  have hassets := digestBehind_assets h.assets h.after.1 h.after.2
  rw [digestBehind] at hassets
  have harray : (Json.array (doc.assets.map (·.json))).members = membersOfItems (doc.assets.map (·.json)) := by
    rw [members]
  rw [json, members, membersOfMembers_append, membersOfMembers, harray, digestBehind,
    nextText_append_of_silent h.before.1, nextText, hassets]

theorem asset?_eq_head? (doc : ReleaseDocument) (assetName : Str) : doc.asset? assetName =
    (doc.assets.dropWhile fun a => a.name.1 ≠ assetName).head? := by
  rw [asset?, List.find?_eq_head?_dropWhile_not]
  simp

/-- In an ordinary document the next digest belongs to the asset exactly if it has
one or no later asset has. -/
theorem nextDigestBelongs_iff_of_ordinary {doc : ReleaseDocument} (h : doc.Ordinary assetName) :
    doc.NextDigestBelongs assetName ↔ doc.OwnDigestOrNone assetName := by
  rw [NextDigestBelongs, OwnDigestOrNone, digestBehind_of_ordinary h, asset?_eq_head?]
  cases doc.assets.dropWhile fun a => a.name.1 ≠ assetName with
  | nil => simp
  | cons asset later =>
    rw [List.findSome?_cons, List.head?_cons]
    cases hown : asset.digest.hex? with
    | some hex =>
      refine iff_of_true ?_ ?_
      · rintro digest checksum hdigest hchecksum
        rw [Option.map_some, Option.some_inj] at hdigest
        rw [← hdigest, sha256In_digestBody, Option.some_inj] at hchecksum
        exact ⟨asset, hex, rfl, hown, hchecksum.symm⟩
      · rintro _ _ hcons
        obtain ⟨rfl, rfl⟩ := List.cons.inj hcons
        exact Or.inl (by rw [hown]; rfl)
    | none =>
      dsimp only
      constructor
      · rintro hbelongs _ _ hcons
        obtain ⟨rfl, rfl⟩ := List.cons.inj hcons
        right
        rw [← List.findSome?_eq_none_iff]
        by_contra hlater
        -- the digest of a later asset would be taken
        obtain ⟨hex, hhex⟩ := Option.ne_none_iff_exists'.1 hlater
        rw [hhex] at hbelongs
        obtain ⟨_, hex', hasset, hhex', _⟩ :=
          hbelongs (digestBody hex) _ rfl (sha256In_digestBody hex)
        cases hasset
        rw [hown] at hhex'
        cases hhex'
      · rintro hnone digest checksum hdigest
        have hlater := (hnone asset later rfl).resolve_left (by rw [hown]; simp)
        rw [List.findSome?_eq_none_iff.2 hlater] at hdigest
        cases hdigest

/-- Any result other than another checksum belongs to the asset. -/
theorem belongsToAsset_iff (doc : ReleaseDocument) (assetName : Str) (result : Except Str Str) :
    doc.BelongsToAsset assetName result ↔ ∀ checksum, result = .ok checksum →
      ∃ asset hex, doc.asset? assetName = some asset ∧ asset.digest.hex? = some hex ∧
        checksum = hex.1.map toAsciiLowercase := by
  refine ⟨fun h => h.1, fun h => ⟨h, ?_⟩⟩
  rintro asset hasset hnone
  cases result with
  | error error => exact ⟨error, rfl⟩
  | ok checksum =>
    obtain ⟨asset', hex, hasset', hhex, _⟩ := h checksum rfl
    rw [hasset] at hasset'
    cases hasset'
    rw [hnone] at hhex
    cases hhex

end ReleaseDocument

open ReleaseDocument

theorem firmwareReleaseAssetName_ne_nil {firmwareBuildTarget : BuildTarget} {versionCore : Str} :
    firmwareReleaseAssetName firmwareBuildTarget versionCore ".bin" ≠ [] ↔
      semanticVersionCore versionCore ≠ [] := by
  rw [firmwareReleaseAssetName]
  split
  · rename_i hcore
    simp [hcore]
  · rename_i hcore
    exact iff_of_true (by simp) hcore

theorem firmwareReleaseApiUrl_ne_nil {versionCore : Str} (h : semanticVersionCore versionCore ≠ []) :
    firmwareReleaseApiUrl versionCore ≠ [] := by
  rw [firmwareReleaseApiUrl, if_neg h]
  simp

/-- The document is searched if the version is one of a release. -/
theorem fetchFirmwareReleaseChecksum_served {firmwareBuildTarget : BuildTarget} {versionCore : Str}
    (h : semanticVersionCore versionCore ≠ []) (doc : ReleaseDocument) (errorToString : ℤ → Str) :
    fetchFirmwareReleaseChecksum firmwareBuildTarget (doc.served errorToString) versionCore =
      releaseChecksum doc.json.render
        (firmwareReleaseAssetName firmwareBuildTarget versionCore ".bin") := by
  have hnames : ¬ (firmwareReleaseApiUrl versionCore = [] ∨
      firmwareReleaseAssetName firmwareBuildTarget versionCore ".bin" = []) := by
    rintro (hurl | hname)
    · exact firmwareReleaseApiUrl_ne_nil h hurl
    · exact firmwareReleaseAssetName_ne_nil.2 h hname
  rw [fetchFirmwareReleaseChecksum, if_neg hnames]
  rfl

/-- The checksum belongs to the asset exactly if the next `digest` behind the asset's
name does, or is no SHA-256; in an ordinary document exactly if the asset has a digest
or no later asset has one. -/
theorem checksum_belongs_iff (firmwareBuildTarget : BuildTarget) (versionCore : Str)
    (doc : ReleaseDocument) (errorToString : ℤ → Str) :
    let assetName := firmwareReleaseAssetName firmwareBuildTarget versionCore ".bin"
    let result :=
      fetchFirmwareReleaseChecksum firmwareBuildTarget (doc.served errorToString) versionCore
    (doc.BelongsToAsset assetName result ↔
      (semanticVersionCore versionCore ≠ [] → doc.NextDigestBelongs assetName)) ∧
      (doc.Ordinary assetName → (doc.BelongsToAsset assetName result ↔
        (semanticVersionCore versionCore ≠ [] → doc.OwnDigestOrNone assetName))) := by
  intro assetName result
  have hgeneral : doc.BelongsToAsset assetName result ↔
      (semanticVersionCore versionCore ≠ [] → doc.NextDigestBelongs assetName) := by
    rw [belongsToAsset_iff]
    by_cases hcore : semanticVersionCore versionCore = []
    · refine iff_of_true ?_ fun hne => absurd hcore hne
      have hurl : firmwareReleaseApiUrl versionCore = [] := by
        rw [firmwareReleaseApiUrl, if_pos hcore]
      have herror : result = .error "release_api_url_missing" := by
        show fetchFirmwareReleaseChecksum _ _ _ = _
        rw [fetchFirmwareReleaseChecksum, if_pos (Or.inl hurl)]
      rintro checksum hchecksum
      rw [herror] at hchecksum
      cases hchecksum
    · have hresult : result = releaseChecksum doc.json.render assetName :=
        fetchFirmwareReleaseChecksum_served hcore doc errorToString
      have hok (checksum : Str) := releaseChecksum_eq_ok_iff doc.json
        (firmwareReleaseAssetName_isPlain firmwareBuildTarget versionCore) checksum
      rw [hresult, NextDigestBelongs]
      constructor
      · rintro h _ digest checksum hdigest hchecksum
        exact h checksum ((hok checksum).2 ⟨digest, hdigest, hchecksum⟩)
      · rintro h checksum hchecksum
        obtain ⟨digest, hdigest, hchecksum⟩ := (hok checksum).1 hchecksum
        exact h hcore digest checksum hdigest hchecksum
  refine ⟨hgeneral, fun hordinary => ?_⟩
  rw [hgeneral, nextDigestBelongs_iff_of_ordinary hordinary]

def devkitTarget : BuildTarget := ⟨"lonely-esp32-s3-devkitm-1", by decide⟩

def zeroHex : Sha256Hex := ⟨List.replicate 64 '0', by decide⟩

def plainAsset (name : JsonBody) (digest : AssetDigest) : ReleaseAsset :=
  { before := [], name, between := [], digest, after := [] }

def devkitImage : JsonBody := ⟨"EspWaveRider-1.4.0-lonely-esp32-s3-devkitm-1.bin", by decide⟩

def otherImage : JsonBody := ⟨"EspWaveRider-1.4.0-heltec-wifi-lora-32-v3.bin", by decide⟩

/-- The images of two targets. -/
def twoImages (digest otherDigest : AssetDigest) : ReleaseDocument where
  before := [(⟨"tag_name", by decide⟩, .text ⟨"v1.4.0", by decide⟩)]
  assets := [plainAsset devkitImage digest, plainAsset otherImage otherDigest]
  after := []

theorem twoImages_ordinary (digest otherDigest : AssetDigest) (assetName : Str) :
    (twoImages digest otherDigest).Ordinary assetName := by
  have hnil : Quiet assetName [] := ⟨fun _ h => absurd h (List.not_mem_nil), fun _ h => absurd h (List.not_mem_nil)⟩
  refine ⟨⟨?_, ?_⟩, hnil, ?_⟩
  · exact Silent.cons (fun _ hk => absurd hk (by decide)) hnil.1
  · exact Silent.cons (fun _ hk => absurd hk (by decide)) hnil.2
  · intro asset hasset
    rcases List.mem_cons.1 hasset with rfl | hasset
    · exact ⟨hnil, hnil, hnil⟩
    · rw [List.mem_singleton.1 hasset]
      exact ⟨hnil, hnil, hnil⟩

theorem checksum_belongs_with_digest :
    (twoImages (.sha256 zeroHex) .null).BelongsToAsset
      (firmwareReleaseAssetName devkitTarget "1.4.0" ".bin")
      (fetchFirmwareReleaseChecksum devkitTarget
        ((twoImages (.sha256 zeroHex) .null).served fun _ => []) "1.4.0") := by
  refine ((checksum_belongs_iff devkitTarget "1.4.0" _ fun _ => []).2
    (twoImages_ordinary _ _ _)).2 ?_
  rintro _ asset later hassets
  have hname : firmwareReleaseAssetName devkitTarget "1.4.0" ".bin" = devkitImage.1 := by
    decide +kernel
  rw [hname, twoImages, List.dropWhile_cons_of_neg (by simp [plainAsset])] at hassets
  obtain ⟨rfl, rfl⟩ := List.cons.inj hassets
  exact Or.inl rfl

/-- The asset has no digest yet, and the one of the next asset is returned. -/
theorem checksum_of_other_asset :
    ¬ ∀ (firmwareBuildTarget : BuildTarget) (versionCore : Str) (doc : ReleaseDocument)
        (errorToString : ℤ → Str),
      doc.BelongsToAsset (firmwareReleaseAssetName firmwareBuildTarget versionCore ".bin")
        (fetchFirmwareReleaseChecksum firmwareBuildTarget (doc.served errorToString) versionCore) := by
  intro hall
  have hbelongs := hall devkitTarget "1.4.0" (twoImages .null (.sha256 zeroHex)) fun _ => []
  have hresult : fetchFirmwareReleaseChecksum devkitTarget
      ((twoImages .null (.sha256 zeroHex)).served fun _ => []) "1.4.0" = .ok zeroHex.1 := by
    decide +kernel
  have hasset : (twoImages .null (.sha256 zeroHex)).asset?
      (firmwareReleaseAssetName devkitTarget "1.4.0" ".bin") = some (plainAsset devkitImage .null) := by
    rw [asset?, twoImages, List.find?_cons_of_pos]
    decide +kernel
  rw [hresult] at hbelongs
  obtain ⟨error, herror⟩ := hbelongs.2 _ hasset rfl
  cases herror

end EspWaveRider.Cpp
