import EspWaveRider.Lib.Text

/-!
# Releases

`rust/crates/espwaverider-core/src/release.rs`: the version a text names, where
the firmware image of a release is found, and the parts of a download address.

* `semanticVersionCore` — major, minor and patch number of a version text, and
  `semanticVersionCore_idem`: it is its own core;
* `firmwareReleaseAssetUrls` — where the image of a release may be found.
-/

namespace EspWaveRider.Release

open Text

/-- Digits, and what follows them after a dot. -/
def numberThenDot (s : Str) : Option (Str × Str) :=
  match s.dropWhile isAsciiDigit with
  | '.' :: rest =>
    let number := s.takeWhile isAsciiDigit
    if number = [] then none else some (number, rest)
  | _ => none

/-- `major.minor.patch` at the start of a version text, after an optional `v`;
empty when there is none. -/
def semanticVersionCore (version : Str) : Str :=
  let trimmed := trim version
  let digits := match trimmed with
    | 'v' :: rest | 'V' :: rest => rest
    | _ => trimmed
  (do
    let (major, rest) ← numberThenDot digits
    let (minor, rest) ← numberThenDot rest
    let patch := rest.takeWhile isAsciiDigit
    if patch = [] then none else some (major ++ '.' :: minor ++ '.' :: patch)).getD []

example : semanticVersionCore "v1.2.3-4-gabcd" = ("1.2.3" : Str) := by decide
example : semanticVersionCore "main" = [] := by decide

/-! ### The core of a core -/

/-- One digit or more. -/
def IsNumber (s : Str) : Prop := s ≠ [] ∧ ∀ c ∈ s, isAsciiDigit c

theorem isNumber_takeWhile {s : Str} (h : s.takeWhile isAsciiDigit ≠ []) :
    IsNumber (s.takeWhile isAsciiDigit) :=
  ⟨h, fun _ hc => List.mem_takeWhile_imp hc⟩

theorem isNumber_of_numberThenDot {s number rest : Str}
    (h : numberThenDot s = some (number, rest)) : IsNumber number := by
  rw [numberThenDot] at h
  split at h
  · dsimp only at h
    split at h
    · cases h
    · rename_i hne
      cases h
      exact isNumber_takeWhile hne
  · cases h

theorem numberThenDot_append {number : Str} (h : IsNumber number) (rest : Str) :
    numberThenDot (number ++ '.' :: rest) = some (number, rest) := by
  have hdot : ¬ isAsciiDigit '.' := by decide
  rw [numberThenDot, List.dropWhile_append_of_pos h.2, List.dropWhile_cons_of_neg hdot,
    List.takeWhile_append_of_pos h.2, List.takeWhile_cons_of_neg hdot, List.append_nil]
  exact if_neg h.1

/-- Three numbers with dots between them, or nothing. -/
theorem threeNumbers_cases {core digits : Str}
    (h : core = (do
      let (major, rest) ← numberThenDot digits
      let (minor, rest) ← numberThenDot rest
      let patch := rest.takeWhile isAsciiDigit
      if patch = [] then none else some (major ++ '.' :: minor ++ '.' :: patch)).getD []) :
    core = [] ∨ ∃ major minor patch, IsNumber major ∧ IsNumber minor ∧ IsNumber patch ∧
      core = major ++ '.' :: minor ++ '.' :: patch := by
  cases hmajor : numberThenDot digits with
  | none =>
    rw [hmajor] at h
    exact Or.inl h
  | some found =>
    obtain ⟨major, rest⟩ := found
    rw [hmajor, Option.bind_eq_bind, Option.bind_some] at h
    dsimp only at h
    cases hminor : numberThenDot rest with
    | none =>
      rw [hminor] at h
      exact Or.inl h
    | some found =>
      obtain ⟨minor, rest'⟩ := found
      rw [hminor, Option.bind_some] at h
      dsimp only at h
      by_cases hpatch : rest'.takeWhile isAsciiDigit = []
      · rw [if_pos hpatch] at h
        exact Or.inl h
      · rw [if_neg hpatch] at h
        exact Or.inr ⟨major, minor, _, isNumber_of_numberThenDot hmajor,
          isNumber_of_numberThenDot hminor, isNumber_takeWhile hpatch, h⟩

/-- A core that is not empty is three numbers with dots between them. -/
theorem semanticVersionCore_cases (version : Str) : semanticVersionCore version = [] ∨
    ∃ major minor patch, IsNumber major ∧ IsNumber minor ∧ IsNumber patch ∧
      semanticVersionCore version = major ++ '.' :: minor ++ '.' :: patch :=
  threeNumbers_cases rfl

theorem semanticVersionCore_of_numbers {major minor patch : Str} (hmajor : IsNumber major)
    (hminor : IsNumber minor) (hpatch : IsNumber patch) :
    semanticVersionCore (major ++ '.' :: minor ++ '.' :: patch) =
      major ++ '.' :: minor ++ '.' :: patch := by
  have htrim : trim (major ++ '.' :: minor ++ '.' :: patch) = major ++ '.' :: minor ++ '.' :: patch := by
    apply trim_eq_self
    intro c hc
    have hdot : isWhitespace '.' = false := by decide
    simp only [List.mem_append, List.mem_cons] at hc
    rcases hc with (hc | rfl | hc) | rfl | hc
    · exact isWhitespace_of_isAsciiDigit (hmajor.2 c hc)
    · exact hdot
    · exact isWhitespace_of_isAsciiDigit (hminor.2 c hc)
    · exact hdot
    · exact isWhitespace_of_isAsciiDigit (hpatch.2 c hc)
  -- a digit is no `v`
  obtain ⟨first, rest, rfl⟩ := List.exists_cons_of_ne_nil hmajor.1
  have hfirst := hmajor.2 first (List.mem_cons_self ..)
  have hv : first ≠ 'v' ∧ first ≠ 'V' := by
    constructor
    · rintro rfl
      exact absurd hfirst (by decide)
    · rintro rfl
      exact absurd hfirst (by decide)
  have htake : patch.takeWhile isAsciiDigit = patch := List.takeWhile_eq_self_iff.2 hpatch.2
  rw [semanticVersionCore, htrim]
  dsimp only
  split
  · rename_i heq
    exact absurd (List.cons.inj heq).1 hv.1
  · rename_i heq
    exact absurd (List.cons.inj heq).1 hv.2
  · rw [List.append_assoc, List.cons_append (a := '.'), numberThenDot_append hmajor, Option.bind_eq_bind,
      Option.bind_some, numberThenDot_append hminor, Option.bind_some, htake, if_neg hpatch.1,
      Option.getD_some, List.append_assoc, List.cons_append (a := '.')]

theorem semanticVersionCore_idem (version : Str) :
    semanticVersionCore (semanticVersionCore version) = semanticVersionCore version := by
  obtain hempty | ⟨major, minor, patch, hmajor, hminor, hpatch, heq⟩ := semanticVersionCore_cases version
  · rw [hempty]
    rfl
  · rw [heq]
    exact semanticVersionCore_of_numbers hmajor hminor hpatch

def legacyReleaseTargetAlias (buildTarget : Str) : Option Str :=
  let target := trim buildTarget
  if target = ("lonely-esp32-s3-devkitm-1" : Str) then some "esp32-s3-devkitm-1"
  else if target = ("esp32-generic-uart1" : Str) then some "esp32dev-uart1"
  else if target = ("heltec-wifi-lora-32-v4-compatible" : Str) then some "heltec-wifi-lora-32-v4"
  else none

def firmwareReleaseAssetName (version buildTarget extension : Str) : Str :=
  let versionCore := semanticVersionCore version
  if versionCore = [] ∨ trim buildTarget = [] then []
  else ("EspWaveRider-" : Str) ++ versionCore ++ '-' :: trim buildTarget ++ extension

def firmwareReleaseAssetUrl (owner repo version buildTarget : Str) : Str :=
  let versionCore := semanticVersionCore version
  if versionCore = [] ∨ trim owner = [] ∨ trim repo = [] then []
  else
    let assetName := firmwareReleaseAssetName versionCore buildTarget ".bin"
    if assetName = [] then []
    else ("https://github.com/" : Str) ++ trim owner ++ '/' :: trim repo ++
      ("/releases/download/v" : Str) ++ versionCore ++ '/' :: assetName

def firmwareReleaseAssetUrls (owner repo version buildTarget : Str) : List Str :=
  let canonicalUrl := firmwareReleaseAssetUrl owner repo version buildTarget
  if canonicalUrl = [] then []
  else match legacyReleaseTargetAlias buildTarget with
    | none => [canonicalUrl]
    | some aliasTarget =>
      let aliasUrl := firmwareReleaseAssetUrl owner repo version aliasTarget
      if aliasUrl ≠ [] ∧ aliasUrl ∉ [canonicalUrl] then [canonicalUrl, aliasUrl]
      else [canonicalUrl]

/-! ## Download addresses -/

inductive DownloadUrlScheme where
  | http
  | https
  deriving DecidableEq

structure ParsedDownloadUrl where
  scheme : DownloadUrlScheme
  host : Str
  port : ℕ
  path : Str
  deriving DecidableEq

/-- Host and port of an authority. -/
def parseAuthority (authority : Str) (defaultPort : ℕ) : Option (Str × ℕ) :=
  match rsplitOnce ':' authority with
  | none => some (authority, defaultPort)
  | some (host, portText) =>
    if host = [] ∨ portText = [] ∨ !portText.all isAsciiDigit then none
    else (parseUnsigned 65535 portText).map fun port => (host, port)

def parseDownloadUrl (url : Str) : Option ParsedDownloadUrl := do
  let (schemeText, remainder) ← splitOnce "://" (trim url)
  let scheme ← if eqIgnoreAsciiCase schemeText "http" then some .http
    else if eqIgnoreAsciiCase schemeText "https" then some .https
    else none
  let slashIndex ← find? ['/'] remainder
  let authority := remainder.take slashIndex
  let path := remainder.drop slashIndex
  if authority = [] ∨ path = [] then none
  else
    let defaultPort := match scheme with
      | .http => 80
      | .https => 443
    let (host, port) ← parseAuthority authority defaultPort
    some { scheme, host, port, path }

example : parseDownloadUrl "http://example.local:8080/fw.bin" =
    some ⟨.http, "example.local", 8080, "/fw.bin"⟩ := by decide
example : parseDownloadUrl "https://github.com" = none := by decide

end EspWaveRider.Release
