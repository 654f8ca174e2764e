import EspWaveRider.Core.Release
import EspWaveRider.Lib.LeadingNumber
import EspWaveRider.Lib.Splitting

/-!
# Download addresses

`parse_download_url` of `rust/crates/espwaverider-core/src/release.rs`: a scheme, a host that may
be followed by a port, and a path.

* `Splits`, `parseDownloadUrl_of_splits` — the parts of an address, and what is read from them;
* `downloadUrl_codec` — what is written is read back, and which texts are no addresses.
-/

namespace EspWaveRider.Release

open Text

namespace DownloadUrlScheme

def name : DownloadUrlScheme → Str
  | .http => "http"
  | .https => "https"

def defaultPort : DownloadUrlScheme → ℕ
  | .http => 80
  | .https => 443

/-- The scheme that a text names in any letter case. -/
def read (schemeText : Str) : Option DownloadUrlScheme :=
  if eqIgnoreAsciiCase schemeText "http" then some .http
  else if eqIgnoreAsciiCase schemeText "https" then some .https
  else none

theorem read_of_spells {scheme : DownloadUrlScheme} {schemeText : Str}
    (h : eqIgnoreAsciiCase schemeText scheme.name = true) : read schemeText = some scheme := by
  rw [read]
  cases scheme with
  | http => exact if_pos h
  | https =>
    have hother : ¬ eqIgnoreAsciiCase schemeText "http" = true := by
      rw [eqIgnoreAsciiCase, beq_iff_eq] at h ⊢
      rw [h]
      decide
    rw [if_neg hother]
    exact if_pos h

theorem read_eq_none_iff {schemeText : Str} : read schemeText = none ↔
    ∀ scheme : DownloadUrlScheme, eqIgnoreAsciiCase schemeText scheme.name = false := by
  constructor
  · intro h scheme
    rw [Bool.eq_false_iff]
    intro hspells
    rw [read_of_spells hspells] at h
    cases h
  · intro h
    have hhttp : ¬ eqIgnoreAsciiCase schemeText "http" = true := Bool.eq_false_iff.1 (h .http)
    have hhttps : ¬ eqIgnoreAsciiCase schemeText "https" = true := Bool.eq_false_iff.1 (h .https)
    rw [read, if_neg hhttp, if_neg hhttps]

end DownloadUrlScheme

/-! ## The parts of an address -/

/-- What stands before and after the first `://` of an address. -/
structure Splits (url schemeText remainder : Str) : Prop where
  trim_eq : trim url = schemeText ++ ("://" ++ remainder)
  first : contains (schemeText ++ ":/") "://" = false

section Parts

variable {url schemeText remainder authority : Str}

theorem Splits.splitOnce_eq (h : Splits url schemeText remainder) :
    splitOnce "://" (trim url) = some (schemeText, remainder) := by
  rw [h.trim_eq]
  exact splitOnce_append (by decide) h.first remainder

theorem parseDownloadUrl_of_splits (h : Splits url schemeText remainder) :
    parseDownloadUrl url = (DownloadUrlScheme.read schemeText).bind fun scheme =>
      (find? ['/'] remainder).bind fun slashIndex =>
        if remainder.take slashIndex = [] ∨ remainder.drop slashIndex = [] then none
        else (parseAuthority (remainder.take slashIndex) scheme.defaultPort).map fun authority =>
          ⟨scheme, authority.1, authority.2, remainder.drop slashIndex⟩ := by
  simp only [parseDownloadUrl, h.splitOnce_eq, DownloadUrlScheme.read, Option.bind_eq_bind,
    Option.bind_some]
  by_cases hhttp : eqIgnoreAsciiCase schemeText "http" = true
  · simp only [hhttp, if_true, Option.bind_some, Option.map_eq_bind]
    rfl
  · by_cases hhttps : eqIgnoreAsciiCase schemeText "https" = true
    · simp only [hhttp, hhttps, if_true, if_false, Bool.false_eq_true, Option.bind_some,
        Option.map_eq_bind]
      rfl
    · simp only [hhttp, hhttps, if_false, Bool.false_eq_true, Option.bind_none]

/-- The path begins at the first slash behind the scheme. -/
theorem parseDownloadUrl_of_path {path : Str} (h : Splits url schemeText (authority ++ '/' :: path))
    (hslash : '/' ∉ authority) :
    parseDownloadUrl url = (DownloadUrlScheme.read schemeText).bind fun scheme =>
      if authority = [] then none
      else (parseAuthority authority scheme.defaultPort).map fun parsed =>
        ⟨scheme, parsed.1, parsed.2, '/' :: path⟩ := by
  rw [parseDownloadUrl_of_splits h, find?_singleton_append_cons hslash]
  congr 1
  funext scheme
  rw [Option.bind_some, List.take_left, List.drop_left]
  simp

theorem parseAuthority_of_notMem {host : Str} (h : ':' ∉ host) (defaultPort : ℕ) :
    parseAuthority host defaultPort = some (host, defaultPort) := by
  rw [parseAuthority, rsplitOnce_of_notMem h]

/-- The port stands behind the last colon. -/
theorem parseAuthority_append {portText : Str} (h : ':' ∉ portText) (host : Str) (defaultPort : ℕ) :
    parseAuthority (host ++ ':' :: portText) defaultPort =
      if host = [] ∨ portText = [] ∨ !portText.all isAsciiDigit then none
      else (parseUnsigned 65535 portText).map fun port => (host, port) := by
  rw [parseAuthority, rsplitOnce_append_cons h]

theorem parseAuthority_numeral (port : Numeral 65535) {host : Str} (h : host ≠ [])
    (defaultPort : ℕ) :
    parseAuthority (host ++ ':' :: port.digits) defaultPort = some (host, port.value) := by
  have hcolon : ':' ∉ port.digits := fun hmem =>
    absurd (port.isAsciiDigit_of_mem hmem) (by decide)
  have hdigits : port.digits.all isAsciiDigit = true :=
    List.all_eq_true.2 fun _ => port.isAsciiDigit_of_mem
  have haccepted : ¬ (host = [] ∨ port.digits = [] ∨ !port.digits.all isAsciiDigit) := by
    simp [h, port.digits_ne_nil, hdigits]
  rw [parseAuthority_append hcolon, if_neg haccepted, port.parseUnsigned_eq, Option.map_some]

/-- A port that is empty, no number, or too large. -/
def BadPort (portText : Str) : Prop :=
  portText = [] ∨ portText.all isAsciiDigit = false ∨ 65535 < digitsValue 0 portText

theorem exists_numeral_of_not_badPort {portText : Str} (h : ¬ BadPort portText) :
    ∃ port : Numeral 65535, portText = port.digits := by
  rw [BadPort, not_or, not_or, Bool.not_eq_false, not_lt] at h
  exact ⟨⟨portText, digitsValue 0 portText, if_pos ⟨h.1, h.2.1⟩, h.2.2⟩, rfl⟩

theorem parseAuthority_of_badPort {host portText : Str} (hcolon : ':' ∉ portText)
    (h : BadPort portText) (defaultPort : ℕ) :
    parseAuthority (host ++ ':' :: portText) defaultPort = none := by
  rw [parseAuthority_append hcolon]
  split_ifs with hrejected
  · rfl
  · rw [not_or, not_or, Bool.not_eq_true', Bool.not_eq_false] at hrejected
    have hlarge : 65535 < digitsValue 0 portText :=
      (h.resolve_left hrejected.2.1).resolve_left (by simp [hrejected.2.2])
    cases hport : parseUnsigned 65535 portText with
    | none => rfl
    | some port =>
      have hplus : ∀ rest, portText ≠ '+' :: rest := by
        rintro rest rfl
        exact absurd hrejected.2.2 (by simp [isAsciiDigit])
      rw [parseUnsigned, parseDigits, if_pos ⟨hrejected.2.1, hrejected.2.2⟩,
        Option.filter_some_neg (by simpa using hlarge)] at hport
      · cases hport
      · exact hplus

end Parts

/-! ## Which texts are addresses -/

/-- The texts that are no addresses. -/
inductive NoAddress (url : Str) : Prop
  | noScheme (h : contains (trim url) "://" = false)
  | otherScheme {schemeText remainder : Str} (h : Splits url schemeText remainder)
      (hother : ∀ scheme : DownloadUrlScheme, eqIgnoreAsciiCase schemeText scheme.name = false)
  | noPath {schemeText remainder : Str} (h : Splits url schemeText remainder)
      (hslash : '/' ∉ remainder)
  | noHost {schemeText path : Str} (h : Splits url schemeText ('/' :: path))
  | noHostBeforePort {schemeText portText path : Str}
      (h : Splits url schemeText (':' :: portText ++ '/' :: path)) (hslash : '/' ∉ portText)
      (hcolon : ':' ∉ portText)
  | badPort {schemeText host portText path : Str}
      (h : Splits url schemeText (host ++ ':' :: portText ++ '/' :: path))
      (hslash : '/' ∉ host ++ ':' :: portText) (hcolon : ':' ∉ portText) (hport : BadPort portText)

theorem parseDownloadUrl_of_noAddress {url : Str} (h : NoAddress url) :
    parseDownloadUrl url = none := by
  cases h with
  | noScheme h => rw [parseDownloadUrl, splitOnce_eq_none h, Option.bind_eq_bind, Option.bind_none]
  | otherScheme h hother =>
    rw [parseDownloadUrl_of_splits h, DownloadUrlScheme.read_eq_none_iff.2 hother, Option.bind_none]
  | noPath h hslash =>
    rw [parseDownloadUrl_of_splits h, find?_singleton_of_notMem hslash]
    exact Option.bind_fun_none _
  | @noHost schemeText path h =>
    have hpath : Splits url schemeText ([] ++ '/' :: path) := h
    rw [parseDownloadUrl_of_path hpath List.not_mem_nil]
    exact Option.bind_fun_none _
  | @noHostBeforePort schemeText portText path h hslash hcolon =>
    have hnone (defaultPort : ℕ) : parseAuthority (':' :: portText) defaultPort = none :=
      (parseAuthority_append hcolon [] defaultPort).trans (if_pos (Or.inl rfl))
    rw [parseDownloadUrl_of_path h (by simp [hslash])]
    simp only [hnone, Option.map_none, ite_self]
    exact Option.bind_fun_none _
  | @badPort schemeText host portText path h hslash hcolon hport =>
    rw [parseDownloadUrl_of_path h hslash]
    simp only [parseAuthority_of_badPort hcolon hport, Option.map_none, ite_self]
    exact Option.bind_fun_none _

/-- A text that has a `://` is cut at the first one. -/
theorem exists_splits {url : Str} (h : contains (trim url) "://" = true) :
    ∃ schemeText remainder, Splits url schemeText remainder := by
  obtain ⟨schemeText, remainder, htrim, hfirst⟩ := exists_first (by decide) h
  exact ⟨schemeText, remainder, htrim, hfirst⟩

theorem exists_last_colon {authority : Str} (h : ':' ∈ authority) :
    ∃ host portText, authority = host ++ ':' :: portText ∧ ':' ∉ portText := by
  obtain ⟨portText, host, heq, hcolon⟩ := List.eq_append_cons_of_mem (List.mem_reverse.2 h)
  refine ⟨host.reverse, portText.reverse, ?_, by rwa [List.mem_reverse]⟩
  rw [← List.reverse_inj, heq]
  simp

theorem noAddress_of_parseDownloadUrl {url : Str} (h : parseDownloadUrl url = none) :
    NoAddress url := by
  cases hcontains : contains (trim url) "://" with
  | false => exact .noScheme hcontains
  | true =>
    obtain ⟨schemeText, remainder, hsplits⟩ := exists_splits hcontains
    by_cases hslash : '/' ∈ remainder
    · obtain ⟨authority, path, rfl, hauthority⟩ := List.eq_append_cons_of_mem hslash
      rw [parseDownloadUrl_of_path hsplits hauthority] at h
      cases hread : DownloadUrlScheme.read schemeText with
      | none => exact .otherScheme hsplits (DownloadUrlScheme.read_eq_none_iff.1 hread)
      | some scheme =>
        rw [hread, Option.bind_some] at h
        by_cases hempty : authority = []
        · subst hempty
          exact .noHost hsplits
        · rw [if_neg hempty, Option.map_eq_none_iff] at h
          by_cases hcolon : ':' ∈ authority
          · obtain ⟨host, portText, rfl, hport⟩ := exists_last_colon hcolon
            by_cases hhost : host = []
            · subst hhost
              exact .noHostBeforePort hsplits (fun hmem => hauthority (List.mem_cons_of_mem _ hmem)) hport
            · refine .badPort hsplits hauthority hport (by_contra fun hgood => ?_)
              obtain ⟨port, rfl⟩ := exists_numeral_of_not_badPort hgood
              rw [parseAuthority_numeral port hhost] at h
              cases h
          · rw [parseAuthority_of_notMem hcolon] at h
            cases h
    · exact .noPath hsplits hslash

/-! ## Addresses that are written -/

/-- A port behind a host, if there is one. -/
def portSuffix : Option (Numeral 65535) → Str
  | none => []
  | some port => ':' :: port.digits

theorem toAsciiLowercase_of_isWhitespace {c : Char} (h : isWhitespace c = true) :
    toAsciiLowercase c = c := by
  rw [toAsciiLowercase, if_neg]
  intro hupper
  rw [isAsciiUppercase_iff] at hupper
  simp only [isWhitespace, Bool.or_eq_true, Bool.and_eq_true, decide_eq_true_eq, beq_iff_eq] at h
  omega

/-- A scheme begins with a letter and has no colon. -/
theorem notMem_of_spells {scheme : DownloadUrlScheme} {schemeText : Str}
    (h : eqIgnoreAsciiCase schemeText scheme.name = true) :
    ':' ∉ schemeText ∧ ∃ c rest, schemeText = c :: rest ∧ isWhitespace c = false := by
  rw [eqIgnoreAsciiCase, beq_iff_eq] at h
  have hname : ':' ∉ scheme.name.map toAsciiLowercase ∧
      ∀ c ∈ (scheme.name.map toAsciiLowercase).head?, isWhitespace c = false := by
    cases scheme <;>
    · refine ⟨by decide, fun c hc => ?_⟩
      cases hc
      decide
  rw [← h] at hname
  refine ⟨fun hmem => hname.1 (List.mem_map_of_mem (f := toAsciiLowercase) hmem), ?_⟩
  cases schemeText with
  | nil => cases scheme <;> cases h
  | cons c rest =>
    refine ⟨c, rest, rfl, Bool.eq_false_iff.2 fun hspace => ?_⟩
    have hfirst := hname.2 (toAsciiLowercase c) rfl
    rw [toAsciiLowercase_of_isWhitespace hspace, hspace] at hfirst
    cases hfirst

/-- An address from its parts. -/
theorem parseDownloadUrl_write {scheme : DownloadUrlScheme} {schemeText host path : Str}
    (port : Option (Numeral 65535)) (hscheme : eqIgnoreAsciiCase schemeText scheme.name = true)
    (hhost : host ≠ []) (hslash : '/' ∉ host) (hcolon : ':' ∉ host)
    (hpath : ∀ c ∈ ('/' :: path).getLast?, isWhitespace c = false) :
    parseDownloadUrl (schemeText ++ ("://" ++ (host ++ portSuffix port ++ '/' :: path))) =
      some ⟨scheme, host, (port.map (·.value)).getD scheme.defaultPort, '/' :: path⟩ := by
  obtain ⟨hnotcolon, c, rest, rfl, hc⟩ := notMem_of_spells hscheme
  have hsplits : Splits (c :: rest ++ ("://" ++ (host ++ portSuffix port ++ '/' :: path))) (c :: rest)
      (host ++ portSuffix port ++ '/' :: path) := by
    refine ⟨trim_eq_self_of_ends ?_ ?_, ?_⟩
    · intro d hd
      cases hd
      exact hc
    · rw [← List.append_assoc, ← List.append_assoc, List.getLast?_append_cons]
      exact hpath
    · have hnone : find? [':', '/', '/'] (c :: rest ++ [':', '/']) = none := by
        rw [find?_append_of_notMem hnotcolon]
        rfl
      exact Option.isSome_eq_false_iff.2 (Option.isNone_iff_eq_none.2 hnone)
  have hauthority : '/' ∉ host ++ portSuffix port := by
    intro hmem
    rcases List.mem_append.1 hmem with hmem | hmem
    · exact hslash hmem
    · cases port with
      | none => cases hmem
      | some port =>
        rcases List.mem_cons.1 hmem with heq | hmem
        · exact absurd heq (by decide)
        · exact absurd (port.isAsciiDigit_of_mem hmem) (by decide)
  have hne : host ++ portSuffix port ≠ [] := fun h => hhost (List.append_eq_nil_iff.1 h).1
  rw [parseDownloadUrl_of_path hsplits hauthority, DownloadUrlScheme.read_of_spells hscheme,
    Option.bind_some, if_neg hne]
  cases port with
  | none =>
    rw [portSuffix, List.append_nil, parseAuthority_of_notMem hcolon]
    rfl
  | some port =>
    rw [portSuffix, parseAuthority_numeral port hhost]
    rfl

/-- An address is read back whatever its parts are, and every other text is no address. -/
theorem downloadUrl_codec :
    (∀ (scheme : DownloadUrlScheme) (schemeText host path : Str) (port : Option (Numeral 65535)),
      eqIgnoreAsciiCase schemeText scheme.name = true → host ≠ [] → '/' ∉ host → ':' ∉ host →
      (∀ c ∈ ('/' :: path).getLast?, isWhitespace c = false) →
        parseDownloadUrl (schemeText ++ ("://" ++ (host ++ portSuffix port ++ '/' :: path))) =
          some ⟨scheme, host, (port.map (·.value)).getD scheme.defaultPort, '/' :: path⟩) ∧
    (∀ url, contains url "://" = false → parseDownloadUrl url = none) ∧
    ∀ url, NoAddress url ↔ parseDownloadUrl url = none :=
  ⟨fun _ _ _ _ port hscheme hhost hslash hcolon hpath =>
      parseDownloadUrl_write port hscheme hhost hslash hcolon hpath,
    fun _ h => parseDownloadUrl_of_noAddress (.noScheme (contains_trim h)),
    fun _ => ⟨parseDownloadUrl_of_noAddress, noAddress_of_parseDownloadUrl⟩⟩

end EspWaveRider.Release
