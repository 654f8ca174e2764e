import EspWaveRider.Cpp.Text
import EspWaveRider.Firmware.State
import EspWaveRider.Lib.Groups

/-!
# Host names

`sanitize_hostname` of the port and `sanitizeHostname` of the C++ firmware make a DNS label of any
text: they join its groups of letters and digits by single dashes and cut the result at 31 bytes.

* `foldl_pushHostnameChar` — the loop joins the groups;
* `sanitizeHostname_eq` — the whole function;
* `validLabel_iff` — the result is a label, and stays as it is, unless the cut leaves a dash.
-/

namespace EspWaveRider.HostNames

open Text Groups Firmware

/-! ## Groups -/

def isLetter (c : Char) : Bool := isAsciiLowercase c || isAsciiDigit c || isAsciiUppercase c

def isDash (c : Char) : Bool := c = '-' || c = '_'

/-- The letters and digits of a piece, in lower case. -/
def letters (piece : Str) : Str := (piece.filter isLetter).map toAsciiLowercase

/-- What stands between dashes and underscores, where there are letters or digits. -/
def groups (value : Str) : List Str := ((value.splitOnP isDash).map letters).filter (· ≠ [])

example : groups "__Living Room_-A7" = ["livingroom", "a7"].map String.toList := by decide

theorem ne_dash_of_isLetter {c : Char} (h : isLetter c) : toAsciiLowercase c ≠ '-' := by
  intro hdash
  by_cases hupper : isAsciiUppercase c = true
  · have hlower := isAsciiLowercase_toAsciiLowercase hupper
    rw [hdash] at hlower
    exact absurd hlower (by decide)
  · rw [toAsciiLowercase, if_neg hupper] at hdash
    rw [hdash] at h
    exact absurd h (by decide)

theorem dash_notMem_letters (piece : Str) : '-' ∉ letters piece := by
  intro h
  obtain ⟨c, hc, hdash⟩ := List.mem_map.1 h
  exact ne_dash_of_isLetter (List.mem_filter.1 hc).2 hdash

theorem proper_groups (value : Str) : Proper '-' (groups value) := by
  intro group hgroup
  obtain ⟨hmem, hne⟩ := List.mem_filter.1 hgroup
  obtain ⟨piece, -, rfl⟩ := List.mem_map.1 hmem
  exact ⟨by simpa using hne, dash_notMem_letters piece⟩

/-- A text without dashes is one piece. -/
theorem groups_of_forall {piece : Str} (h : ∀ c ∈ piece, isDash c = false) :
    groups piece = if letters piece = [] then [] else [letters piece] := by
  rw [groups, List.splitOnP_eq_singleton h]
  by_cases hnil : letters piece = [] <;> simp [hnil]

theorem join_groups_of_forall {piece : Str} (h : ∀ c ∈ piece, isDash c = false) :
    ['-'].intercalate (groups piece) = letters piece := by
  rw [groups_of_forall h]
  by_cases hnil : letters piece = []
  · rw [if_pos hnil, hnil]
    rfl
  · rw [if_neg hnil, List.intercalate_singleton]

/-- A text up to its first dash. -/
theorem exists_first_dash {value : Str} (h : ∃ c ∈ value, isDash c = true) :
    ∃ piece dash rest, value = piece ++ dash :: rest ∧ isDash dash = true ∧
      ∀ c ∈ piece, isDash c = false := by
  obtain ⟨dash, hfind⟩ := Option.isSome_iff_exists.1 (List.find?_isSome.2 h)
  obtain ⟨hdash, piece, rest, happend, hpiece⟩ := List.find?_eq_some_iff_append.1 hfind
  exact ⟨piece, dash, rest, happend, hdash, fun c hc => by simpa using hpiece c hc⟩

theorem groups_append_cons {piece : Str} (h : ∀ c ∈ piece, isDash c = false) {dash : Char}
    (hdash : isDash dash = true) (rest : Str) :
    groups (piece ++ dash :: rest) =
      (if letters piece = [] then [] else [letters piece]) ++ groups rest := by
  rw [groups, List.splitOnP_append_cons_of_forall_mem h dash hdash, List.map_cons, groups]
  by_cases hnil : letters piece = [] <;> simp [hnil]

/-! ## The loop -/

/-- Letters and digits are added in lower case, everything else but dashes is left out. -/
theorem foldl_of_forall {piece : Str} (h : ∀ c ∈ piece, isDash c = false) (hostname : Str) :
    piece.foldl pushHostnameChar hostname = hostname ++ letters piece := by
  induction piece generalizing hostname with
  | nil => exact (List.append_nil hostname).symm
  | cons c piece ih =>
    have hrest := ih fun d hd => h d (List.mem_cons_of_mem _ hd)
    have hdash : ¬ (c = '-' ∨ c = '_') := by
      have hc := h c (List.mem_cons_self ..)
      simpa [isDash] using hc
    rw [List.foldl_cons, hrest, pushHostnameChar]
    split
    · rename_i hlower
      have hletter : isLetter c = true := by rw [isLetter, hlower, Bool.true_or]
      have hsame : toAsciiLowercase c = c := by
        rw [toAsciiLowercase, if_neg]
        intro hupper
        rw [Bool.or_eq_true, isAsciiLowercase_iff, isAsciiDigit_iff] at hlower
        rw [isAsciiUppercase_iff] at hupper
        omega
      simp [letters, hletter, hsame]
    · split
      · rename_i hupper
        have hletter : isLetter c = true := by rw [isLetter, hupper, Bool.or_true]
        simp [letters, hletter]
      · rename_i hlower hupper
        have hother : isLetter c = false := by
          rw [isLetter, Bool.or_eq_false_iff]
          exact ⟨by simpa using hlower, by simpa using hupper⟩
        rw [if_neg fun hc => hdash hc.1]
        simp [letters, hother]

theorem pushHostnameChar_dash {c : Char} (hc : isDash c = true) (hostname : Str) :
    pushHostnameChar hostname c =
      if hostname = [] ∨ hostname.getLast? = some '-' then hostname else hostname ++ ['-'] := by
  have hcases : c = '-' ∨ c = '_' := by simpa [isDash] using hc
  have hlower : (isAsciiLowercase c || isAsciiDigit c) = false := by rcases hcases with rfl | rfl <;> rfl
  have hupper : isAsciiUppercase c = false := by rcases hcases with rfl | rfl <;> rfl
  rw [pushHostnameChar, hlower, hupper]
  by_cases hopen : hostname = [] ∨ hostname.getLast? = some '-'
  · rw [if_pos hopen, if_neg (by decide), if_neg (by decide), if_neg]
    rintro ⟨-, hne, hlast⟩
    exact hopen.elim hne hlast
  · rw [if_neg hopen, if_neg (by decide), if_neg (by decide), if_pos]
    exact ⟨hcases, not_or.1 hopen⟩

/-- Letters close the place for a dash. -/
theorem not_open_append_letters (hostname : Str) {piece : Str} (hnil : letters piece ≠ []) :
    ¬ (hostname ++ letters piece = [] ∨ (hostname ++ letters piece).getLast? = some '-') := by
  refine not_or_intro (List.append_ne_nil_of_right_ne_nil _ hnil) ?_
  rw [List.getLast?_append_of_ne_nil _ hnil]
  exact fun hlast => dash_notMem_letters piece (List.mem_of_getLast? hlast)

/-- From the beginning or behind a dash: the groups are joined, with a dash behind them if the
text goes on. -/
theorem foldl_pushHostnameChar (value : Str) {hostname : Str}
    (h : hostname = [] ∨ hostname.getLast? = some '-') :
    ∃ tail, value.foldl pushHostnameChar hostname = hostname ++ (['-'].intercalate (groups value) ++ tail) ∧
      (tail = [] ∨ (tail = ['-'] ∧ groups value ≠ [])) := by
  induction hlength : value.length using Nat.strong_induction_on generalizing value hostname with
  | h n ih =>
    by_cases hdashes : ∃ c ∈ value, isDash c = true
    · obtain ⟨piece, dash, rest, rfl, hdash, hpiece⟩ := exists_first_dash hdashes
      have hshorter : rest.length < n := by
        rw [← hlength, List.length_append, List.length_cons]
        omega
      rw [List.foldl_append, List.foldl_cons, foldl_of_forall hpiece, pushHostnameChar_dash hdash,
        groups_append_cons hpiece hdash]
      by_cases hnil : letters piece = []
      · rw [hnil, List.append_nil, if_pos h, if_pos rfl, List.nil_append]
        exact ih _ hshorter rest h rfl
      · rw [if_neg (not_open_append_letters hostname hnil), if_neg hnil, List.singleton_append,
          join_cons]
        obtain ⟨tail, hfold, htail⟩ := ih _ hshorter rest
          (Or.inr (List.getLast?_concat (l := hostname ++ letters piece))) rfl
        rw [hfold]
        by_cases hrest : groups rest = []
        · have htail : tail = [] := htail.resolve_right fun hmore => hmore.2 hrest
          refine ⟨['-'], ?_, Or.inr ⟨rfl, List.cons_ne_nil _ _⟩⟩
          rw [htail, hrest, if_pos rfl]
          simp
        · refine ⟨tail, ?_, htail.imp_right fun hmore => ⟨hmore.1, List.cons_ne_nil _ _⟩⟩
          rw [if_neg hrest]
          simp
    · have hpiece : ∀ c ∈ value, isDash c = false := by
        intro c hc
        exact Bool.eq_false_iff.2 fun hdash => hdashes ⟨c, hc, hdash⟩
      refine ⟨[], ?_, Or.inl rfl⟩
      rw [foldl_of_forall hpiece, join_groups_of_forall hpiece, List.append_nil]

/-! ## The result -/

/-- The text that is cut. -/
def fullLabel (value : Str) : Str :=
  if groups value = [] then "lb-mmwave" else ['-'].intercalate (groups value)

/-- Nothing is trimmed but a dash behind the groups. -/
theorem trim_join {joined tail : Str} (hhead : joined.head? ≠ some '-') (hlast : joined.getLast? ≠ some '-')
    (htail : tail = [] ∨ (tail = ['-'] ∧ joined ≠ [])) :
    ((joined ++ tail).dropWhile (· == '-')).rdropWhile (· == '-') = joined := by
  have hkeep : joined.rdropWhile (· == '-') = joined := by
    rw [List.rdropWhile_eq_self_iff]
    intro hne
    rw [List.getLast?_eq_some_getLast hne] at hlast
    simpa using hlast
  have hdrop : (joined ++ tail).dropWhile (· == '-') = joined ++ tail := by
    cases joined with
    | nil =>
      have hnone : tail = [] := htail.resolve_right fun h => h.2 rfl
      rw [hnone]
      rfl
    | cons c joined =>
      have hc : c ≠ '-' := fun hdash => hhead (congrArg some hdash)
      rw [List.cons_append, List.dropWhile_cons_of_neg (by simpa using hc)]
  rw [hdrop]
  rcases htail with rfl | ⟨rfl, -⟩
  · rwa [List.append_nil]
  · rw [List.rdropWhile_concat_pos _ _ _ (by simp), hkeep]

theorem sanitizeHostname_eq (value : Str) : sanitizeHostname value = (fullLabel value).take 31 := by
  obtain ⟨tail, hfold, htail⟩ := foldl_pushHostnameChar value (Or.inl rfl)
  have hproper := proper_groups value
  have htail : tail = [] ∨ (tail = ['-'] ∧ ['-'].intercalate (groups value) ≠ []) :=
    htail.imp_right fun h => ⟨h.1, join_ne_nil hproper h.2⟩
  rw [List.nil_append] at hfold
  rw [sanitizeHostname, hfold, trim_join (head?_join hproper) (getLast?_join hproper) htail, fullLabel]
  by_cases hnil : groups value = []
  · rw [if_pos hnil, hnil, if_pos List.intercalate_nil]
  · rw [if_neg hnil, if_neg (join_ne_nil hproper hnil)]

/-! ## Labels -/

/-- A DNS label. -/
structure ValidLabel (s : Str) : Prop where
  nonempty : s ≠ []
  length_le : s.length ≤ 31
  chars : ∀ c ∈ s, isAsciiLowercase c = true ∨ isAsciiDigit c = true ∨ c = '-'
  head : s.head? ≠ some '-'
  last : s.getLast? ≠ some '-'
  single : Single '-' s

/-- A group of the text, and all before it, end with a dash as the 31st character. -/
def CutAtDash (value : Str) : Prop :=
  ∃ front back, groups value = front ++ back ∧ front ≠ [] ∧ back ≠ [] ∧ occupied front = 31

theorem fullLabel_ne_nil (value : Str) : fullLabel value ≠ [] := by
  rw [fullLabel]
  split
  · decide
  · rename_i hne
    exact join_ne_nil (proper_groups value) hne

theorem head?_fullLabel (value : Str) : (fullLabel value).head? ≠ some '-' := by
  rw [fullLabel]
  split
  · decide
  · exact head?_join (proper_groups value)

theorem getLast?_fullLabel (value : Str) : (fullLabel value).getLast? ≠ some '-' := by
  rw [fullLabel]
  split
  · decide
  · exact getLast?_join (proper_groups value)

theorem single_fullLabel (value : Str) : Single '-' (fullLabel value) := by
  rw [fullLabel]
  split
  · rw [Single]
    decide
  · exact isChain_join (proper_groups value)

/-- The cut leaves a dash exactly behind such a group. -/
theorem getLast?_take_fullLabel_iff (value : Str) :
    ((fullLabel value).take 31).getLast? = some '-' ↔ CutAtDash value := by
  have hlast := getLast?_fullLabel value
  rw [List.getLast?_take, if_neg (by decide)]
  have hor : (fullLabel value)[30]?.or (fullLabel value).getLast? = some '-' ↔
      (fullLabel value)[30]? = some '-' := by
    cases hget : (fullLabel value)[30]? with
    | none => exact iff_of_false hlast (by simp)
    | some c => exact Iff.rfl
  refine hor.trans ?_
  rw [fullLabel]
  split
  · rename_i hnil
    refine iff_of_false (by decide) ?_
    rintro ⟨front, back, hgroups, hfront, -⟩
    rw [hnil] at hgroups
    exact hfront (List.append_eq_nil_iff.1 hgroups.symm).1
  · exact getElem?_join_iff (proper_groups value) 30

theorem foldl_of_valid {s hostname : Str}
    (hchars : ∀ c ∈ s, isAsciiLowercase c = true ∨ isAsciiDigit c = true ∨ c = '-')
    (hhead : (hostname ++ s).head? ≠ some '-') (hsingle : Single '-' (hostname ++ s)) :
    s.foldl pushHostnameChar hostname = hostname ++ s := by
  induction s generalizing hostname with
  | nil => exact (List.append_nil hostname).symm
  | cons c s ih =>
    have hpush : pushHostnameChar hostname c = hostname ++ [c] := by
      rcases hchars c (List.mem_cons_self ..) with hlower | hdigit | rfl
      · rw [pushHostnameChar, hlower]
        rfl
      · rw [pushHostnameChar, hdigit, Bool.or_true]
        rfl
      · have hopen : ¬ (hostname = [] ∨ hostname.getLast? = some '-') := by
          rintro (rfl | hlast)
          · exact hhead rfl
          · exact (List.isChain_append.1 hsingle).2.2 '-' hlast '-' rfl ⟨rfl, rfl⟩
        rw [pushHostnameChar_dash rfl, if_neg hopen]
    have hshift : hostname ++ c :: s = (hostname ++ [c]) ++ s := by simp
    rw [hshift] at hhead hsingle
    rw [List.foldl_cons, hpush, hshift]
    exact ih (fun d hd => hchars d (List.mem_cons_of_mem _ hd)) hhead hsingle

/-- A label is left alone. -/
theorem sanitizeHostname_of_valid {s : Str} (h : ValidLabel s) : sanitizeHostname s = s := by
  have hfold : s.foldl pushHostnameChar [] = s := foldl_of_valid h.chars h.head h.single
  have htrim := trim_join h.head h.last (Or.inl rfl)
  rw [List.append_nil] at htrim
  rw [sanitizeHostname, hfold, htrim, if_neg h.nonempty, List.take_of_length_le h.length_le]

theorem validLabel_sanitizeHostname {value : Str} (h : ¬ CutAtDash value) :
    ValidLabel (sanitizeHostname value) where
  nonempty := by
    rw [sanitizeHostname_eq, Ne, List.take_eq_nil_iff]
    exact not_or_intro (by decide) (fullLabel_ne_nil value)
  length_le := by
    rw [sanitizeHostname_eq]
    exact List.length_take_le _ _
  chars := by
    intro c hc
    have hchar := forall_sanitizeHostname value c hc
    simpa [isHostnameChar, or_assoc] using hchar
  head := by
    rw [sanitizeHostname_eq, List.head?_take, if_neg (by decide)]
    exact head?_fullLabel value
  last := by
    rw [sanitizeHostname_eq]
    exact mt (getLast?_take_fullLabel_iff value).1 h
  single := by
    rw [sanitizeHostname_eq]
    exact (single_fullLabel value).take 31

/-- Both firmwares make the same name of a text. -/
theorem cpp_sanitizeHostname (value : Str) : Cpp.sanitizeHostname value = sanitizeHostname value := rfl

/-- The name is a label, and sanitizing it again changes nothing, unless the cut leaves a dash. -/
theorem validLabel_iff (value : Str) :
    (ValidLabel (Firmware.sanitizeHostname value) ∧
      Cpp.sanitizeHostname value = Firmware.sanitizeHostname value ∧
      Firmware.sanitizeHostname (Firmware.sanitizeHostname value) = Firmware.sanitizeHostname value ∧
      Cpp.sanitizeHostname (Cpp.sanitizeHostname value) = Cpp.sanitizeHostname value) ↔
    ¬ CutAtDash value := by
  constructor
  · rintro ⟨hvalid, -⟩ hcut
    have hlast := hvalid.last
    rw [sanitizeHostname_eq] at hlast
    exact hlast ((getLast?_take_fullLabel_iff value).2 hcut)
  · intro hcut
    have hvalid := validLabel_sanitizeHostname hcut
    have hidem := sanitizeHostname_of_valid hvalid
    refine ⟨hvalid, cpp_sanitizeHostname value, hidem, ?_⟩
    rw [cpp_sanitizeHostname, cpp_sanitizeHostname]
    exact hidem

/-- Thirty letters, a dash and another letter. -/
theorem label_ends_in_dash :
    sanitizeHostname "livingroomceilingsensornorthxx-2" = ("livingroomceilingsensornorthxx-" : Str) ∧
      Cpp.sanitizeHostname "livingroomceilingsensornorthxx-2" = ("livingroomceilingsensornorthxx-" : Str) ∧
      sanitizeHostname (sanitizeHostname "livingroomceilingsensornorthxx-2") =
        ("livingroomceilingsensornorthxx" : Str) ∧
      ¬ ValidLabel (sanitizeHostname "livingroomceilingsensornorthxx-2") := by
  have hcut : sanitizeHostname "livingroomceilingsensornorthxx-2" =
      ("livingroomceilingsensornorthxx-" : Str) := by decide +kernel
  refine ⟨hcut, hcut, by decide +kernel, ?_⟩
  intro hvalid
  have hlast := hvalid.last
  rw [hcut] at hlast
  exact hlast (by decide)

end EspWaveRider.HostNames
