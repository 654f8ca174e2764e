import EspWaveRider.CommandFields
import EspWaveRider.Cpp.ReleaseChecksum
import EspWaveRider.Firmware.FirmwareSync
import EspWaveRider.Lib.Narrowing

/-!
# The order of versions in the two firmwares

`compareSemanticVersions` of `src/main.cpp` beside `compare_semantic_versions` of the port.  Both
compare the three numbers of a version as far as their integers hold them: a number that does not
fit in 32 bits is 0 for the port, and `toInt` stops at 2147483647.

* `compareSemanticVersions_eq` — each is a comparison of narrowed numbers;
* `compares_versions` — it is the comparison of the numbers exactly if their first difference keeps its
  direction; and it is antisymmetric and transitive in any case.
-/

namespace EspWaveRider

open Text Narrowing

/-- The numbers of a version core, of any size. -/
def coreNumbers (core : Str) : List ℕ :=
  if core = [] then [] else (core.splitOn '.').map (digitsValue 0)

theorem notMem_of_isNumber {s : Str} (h : Release.IsNumber s) : '.' ∉ s :=
  fun hmem => absurd (h.2 '.' hmem) (by decide)

theorem parseDigits_of_isNumber {s : Str} (h : Release.IsNumber s) :
    parseDigits s = some (digitsValue 0 s) :=
  if_pos ⟨h.1, List.all_eq_true.2 h.2⟩

theorem coreNumbers_cons {core : Str} (h : core ≠ []) : ∃ n ns, coreNumbers core = n :: ns := by
  rw [coreNumbers, if_neg h]
  obtain ⟨part, parts, hparts⟩ := List.exists_cons_of_ne_nil (List.splitOn_ne_nil '.' core)
  exact ⟨digitsValue 0 part, parts.map (digitsValue 0), by rw [hparts, List.map_cons]⟩

/-- A text that is no release comes before the releases, which are compared by their numbers. -/
theorem order_cores {β : Type} [LinearOrder β] {f : ℕ → β} {leftCore rightCore : Str} {compared : ℤ}
    (h : leftCore ≠ [] → rightCore ≠ [] →
      compared = order ((coreNumbers leftCore).map f) ((coreNumbers rightCore).map f)) :
    (if leftCore = [] ∧ rightCore = [] then 0
      else if leftCore = [] then -1
      else if rightCore = [] then 1
      else compared) = order ((coreNumbers leftCore).map f) ((coreNumbers rightCore).map f) := by
  have hempty : coreNumbers [] = [] := rfl
  split_ifs with hboth hleft hright
  · rw [hboth.1, hboth.2, order_self]
  · obtain ⟨n, ns, hnumbers⟩ := coreNumbers_cons fun hright => hboth ⟨hleft, hright⟩
    rw [hleft, hempty, hnumbers, List.map_nil, List.map_cons, order_nil_cons]
  · obtain ⟨n, ns, hnumbers⟩ := coreNumbers_cons hleft
    rw [hright, hempty, hnumbers, List.map_nil, List.map_cons, order_cons_nil]
  · exact h hleft hright

section ThreeNumbers

variable {major minor patch : Str} (hmajor : Release.IsNumber major)
  (hminor : Release.IsNumber minor) (hpatch : Release.IsNumber patch)
include hmajor hminor hpatch

theorem splitOn_core :
    (major ++ '.' :: minor ++ '.' :: patch).splitOn '.' = [major, minor, patch] := by
  rw [List.append_assoc, List.cons_append,
    List.splitOn_append_cons_self_of_not_mem (notMem_of_isNumber hmajor),
    List.splitOn_append_cons_self_of_not_mem (notMem_of_isNumber hminor),
    List.splitOn_eq_singleton (notMem_of_isNumber hpatch)]

theorem coreNumbers_core : coreNumbers (major ++ '.' :: minor ++ '.' :: patch) =
    [digitsValue 0 major, digitsValue 0 minor, digitsValue 0 patch] := by
  have hne : major ++ '.' :: minor ++ '.' :: patch ≠ [] := by simp
  rw [coreNumbers, if_neg hne, splitOn_core hmajor hminor hpatch]
  rfl

end ThreeNumbers

/-! ## The port -/

namespace Firmware

open Release

/-- A number that does not fit counts as zero. -/
def narrowU32 (n : ℕ) : ℕ := if n ≤ u32Max then n else 0

def versionNumbers (version : Str) : List ℕ := coreNumbers (semanticVersionCore version)

theorem parseUnsigned_getD {s : Str} (h : IsNumber s) :
    (parseUnsigned u32Max s).getD 0 = narrowU32 (digitsValue 0 s) := by
  have hplus : ∀ rest, s ≠ '+' :: rest := by
    rintro rest rfl
    exact absurd (h.2 '+' (List.mem_cons_self ..)) (by decide)
  have hparse : parseUnsigned u32Max s = (some (digitsValue 0 s)).filter (· ≤ u32Max) := by
    rw [parseUnsigned, parseDigits_of_isNumber h]
    exact hplus
  rw [hparse, narrowU32]
  split_ifs with hfits
  · rw [Option.filter_some_pos (by simpa using hfits)]
    rfl
  · rw [Option.filter_some_neg (by simpa using hfits)]
    rfl

theorem fillSemanticParts_core (version : Str) (h : semanticVersionCore version ≠ []) :
    fillSemanticParts (semanticVersionCore version) = (versionNumbers version).map narrowU32 := by
  obtain ⟨major, minor, patch, hmajor, hminor, hpatch, hcore⟩ :=
    (semanticVersionCore_cases version).resolve_left h
  rw [versionNumbers, hcore, coreNumbers_core hmajor hminor hpatch, fillSemanticParts,
    splitOn_core hmajor hminor hpatch]
  simp [parseUnsigned_getD hmajor, parseUnsigned_getD hminor, parseUnsigned_getD hpatch]

theorem compareSemanticVersions_eq (left right : Str) : compareSemanticVersions left right =
    order ((versionNumbers left).map narrowU32) ((versionNumbers right).map narrowU32) := by
  refine order_cores fun hleft hright => ?_
  rw [fillSemanticParts_core left hleft, fillSemanticParts_core right hright]
  refine eq_order_of_scan rfl (fun _ _ _ _ => rfl) ?_
  rw [← fillSemanticParts_core left hleft, ← fillSemanticParts_core right hright,
    length_fillSemanticParts, length_fillSemanticParts]

end Firmware

/-! ## The C++ -/

namespace Cpp

open Release (IsNumber)

/-- `toInt` stops at the largest `int`. -/
def narrowInt (n : ℕ) : ℤ := min n 2147483647

/-- The loop over the characters of a core: the part that is read, and how many are still wanted. -/
def cutParts : ℕ → Str → Str → List Str
  | 0, _, _ => []
  | _ + 1, part, [] => [part]
  | n + 1, part, c :: core =>
    if c = '.' then part :: cutParts n [] core else cutParts (n + 1) (part ++ [c]) core

/-- The three numbers of a core. -/
def coreParts (core : Str) : List ℤ :=
  let parts := (cutParts 3 [] core).map toInt
  parts ++ List.replicate (3 - parts.length) 0

def compareParts : List ℤ → List ℤ → ℤ
  | l :: left, r :: right => if l < r then -1 else if l > r then 1 else compareParts left right
  | _, _ => 0

def compareSemanticVersions (leftVersion rightVersion : Str) : ℤ :=
  let leftCore := semanticVersionCore leftVersion
  let rightCore := semanticVersionCore rightVersion
  if leftCore = [] ∧ rightCore = [] then 0
  else if leftCore = [] then -1
  else if rightCore = [] then 1
  else compareParts (coreParts leftCore) (coreParts rightCore)

example : compareSemanticVersions "v1.10.0" "1.9.7-dirty" = 1 := by decide

def versionNumbers (version : Str) : List ℕ := coreNumbers (semanticVersionCore version)

theorem toInt_of_isNumber {s : Str} (h : IsNumber s) : toInt s = narrowInt (digitsValue 0 s) := by
  have hparse := parseDigits_of_isNumber h
  rw [toInt_of_parseDigits hparse, magnitude_of_parseDigits hparse, narrowInt]
  omega

theorem cutParts_append {n : ℕ} {digits : Str} (h : '.' ∉ digits) (part rest : Str) :
    cutParts (n + 1) part (digits ++ '.' :: rest) = (part ++ digits) :: cutParts n [] rest := by
  induction digits generalizing part with
  | nil => rw [List.nil_append, cutParts, if_pos rfl, List.append_nil]
  | cons c digits ih =>
    have hc : c ≠ '.' := fun hc => h (hc ▸ List.mem_cons_self ..)
    rw [List.cons_append, cutParts, if_neg hc, ih fun hmem => h (List.mem_cons_of_mem _ hmem),
      List.append_assoc, List.singleton_append]

theorem cutParts_last {n : ℕ} {digits : Str} (h : '.' ∉ digits) (part : Str) :
    cutParts (n + 1) part digits = [part ++ digits] := by
  induction digits generalizing part with
  | nil => rw [cutParts, List.append_nil]
  | cons c digits ih =>
    have hc : c ≠ '.' := fun hc => h (hc ▸ List.mem_cons_self ..)
    rw [cutParts, if_neg hc, ih fun hmem => h (List.mem_cons_of_mem _ hmem),
      List.append_assoc, List.singleton_append]

theorem semanticVersionCore_cases (version : Str) : semanticVersionCore version = [] ∨
    ∃ major minor patch, IsNumber major ∧ IsNumber minor ∧ IsNumber patch ∧
      semanticVersionCore version = major ++ '.' :: minor ++ '.' :: patch :=
  Release.threeNumbers_cases rfl

theorem coreParts_core (version : Str) (h : semanticVersionCore version ≠ []) :
    coreParts (semanticVersionCore version) = (versionNumbers version).map narrowInt := by
  obtain ⟨major, minor, patch, hmajor, hminor, hpatch, hcore⟩ :=
    (semanticVersionCore_cases version).resolve_left h
  have hparts : cutParts 3 [] (major ++ '.' :: minor ++ '.' :: patch) = [major, minor, patch] := by
    rw [List.append_assoc, List.cons_append, cutParts_append (notMem_of_isNumber hmajor),
      cutParts_append (notMem_of_isNumber hminor), cutParts_last (notMem_of_isNumber hpatch)]
    rfl
  rw [versionNumbers, hcore, coreNumbers_core hmajor hminor hpatch, coreParts, hparts]
  simp [toInt_of_isNumber hmajor, toInt_of_isNumber hminor, toInt_of_isNumber hpatch]

theorem length_cutParts (n : ℕ) (part core : Str) : (cutParts n part core).length ≤ n := by
  induction core generalizing n part with
  | nil => cases n <;> simp [cutParts]
  | cons c core ih =>
    cases n with
    | zero => exact le_rfl
    | succ n =>
      rw [cutParts]
      split_ifs
      · exact Nat.succ_le_succ (ih n [])
      · exact ih (n + 1) _

theorem length_coreParts (core : Str) : (coreParts core).length = 3 := by
  have hle := length_cutParts 3 [] core
  rw [coreParts, List.length_append, List.length_replicate, List.length_map]
  omega

theorem compareSemanticVersions_eq (left right : Str) : compareSemanticVersions left right =
    order ((versionNumbers left).map narrowInt) ((versionNumbers right).map narrowInt) := by
  refine order_cores fun hleft hright => ?_
  rw [coreParts_core left hleft, coreParts_core right hright]
  refine eq_order_of_scan rfl (fun _ _ _ _ => rfl) ?_
  rw [← coreParts_core left hleft, ← coreParts_core right hright, length_coreParts,
    length_coreParts]

end Cpp

/-! ## The order -/

section Compared

variable {β : Type} [LinearOrder β]

/-- How a comparison sees two versions that have these numbers: it narrows them, is the
numeric one exactly if their first difference keeps its direction, so when none is larger than
`max`, and is a preorder in any case. -/
structure Compares (compare : Str → Str → ℤ) (numbers : Str → List ℕ) (narrow : ℕ → β) (max : ℕ)
    (left right : Str) : Prop where
  narrowed : compare left right = order ((numbers left).map narrow) ((numbers right).map narrow)
  numeric : compare left right = order (numbers left) (numbers right) ↔
    Kept narrow (numbers left) (numbers right)
  fitting : (∀ n ∈ numbers left, n ≤ max) → (∀ n ∈ numbers right, n ≤ max) →
    Kept narrow (numbers left) (numbers right)
  antisymm : compare right left = -compare left right
  trans : ∀ other, compare left right ≤ 0 → compare right other ≤ 0 → compare left other ≤ 0

theorem compares_of_narrowed {compare : Str → Str → ℤ} {numbers : Str → List ℕ} {narrow : ℕ → β}
    {max : ℕ} (hnarrow : StrictMonoOn narrow {n | n ≤ max})
    (h : ∀ l r, compare l r = order ((numbers l).map narrow) ((numbers r).map narrow))
    (left right : Str) : Compares compare numbers narrow max left right := by
  refine ⟨h left right, ?_, fun hleft hright => kept_of_strict hnarrow hleft hright, ?_, ?_⟩
  · rw [h, order_map_iff]
  · rw [h, h, order_swap]
  · intro other hleft hright
    rw [h] at hleft hright ⊢
    exact order_trans hleft hright

end Compared

/-- The comparisons of both firmwares, on any two texts. -/
theorem compares_versions (left right : Str) :
    Compares Firmware.compareSemanticVersions Firmware.versionNumbers Firmware.narrowU32
      Firmware.u32Max left right ∧
    Compares Cpp.compareSemanticVersions Cpp.versionNumbers Cpp.narrowInt 2147483647 left right := by
  constructor
  · refine compares_of_narrowed ?_ Firmware.compareSemanticVersions_eq left right
    intro n hn m hm hlt
    have hn' : n ≤ Firmware.u32Max := hn
    have hm' : m ≤ Firmware.u32Max := hm
    rwa [Firmware.narrowU32, Firmware.narrowU32, if_pos hn', if_pos hm']
  · refine compares_of_narrowed ?_ Cpp.compareSemanticVersions_eq left right
    intro n hn m hm hlt
    have hn' : n ≤ 2147483647 := hn
    have hm' : m ≤ 2147483647 := hm
    simp only [Cpp.narrowInt]
    omega

/-- A larger major number compares as older: for the port when it does not fit, for the C++ when
both stop at the same number. -/
theorem larger_compares_older :
    ¬ (∀ left right, Firmware.compareSemanticVersions left right =
      order (Firmware.versionNumbers left) (Firmware.versionNumbers right)) ∧
    ¬ (∀ left right, Cpp.compareSemanticVersions left right =
      order (Cpp.versionNumbers left) (Cpp.versionNumbers right)) := by
  constructor
  · intro hall
    exact absurd (hall "4294967296.0.0" "1.0.0") (by decide +kernel)
  · intro hall
    exact absurd (hall "2147483648.0.0" "2147483647.1.0") (by decide +kernel)

end EspWaveRider
