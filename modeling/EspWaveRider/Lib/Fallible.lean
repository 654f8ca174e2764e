import Mathlib

/-!
# Fallible operations on a state

An operation that may fail and keeps what it did to the state when it does
(`EStateM`).  `Ends f s Q F` says of a run of `f` from `s`: it returns and `Q`
holds of value and state, or it fails and `F` holds.  With `F` true this is a
partial statement, with `F` false it says that `f` cannot fail; proving it for
every `F` gives both.

* `Ends.bind` — one operation after the other;
* `Ends.of_ok`, `Ends.exists_ok` — the two readings;
* `Mirrors.bind`, `Mirrors.ends` — an operation that does on other values what another one does;
* `Raises` — what the errors of an operation have in common.
-/

namespace Fallible

variable {ε σ α β : Type}

/-- The run from `s` returns with `Q`, or fails and `F` holds. -/
def Ends (f : EStateM ε σ α) (s : σ) (Q : α → σ → Prop) (F : Prop) : Prop :=
  match f s with
  | .ok a s' => Q a s'
  | .error _ _ => F

variable {f : EStateM ε σ α} {g : α → EStateM ε σ β} {s : σ} {Q Q' : α → σ → Prop}
  {R : β → σ → Prop} {F : Prop}

theorem Ends.pure {a : α} (h : Q a s) : Ends (Pure.pure a : EStateM ε σ α) s Q F := h

theorem Ends.bind (hf : Ends f s Q F) (hg : ∀ a s', Q a s' → Ends (g a) s' R F) :
    Ends (f >>= g) s R F := by
  unfold Ends at hf
  show Ends (EStateM.bind f g) s R F
  unfold Ends EStateM.bind
  cases h : f s with
  | ok a s' =>
    rw [h] at hf
    exact hg a s' hf
  | error e s' =>
    rw [h] at hf
    exact hf

theorem Ends.mono (hf : Ends f s Q F) (h : ∀ a s', Q a s' → Q' a s') : Ends f s Q' F := by
  unfold Ends at hf ⊢
  cases hrun : f s with
  | ok a s' =>
    rw [hrun] at hf
    exact h a s' hf
  | error e s' =>
    rw [hrun] at hf
    exact hf

theorem Ends.modified {u : σ → σ} {P : Unit → σ → Prop} (h : P () (u s)) :
    Ends (modify u : EStateM ε σ Unit) s P F := h

/-- A run that returned satisfies the condition. -/
theorem Ends.of_ok {a : α} {s' : σ} (h : Ends f s Q True) (hrun : f s = .ok a s') : Q a s' := by
  unfold Ends at h
  rw [hrun] at h
  exact h

/-- A run that cannot fail returns. -/
theorem Ends.exists_ok (h : Ends f s Q False) : ∃ a s', f s = .ok a s' ∧ Q a s' := by
  unfold Ends at h
  cases hrun : f s with
  | ok a s' =>
    rw [hrun] at h
    exact ⟨a, s', rfl, h⟩
  | error e s' =>
    rw [hrun] at h
    exact h.elim

/-- What holds when the operation returns may be shown apart from whether it does. -/
theorem Ends.and (hf : Ends f s Q F) (hf' : Ends f s Q' True) :
    Ends f s (fun a s' => Q a s' ∧ Q' a s') F := by
  unfold Ends at hf hf' ⊢
  cases hrun : f s with
  | ok a s' =>
    rw [hrun] at hf hf'
    exact ⟨hf, hf'⟩
  | error e s' =>
    rw [hrun] at hf
    exact hf

/-- A loop over a list: the invariant speaks of the elements that were visited. -/
theorem Ends.foldlM {g : β → α → EStateM ε σ β} {I : List α → β → σ → Prop} {all : List α}
    (hpass : ∀ done a later b s, done ++ a :: later = all → I done b s →
      Ends (g b a) s (fun b' s' => I (done ++ [a]) b' s') F)
    (rest : List α) {done : List α} {b : β} {s : σ} (hall : done ++ rest = all)
    (h : I done b s) : Ends (rest.foldlM g b) s (fun b' s' => I all b' s') F := by
  induction rest generalizing done b s with
  | nil =>
    rw [List.append_nil] at hall
    exact Ends.pure (hall ▸ h)
  | cons a rest ih =>
    rw [List.foldlM_cons]
    refine Ends.bind (hpass done a rest b s hall h) fun b' s' h' => ?_
    exact ih (by rw [List.append_assoc, List.singleton_append, hall]) h'

/-! ## One operation for another -/

/-- From `s` on, `f'` does what `f` does, its values seen through `h`. -/
def Mirrors {α' : Type} (h : α → α') (f' : EStateM ε σ α') (f : EStateM ε σ α) (s : σ) : Prop :=
  f' s = (h <$> f) s

variable {α' β' : Type} {h : α → α'} {k : β → β'} {f' : EStateM ε σ α'} {g' : α' → EStateM ε σ β'}

theorem Mirrors.bind (hf : Mirrors h f' f s) (hends : Ends f s Q True)
    (hg : ∀ a s', Q a s' → Mirrors k (g' (h a)) (g a) s') :
    Mirrors k (f' >>= g') (f >>= g) s := by
  unfold Mirrors Ends at *
  rw [map_bind]
  show EStateM.bind f' g' s = EStateM.bind f (fun a => k <$> g a) s
  change f' s = EStateM.map h f s at hf
  rw [EStateM.bind, EStateM.bind, hf, EStateM.map]
  cases hrun : f s with
  | ok a s' =>
    rw [hrun] at hends
    exact hg a s' hends
  | error e s' => rfl

theorem Mirrors.refl : Mirrors id f f s := by
  unfold Mirrors
  rw [id_map]

theorem Mirrors.foldlM {γ : Type} {g : β → γ → EStateM ε σ β} {g' : β' → γ → EStateM ε σ β'}
    {I : β → σ → Prop}
    (hmirrors : ∀ b c s, I b s → Mirrors k (g' (k b) c) (g b c) s)
    (hkeeps : ∀ b c s, I b s → Ends (g b c) s I True) (cs : List γ) {b : β} {s : σ}
    (hb : I b s) : Mirrors k (cs.foldlM g' (k b)) (cs.foldlM g b) s := by
  induction cs generalizing b s with
  | nil => rfl
  | cons c cs ih =>
    rw [List.foldlM_cons, List.foldlM_cons]
    exact Mirrors.bind (hmirrors b c s hb) (hkeeps b c s hb) fun b' s' hb' => ih hb'

/-- A run that mirrors another ends where it ends. -/
theorem Mirrors.ends (hf : Mirrors h f' f s) (hends : Ends f s (fun a s' => Q' a s') F) :
    Ends f' s (fun a' s' => ∃ a, a' = h a ∧ Q' a s') F := by
  unfold Mirrors at hf
  change f' s = EStateM.map h f s at hf
  unfold Ends at hends ⊢
  rw [hf, EStateM.map]
  cases hrun : f s with
  | ok a s' =>
    rw [hrun] at hends
    exact ⟨a, rfl, hends⟩
  | error e s' =>
    rw [hrun] at hends
    exact hends

/-! ## Errors -/

/-- Every error the operation ends with satisfies `P`. -/
def Raises (f : EStateM ε σ α) (P : ε → Prop) : Prop := ∀ s e s', f s = .error e s' → P e

variable {P : ε → Prop}

theorem Raises.pure (a : α) : Raises (Pure.pure a : EStateM ε σ α) P := by
  rintro s e s' ⟨⟩

theorem Raises.throw {e : ε} (h : P e) : Raises (throw e : EStateM ε σ α) P := by
  rintro s e s' ⟨⟩
  exact h

theorem Raises.get : Raises (get : EStateM ε σ σ) P := by
  rintro s e s' ⟨⟩

theorem Raises.modify (u : σ → σ) : Raises (modify u : EStateM ε σ Unit) P := by
  rintro s e s' ⟨⟩

theorem Raises.bind (hf : Raises f P) (hg : ∀ a, Raises (g a) P) : Raises (f >>= g) P := by
  intro s e s' h
  change EStateM.bind f g s = .error e s' at h
  rw [EStateM.bind] at h
  cases hrun : f s with
  | ok a t =>
    rw [hrun] at h
    exact hg a t e s' h
  | error e' t =>
    rw [hrun] at h
    cases h
    exact hf s e s' hrun

end Fallible
