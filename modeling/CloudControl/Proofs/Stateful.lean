import CloudControl.Proofs.Except

/-!
# Computations with a state and errors

A computation runs from a state, and ends in a state with a value or an error. `Ensures` says what
holds at its end, with a condition of its own for the states in which it fails, and `Keeps` is the
case of one condition throughout.
-/

namespace CloudControl

variable {ε σ α β : Type} {P P' : σ → Prop} {Q : α → σ → Prop} {R : β → σ → Prop} {E : σ → Prop}

/-- One computation after another, from a state. -/
theorem run_bind (a : ExceptT ε (StateM σ) α) (f : α → ExceptT ε (StateM σ) β) (s : σ) :
    (a >>= f).run s = match a.run s with
      | (.ok x, next) => (f x).run next
      | (.error e, next) => (.error e, next) := by
  unfold ExceptT.run
  simp only [bind, ExceptT.bind, ExceptT.mk, StateT.bind, ExceptT.bindCont]
  rcases a s with ⟨x | e, next⟩ <;> rfl

/-- From a state with a condition, a computation ends in a value and a state that go together, or it
fails in a state with another condition. -/
def Ensures (P : σ → Prop) (a : ExceptT ε (StateM σ) α) (Q : α → σ → Prop) (E : σ → Prop) : Prop :=
  ∀ s, P s → match a.run s with
    | (.ok x, next) => Q x next
    | (.error _, next) => E next

namespace Ensures

/-- An error, which ends the computation. -/
theorem throw (h : ∀ s, P s → E s) (e : ε) :
    Ensures P (MonadExcept.throw e : ExceptT ε (StateM σ) α) Q E :=
  h

/-- What stands behind an error is not reached. -/
theorem throw_bind (h : ∀ s, P s → E s) (e : ε) (f : α → ExceptT ε (StateM σ) β) :
    Ensures P (MonadExcept.throw e >>= f) R E :=
  h

/-- One computation after another. -/
theorem bind {a : ExceptT ε (StateM σ) α} {f : α → ExceptT ε (StateM σ) β} (ha : Ensures P a Q E)
    (hf : ∀ x, Ensures (Q x) (f x) R E) : Ensures P (a >>= f) R E := by
  intro s hs
  have hnext := ha s hs
  rw [run_bind]
  rcases ha' : a.run s with ⟨e | x, next⟩
  · rwa [ha'] at hnext
  · rw [ha'] at hnext
    exact hf x next hnext

/-- A fact at the start that is not about the state. -/
theorem of_fact {a : ExceptT ε (StateM σ) α} {fact : Prop} (h : fact → Ensures P a Q E) :
    Ensures (fun s ↦ P s ∧ fact) a Q E :=
  fun s hs ↦ h hs.2 s hs.1

/-- Less is asked at the end, and more at the start. -/
theorem imp {a : ExceptT ε (StateM σ) α} {Q' : α → σ → Prop} {E' : σ → Prop}
    (ha : Ensures P a Q E) (hP : ∀ s, P' s → P s) (hQ : ∀ x s, Q x s → Q' x s)
    (hE : ∀ s, E s → E' s) : Ensures P' a Q' E' := by
  intro s hs
  have hend := ha s (hP s hs)
  rcases ha' : a.run s with ⟨e | x, next⟩
  · rw [ha'] at hend
    exact hE next hend
  · rw [ha'] at hend
    exact hQ x next hend

end Ensures

/-- A computation keeps a condition on the state, also when it fails. -/
def Keeps (P : σ → Prop) (a : ExceptT ε (StateM σ) α) : Prop :=
  ∀ s, P s → P (a.run s).2

/-- What is kept is ensured at every end. -/
theorem keeps_iff_ensures {a : ExceptT ε (StateM σ) α} :
    Keeps P a ↔ Ensures P a (fun _ ↦ P) P := by
  refine forall₂_congr fun s _ ↦ ?_
  rcases a.run s with ⟨e | x, next⟩ <;> rfl

namespace Keeps

/-- A computation that leaves the state. -/
theorem of_quiet {a : ExceptT ε (StateM σ) α} (h : ∀ s, (a.run s).2 = s) : Keeps P a :=
  fun s hs ↦ (h s).symm ▸ hs

/-- A value. -/
theorem pure (x : α) : Keeps P (Pure.pure x : ExceptT ε (StateM σ) α) :=
  of_quiet fun _ ↦ rfl

/-- An error. -/
theorem throw (e : ε) : Keeps P (MonadExcept.throw e : ExceptT ε (StateM σ) α) :=
  of_quiet fun _ ↦ rfl

/-- What stands behind an error is not reached. -/
theorem throw_bind (e : ε) (f : α → ExceptT ε (StateM σ) β) : Keeps P (MonadExcept.throw e >>= f) :=
  of_quiet fun _ ↦ rfl

/-- One computation after another. -/
theorem bind {a : ExceptT ε (StateM σ) α} {f : α → ExceptT ε (StateM σ) β} (ha : Keeps P a)
    (hf : ∀ x, Keeps P (f x)) : Keeps P (a >>= f) :=
  keeps_iff_ensures.mpr <|
    (keeps_iff_ensures.mp ha).bind fun x ↦ keeps_iff_ensures.mp (hf x)

end Keeps

end CloudControl
