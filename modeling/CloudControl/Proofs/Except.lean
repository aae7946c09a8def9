import Mathlib.Data.List.Forall2

/-!
# Results and errors, one after the other

What computations that may end with an error come to when they follow each other: two in turn, or
one for each item of a list. A list of computations has a result just if every item has one
(`mapM_eq_ok_iff`), and its error is the one of an item (`exists_of_mapM_error`).
-/

namespace CloudControl

variable {α β ε : Type}

/-- The error of two steps in turn is the one of the first, or else the one of the second. -/
theorem bind_eq_error_iff {x : Except ε α} {f : α → Except ε β} {e : ε} :
    x >>= f = .error e ↔ x = .error e ∨ ∃ y, x = .ok y ∧ f y = .error e := by
  cases x <;> simp [bind, Except.bind]

/-- The result of two steps in turn is the one of the second. -/
theorem bind_eq_ok_iff {x : Except ε α} {f : α → Except ε β} {z : β} :
    x >>= f = .ok z ↔ ∃ y, x = .ok y ∧ f y = .ok z := by
  cases x <;> simp [bind, Except.bind]

/-- A result that is there is the one of a success. -/
theorem toOption_eq_some_iff {x : Except ε α} {a : α} : x.toOption = some a ↔ x = .ok a := by
  cases x <;> simp [Except.toOption]

/-- A result that is looked at in part has the error of the whole. -/
theorem map_eq_error_iff {x : Except ε α} {f : α → β} {e : ε} :
    x.map f = .error e ↔ x = .error e := by
  cases x <;> simp [Except.map]

/-- A result that is looked at in part is the part of the result of the whole. -/
theorem map_eq_ok_iff {x : Except ε α} {f : α → β} {z : β} :
    x.map f = .ok z ↔ ∃ y, x = .ok y ∧ f y = z := by
  cases x <;> simp [Except.map]

/-- An error in other words is an error still. -/
theorem mapError_eq_ok_iff {ε' : Type} {x : Except ε α} {f : ε → ε'} {y : α} :
    x.mapError f = .ok y ↔ x = .ok y := by
  cases x <;> simp [Except.mapError]

section

variable {f : α → Except ε β} {xs : List α}

/-- The error of a list of computations is the one of an item. -/
theorem exists_of_mapM_error {e : ε} (h : xs.mapM f = .error e) : ∃ x ∈ xs, f x = .error e := by
  induction xs with
  | nil => exact absurd h nofun
  | cons x rest ih =>
    rw [List.mapM_cons] at h
    rcases bind_eq_error_iff.mp h with hfirst | ⟨y, _, h⟩
    · exact ⟨x, List.mem_cons_self, hfirst⟩
    rcases bind_eq_error_iff.mp h with hrest | ⟨ys, _, h⟩
    · obtain ⟨z, hz, herror⟩ := ih hrest
      exact ⟨z, List.mem_cons_of_mem _ hz, herror⟩
    · exact absurd h nofun

/-- A list of computations has the results of its items. -/
theorem mapM_eq_ok_iff {ys : List β} :
    xs.mapM f = .ok ys ↔ List.Forall₂ (fun x y ↦ f x = .ok y) xs ys := by
  induction xs generalizing ys with
  | nil =>
    rw [List.mapM_nil, List.forall₂_nil_left_iff]
    exact ⟨fun h ↦ (Except.ok.inj h).symm, fun h ↦ congrArg Except.ok h.symm⟩
  | cons x rest ih =>
    rw [List.mapM_cons, List.forall₂_cons_left_iff, bind_eq_ok_iff]
    constructor
    · rintro ⟨y, hfirst, h⟩
      obtain ⟨zs, hrest, h⟩ := bind_eq_ok_iff.mp h
      exact ⟨y, zs, hfirst, ih.mp hrest, (Except.ok.inj h).symm⟩
    · rintro ⟨y, zs, hfirst, hrest, rfl⟩
      exact ⟨y, hfirst, bind_eq_ok_iff.mpr ⟨zs, ih.mpr hrest, rfl⟩⟩

end

/-- What holds at the start of a fold, and is kept by each step that succeeds, holds at its end. -/
theorem foldlM_induction {P : β → Prop} {step : β → α → Except ε β} {xs : List α} {start last : β}
    (hstart : P start) (hstep : ∀ b x b', P b → step b x = .ok b' → P b')
    (h : xs.foldlM step start = .ok last) : P last := by
  induction xs generalizing start with
  | nil => exact Except.ok.inj h ▸ hstart
  | cons x rest ih =>
    rw [List.foldlM_cons] at h
    obtain ⟨next, hfirst, hrest⟩ := bind_eq_ok_iff.mp h
    exact ih (hstep start x next hstart hfirst) hrest

end CloudControl
