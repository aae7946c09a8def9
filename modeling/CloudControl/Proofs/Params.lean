import CloudControl.Params
import CloudControl.Proofs.Lists
import Mathlib.Data.List.Basic
import Mathlib.Tactic.SplitIfs

/-!
# Parameters as a finite map

Parameters are known by the values of their names (`ext_get?`), so parameters that are built in
different orders are the same if every name has the same value. Copying parameters over others
keeps the values of the names that they leave alone (`get?_merge`), and so a list of names that is
set before another one is forgotten only as far as the other one covers it
(`setAll_setAll_eq_iff`).
-/

namespace CloudControl

/-- A parameter before another one has another name. -/
theorem Param.Before.ne {p q : Param} (h : p.Before q) : p.1 ≠ q.1 := by
  intro heq
  have hless : p.1 < q.1 := h
  exact String.lt_irrefl q.1 (heq ▸ hless)

namespace Params

variable {p q : Params} {name value : String}

/-- The entries are the names with their values. -/
theorem mem_entries_iff : (name, value) ∈ p.entries ↔ p.get? name = some value := by
  obtain ⟨entries, hascending⟩ := p
  show (name, value) ∈ entries ↔ entries.lookup name = some value
  induction entries with
  | nil => simp
  | cons e rest ih =>
    obtain ⟨n, v⟩ := e
    obtain ⟨hfirst, hrest⟩ := List.pairwise_cons.mp hascending
    rw [List.mem_cons, ih hrest, List.lookup_cons, Prod.mk.injEq]
    by_cases heq : name = n
    · -- No later entry has the name of the first.
      have hnone : rest.lookup name ≠ some value := fun hlookup ↦
        (hfirst _ ((ih hrest).mpr hlookup)).ne heq.symm
      rw [heq] at hnone ⊢
      simp [hnone, eq_comm]
    · simp only [heq, beq_eq_false_iff_ne.mpr heq, false_and, false_or]

/-- Parameters with the same values are the same. -/
theorem ext_get? (h : ∀ name, p.get? name = q.get? name) : p = q := by
  refine Params.ext (List.Perm.eq_of_pairwise ?_ p.ascending q.ascending ?_)
  · intro a b _ _ hab hba
    exact absurd (String.lt_trans hab hba) (String.lt_irrefl a.1)
  · have hnodup : ∀ r : Params, r.entries.Nodup := fun r ↦
      r.ascending.imp fun hbefore heq ↦ hbefore.ne (congrArg Prod.fst heq)
    refine (List.perm_ext_iff_of_nodup (hnodup p) (hnodup q)).mpr fun ⟨name, value⟩ ↦ ?_
    rw [mem_entries_iff, mem_entries_iff, h]

/-- The value of a name after some name is set. -/
theorem get?_set (p : Params) (name value other : String) :
    (p.set name value).get? other = if other = name then some value else p.get? other := by
  split_ifs with h
  · rw [h, get?_set_self]
  · exact p.get?_set_of_ne h value

/-- The value of a name after some name is removed. -/
theorem get?_erase (p : Params) (name other : String) :
    (p.erase name).get? other = if other = name then none else p.get? other := by
  show (p.entries.filter (·.1 != name)).lookup other = _
  split_ifs with h
  · rw [h, List.lookup_eq_none_iff]
    intro e he
    have hne := bne_iff_ne.mp (List.mem_filter.mp he).2
    exact bne_iff_ne.mpr hne.symm
  · exact lookup_filter_of_ne h p.entries

/-- A name that is removed may be set before. -/
theorem erase_set_self (p : Params) (name value : String) :
    (p.set name value).erase name = p.erase name := by
  refine ext_get? fun other ↦ ?_
  rw [get?_erase, get?_erase, get?_set]
  split_ifs <;> rfl

/-- A name may be removed before another one is set. -/
theorem erase_set_of_ne (p : Params) {name other : String} (h : other ≠ name) (value : String) :
    (p.set other value).erase name = (p.erase name).set other value := by
  refine ext_get? fun asked ↦ ?_
  rw [get?_erase, get?_set, get?_set, get?_erase]
  split_ifs with hname hother
  · exact absurd (hother.symm.trans hname) h
  all_goals rfl

/-- Setting a list of different names gives their values, and keeps those of the other names. -/
theorem get?_setAll {entries : List Param} (h : entries.Pairwise fun p q ↦ p.1 ≠ q.1) (p : Params)
    (name : String) : (p.setAll entries).get? name = (entries.lookup name).or (p.get? name) := by
  induction entries generalizing p with
  | nil => rfl
  | cons e rest ih =>
    obtain ⟨n, v⟩ := e
    obtain ⟨hfirst, hrest⟩ := List.pairwise_cons.mp h
    rw [setAll_cons, ih hrest, get?_set, List.lookup_cons]
    by_cases heq : name = n
    · have hnone : rest.lookup name = none := List.lookup_eq_none_iff.mpr fun e he ↦
        bne_iff_ne.mpr (heq ▸ hfirst e he)
      rw [hnone, if_pos heq, heq, beq_self_eq_true]
      rfl
    · rw [if_neg heq, beq_eq_false_iff_ne.mpr heq]

/-- A list of different names that is set before another one leaves no trace, just if each name that
the other one does not set had its value before. -/
theorem setAll_setAll_eq_iff {xs ys : List Param} (hxs : xs.Pairwise fun p q ↦ p.1 ≠ q.1)
    (hys : ys.Pairwise fun p q ↦ p.1 ≠ q.1) (p : Params) :
    (p.setAll xs).setAll ys = p.setAll ys ↔
      ∀ e ∈ xs, ys.lookup e.1 = none → p.get? e.1 = some e.2 := by
  constructor
  · intro h e he hnone
    have hvalue := congrArg (fun q ↦ q.get? e.1) h
    simp only [get?_setAll hys, get?_setAll hxs, hnone, Option.none_or,
      lookup_of_mem (List.pairwise_map.mpr hxs) he, Option.some_or] at hvalue
    exact hvalue.symm
  · intro h
    refine ext_get? fun name ↦ ?_
    rw [get?_setAll hys, get?_setAll hxs, get?_setAll hys]
    cases hlast : ys.lookup name with
    | some value => rw [Option.some_or, Option.some_or]
    | none =>
      rw [Option.none_or, Option.none_or]
      cases hfirst : xs.lookup name with
      | none => rw [Option.none_or]
      | some value =>
        obtain ⟨front, back, rfl, _⟩ := List.lookup_eq_some_iff.mp hfirst
        rw [h (name, value) (by simp) hlast, Option.some_or]

/-- Setting a list of names gives each the last value that the list has for it, and keeps those of
the other names. -/
theorem get?_setAll_of_list (entries : List Param) (p : Params) (name : String) :
    (p.setAll entries).get? name = (entries.reverse.lookup name).or (p.get? name) := by
  induction entries generalizing p with
  | nil => rfl
  | cons e rest ih =>
    obtain ⟨n, v⟩ := e
    rw [setAll_cons, ih, get?_set, List.reverse_cons, List.lookup_append, Option.or_assoc,
      List.lookup_cons]
    congr 1
    by_cases heq : name = n
    · rw [if_pos heq, heq, beq_self_eq_true]
      rfl
    · rw [if_neg heq, beq_eq_false_iff_ne.mpr heq]
      rfl

/-- Of two values of a name, the one that is copied over the other counts. -/
theorem get?_merge (p q : Params) (name : String) :
    (p.merge q).get? name = (q.get? name).or (p.get? name) :=
  get?_setAll (q.ascending.imp Param.Before.ne) p name

/-- Every entry after a list of names is set is one of them or was there before. -/
theorem mem_setAll {entries : List Param} {e : Param} (h : e ∈ (p.setAll entries).entries) :
    e ∈ entries ∨ e ∈ p.entries := by
  induction entries generalizing p with
  | nil => exact .inr h
  | cons first rest ih =>
    rcases ih h with hrest | hset
    · exact .inl (List.mem_cons_of_mem _ hrest)
    · rcases mem_setEntry hset with rfl | hbefore
      · exact .inl List.mem_cons_self
      · exact .inr hbefore

end Params

end CloudControl
