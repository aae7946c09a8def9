/-!
# Joined lists

Lists that are joined by a separator can be told apart when none of them holds the separator and
none is empty. A function on the items acts on a joined list as on its parts. The parts that a list
is split into hold no separator.
-/

namespace CloudControl.Text

variable {α β : Type}

/-- What is made of the items of a joined list is joined again. -/
theorem flatMap_intercalate (f : α → List β) (sep : List α) (parts : List (List α)) :
    (List.intercalate sep parts).flatMap f =
      List.intercalate (sep.flatMap f) (parts.map fun part ↦ part.flatMap f) := by
  induction parts with
  | nil => rfl
  | cons part rest ih =>
    cases rest with
    | nil => rw [List.map_singleton, List.intercalate_singleton, List.intercalate_singleton]
    | cons next rest =>
      rw [List.intercalate_cons_cons, List.map_cons, List.map_cons, List.intercalate_cons_cons,
        List.flatMap_append, List.flatMap_append, ih, List.map_cons]

/-- A function on the items of a joined list acts on its parts. -/
theorem map_intercalate (f : α → β) (sep : List α) (parts : List (List α)) :
    (List.intercalate sep parts).map f = List.intercalate (sep.map f) (parts.map (List.map f)) := by
  simpa only [List.map_eq_flatMap] using flatMap_intercalate (fun a ↦ [f a]) sep parts

/-- An item of a joined list is one of the separator or of a part. -/
theorem mem_of_mem_intercalate {sep : List α} {parts : List (List α)} {a : α}
    (h : a ∈ List.intercalate sep parts) : a ∈ sep ∨ ∃ part ∈ parts, a ∈ part := by
  induction parts with
  | nil => exact absurd h List.not_mem_nil
  | cons part rest ih =>
    cases rest with
    | nil =>
      rw [List.intercalate_singleton] at h
      exact .inr ⟨part, List.mem_cons_self, h⟩
    | cons next rest =>
      rw [List.intercalate_cons_cons, List.mem_append, List.mem_append] at h
      rcases h with (h | h) | h
      · exact .inr ⟨part, List.mem_cons_self, h⟩
      · exact .inl h
      · rcases ih h with h | ⟨other, hother, h⟩
        · exact .inl h
        · exact .inr ⟨other, List.mem_cons_of_mem _ hother, h⟩

/-- Parts without separators that are not empty are joined to a list that is not empty. -/
theorem intercalate_ne_nil {sep : α} {parts : List (List α)} (hparts : parts ≠ [])
    (hne : ∀ part ∈ parts, part ≠ []) : List.intercalate [sep] parts ≠ [] := by
  cases parts with
  | nil => exact absurd rfl hparts
  | cons part rest =>
    cases part with
    | nil => exact absurd rfl (hne [] List.mem_cons_self)
    | cons a part =>
      rw [List.intercalate_cons_cons_left]
      exact List.cons_ne_nil _ _

/-- Parts without separators that are not empty are known from the joined list. -/
theorem intercalate_inj [BEq α] [LawfulBEq α] {sep : α} {xs ys : List (List α)}
    (hxs : ∀ part ∈ xs, sep ∉ part ∧ part ≠ []) (hys : ∀ part ∈ ys, sep ∉ part ∧ part ≠ []) :
    List.intercalate [sep] xs = List.intercalate [sep] ys ↔ xs = ys := by
  constructor
  · intro h
    -- The empty list is the only one that joins to nothing; all others are found by splitting.
    by_cases hx : xs = []
    · by_cases hy : ys = []
      · rw [hx, hy]
      · rw [hx, List.intercalate_nil] at h
        exact absurd h.symm (intercalate_ne_nil hy fun part hpart ↦ (hys part hpart).2)
    · by_cases hy : ys = []
      · rw [hy, List.intercalate_nil] at h
        exact absurd h (intercalate_ne_nil hx fun part hpart ↦ (hxs part hpart).2)
      · rw [← List.splitOn_intercalate sep (fun part hpart ↦ (hxs part hpart).1) hx, h,
          List.splitOn_intercalate sep (fun part hpart ↦ (hys part hpart).1) hy]
  · rintro rfl
    rfl

/-- No part of a list that is split holds the separator. -/
theorem not_mem_of_mem_splitOn [BEq α] [LawfulBEq α] {sep : α} {xs part : List α}
    (h : part ∈ xs.splitOn sep) : sep ∉ part := by
  -- The first part grows by the items in front of a separator, which are others.
  induction xs generalizing part with
  | nil =>
    rw [List.splitOn_nil, List.mem_singleton] at h
    exact h ▸ List.not_mem_nil
  | cons x rest ih =>
    rw [List.splitOn, List.splitOnP_cons_eq_if_modifyHead] at h
    split at h
    · rcases List.mem_cons.mp h with rfl | h
      · exact List.not_mem_nil
      · exact ih h
    · next hx =>
      obtain ⟨first, others, hsplit⟩ := List.exists_cons_of_ne_nil (List.splitOn_ne_nil sep rest)
      rw [List.splitOn] at hsplit
      rw [hsplit, List.modifyHead_cons] at h
      rw [List.splitOn, hsplit] at ih
      rcases List.mem_cons.mp h with rfl | h
      · intro hsep
        rcases List.mem_cons.mp hsep with rfl | hsep
        · exact hx (beq_self_eq_true _)
        · exact ih List.mem_cons_self hsep
      · exact ih (List.mem_cons_of_mem _ h)

end CloudControl.Text
