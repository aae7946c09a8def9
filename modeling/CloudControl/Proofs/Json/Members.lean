import CloudControl.Json.Value

/-!
# The members of an object

An object that is made of members holds each of them under its name, in the order of the names.
Of members of one name it holds the last.
-/

namespace CloudControl.Json

variable {α : Type}

/-- The value of a member just set. -/
theorem lookup_insertMember_self (name : String) (value : α) (members : List (String × α)) :
    (insertMember name value members).lookup name = some value := by
  induction members with
  | nil => simp [insertMember]
  | cons m rest ih =>
    obtain ⟨n, v⟩ := m
    simp only [insertMember]
    split
    · rw [List.lookup_cons_self]
    · split
      · rw [List.lookup_cons_self]
      · next hne => rw [List.lookup_cons, beq_eq_false_iff_ne.mpr hne, ih]

/-- Setting a member leaves the others alone. -/
theorem lookup_insertMember_of_ne {name other : String} (h : other ≠ name) (value : α)
    (members : List (String × α)) :
    (insertMember name value members).lookup other = members.lookup other := by
  have hne : (other == name) = false := beq_eq_false_iff_ne.mpr h
  induction members with
  | nil => rw [insertMember, List.lookup_cons, hne]
  | cons m rest ih =>
    obtain ⟨n, v⟩ := m
    simp only [insertMember]
    split
    · rw [List.lookup_cons, hne]
    · split
      · next heq => rw [← heq, List.lookup_cons, List.lookup_cons, hne]
      · rw [List.lookup_cons, List.lookup_cons, ih]

/-- Every member of the result is the one that was set or was there before. -/
theorem mem_insertMember {name : String} {value : α} {members : List (String × α)}
    {m : String × α} (h : m ∈ insertMember name value members) :
    m = (name, value) ∨ m ∈ members := by
  induction members with
  | nil => simpa [insertMember] using h
  | cons first rest ih =>
    obtain ⟨n, v⟩ := first
    simp only [insertMember] at h
    split at h
    · simpa using h
    · split at h
      · rcases List.mem_cons.mp h with rfl | h
        · exact .inl rfl
        · exact .inr (List.mem_cons_of_mem _ h)
      · rcases List.mem_cons.mp h with rfl | h
        · exact .inr List.mem_cons_self
        · exact (ih h).imp id (List.mem_cons_of_mem _)

/-- Members in the order of their names, each name once. -/
def Ascending (members : List (String × α)) : Prop :=
  members.Pairwise fun m n ↦ m.1 < n.1

/-- Setting a member keeps the order of the names. -/
theorem Ascending.insertMember {members : List (String × α)} (h : Ascending members)
    (name : String) (value : α) : Ascending (insertMember name value members) := by
  induction members with
  | nil => exact List.pairwise_singleton _ _
  | cons first rest ih =>
    obtain ⟨n, v⟩ := first
    obtain ⟨hfirst, hrest⟩ := List.pairwise_cons.mp h
    simp only [Json.insertMember]
    split
    · next hlt =>
      refine List.pairwise_cons.mpr ⟨fun m hm ↦ ?_, h⟩
      rcases List.mem_cons.mp hm with rfl | hm
      · exact hlt
      · exact String.lt_trans hlt (hfirst m hm)
    · next hnlt =>
      split
      · next heq =>
        subst heq
        exact List.pairwise_cons.mpr ⟨hfirst, hrest⟩
      · next hne =>
        refine List.pairwise_cons.mpr ⟨fun m hm ↦ ?_, ih hrest⟩
        rcases mem_insertMember hm with rfl | hm
        · have hle : n ≤ name := String.not_lt.mp hnlt
          exact String.not_le.mp fun hge ↦ hne (String.le_antisymm hge hle)
        · exact hfirst m hm

/-- Members that are set one after the other onto others. -/
theorem ascending_foldl_insertMember {start : List (String × α)} (h : Ascending start)
    (members : List (String × α)) :
    Ascending (members.foldl (fun sorted m ↦ insertMember m.1 m.2 sorted) start) := by
  induction members generalizing start with
  | nil => exact h
  | cons m rest ih => exact ih (h.insertMember m.1 m.2)

/-- An object that is made of members holds them in the order of their names. -/
theorem ascending_sortMembers (members : List (String × α)) : Ascending (sortMembers members) :=
  ascending_foldl_insertMember .nil members

/-- Members that are sorted are those that were there before. -/
theorem mem_sortMembers {members : List (String × α)} {m : String × α}
    (h : m ∈ sortMembers members) : m ∈ members := by
  have hfold : ∀ start, m ∈ members.foldl (fun sorted m ↦ insertMember m.1 m.2 sorted) start →
      m ∈ start ∨ m ∈ members := by
    clear h
    induction members with
    | nil => exact fun start hm ↦ .inl hm
    | cons first rest ih =>
      intro start hm
      rcases ih _ hm with hm | hm
      · rcases mem_insertMember hm with rfl | hm
        · exact .inr List.mem_cons_self
        · exact .inl hm
      · exact .inr (List.mem_cons_of_mem _ hm)
  exact (hfold [] h).resolve_left List.not_mem_nil

/-- Of members that are set one after the other onto others, the last one of a name is found. -/
theorem lookup_foldl_insertMember (name : String) (members start : List (String × α)) :
    (members.foldl (fun sorted m ↦ insertMember m.1 m.2 sorted) start).lookup name =
      (members.reverse.lookup name).or (start.lookup name) := by
  induction members generalizing start with
  | nil => rfl
  | cons m rest ih =>
    obtain ⟨n, v⟩ := m
    rw [List.foldl_cons, ih, List.reverse_cons, List.lookup_append, Option.or_assoc]
    congr 1
    by_cases heq : name = n
    · rw [heq, lookup_insertMember_self, List.lookup_cons_self]
      rfl
    · rw [lookup_insertMember_of_ne heq, List.lookup_cons, beq_eq_false_iff_ne.mpr heq]
      rfl

/-- An object that is made of members holds the last one of a name. -/
theorem lookup_sortMembers (name : String) (members : List (String × α)) :
    (sortMembers members).lookup name = members.reverse.lookup name := by
  rw [sortMembers, lookup_foldl_insertMember, List.lookup_nil, Option.or_none]

/-- The last member of a name is the one that an object holds. -/
theorem get?_ofMembers (before : List (String × Json)) (name : String) (value : Json)
    {after : List (String × Json)} (h : ∀ m ∈ after, name ≠ m.1) :
    (ofMembers (before ++ (name, value) :: after)).get? name = some value := by
  have hafter : after.reverse.lookup name = none := by
    rw [List.lookup_eq_none_iff]
    exact fun m hm ↦ bne_iff_ne.mpr (h m (List.mem_reverse.mp hm))
  show (sortMembers (before ++ (name, value) :: after)).lookup name = some value
  rw [lookup_sortMembers, List.reverse_append, List.reverse_cons, List.append_assoc,
    List.lookup_append, hafter, Option.none_or, List.singleton_append, List.lookup_cons_self]

end CloudControl.Json
