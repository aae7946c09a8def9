/-!
# Request parameters

`Params` maps names to values, and lists them in the order of their names. Names are compared
by code points, which is the order of their UTF-8 octets. Setting a name again replaces its
value. The entries are a list in strictly ascending order, and the proof is part of the type.
-/

namespace CloudControl

/-- A name with its value. -/
abbrev Param := String × String

namespace Param

/-- The name of the first parameter comes before the name of the second. -/
def Before (p q : Param) : Prop := p.1 < q.1

instance (p q : Param) : Decidable (Before p q) :=
  inferInstanceAs (Decidable (p.1 < q.1))

end Param

/-- Sets a name in an ascending list of entries. -/
def setEntry (name value : String) : List Param → List Param
  | [] => [(name, value)]
  | (n, v) :: rest =>
    if name < n then (name, value) :: (n, v) :: rest
    else if name = n then (name, value) :: rest
    else (n, v) :: setEntry name value rest

/-- Every entry of the result is the one that was set or was there before. -/
theorem mem_setEntry {name value : String} {entries : List Param} {p : Param}
    (h : p ∈ setEntry name value entries) : p = (name, value) ∨ p ∈ entries := by
  induction entries with
  | nil => simpa [setEntry] using h
  | cons e rest ih =>
    obtain ⟨n, v⟩ := e
    simp only [setEntry] at h
    split at h
    · simpa using h
    · split at h
      · rcases List.mem_cons.mp h with h | h
        · exact .inl h
        · exact .inr (List.mem_cons_of_mem _ h)
      · rcases List.mem_cons.mp h with h | h
        · exact .inr (h ▸ List.mem_cons_self)
        · exact (ih h).imp id (List.mem_cons_of_mem _)

/-- Setting a name keeps the entries ascending. -/
theorem pairwise_setEntry {name value : String} {entries : List Param}
    (h : entries.Pairwise Param.Before) : (setEntry name value entries).Pairwise Param.Before := by
  induction entries with
  | nil => simp [setEntry]
  | cons e rest ih =>
    obtain ⟨n, v⟩ := e
    obtain ⟨hfirst, hrest⟩ := List.pairwise_cons.mp h
    simp only [setEntry]
    split
    · next hlt =>
      refine List.pairwise_cons.mpr ⟨fun p hp ↦ ?_, h⟩
      rcases List.mem_cons.mp hp with rfl | hp
      · exact hlt
      · exact String.lt_trans hlt (hfirst p hp)
    · next hnlt =>
      split
      · next heq =>
        subst heq
        exact List.pairwise_cons.mpr ⟨hfirst, hrest⟩
      · next hne =>
        refine List.pairwise_cons.mpr ⟨fun p hp ↦ ?_, ih hrest⟩
        rcases mem_setEntry hp with rfl | hp
        · have hle : n ≤ name := String.not_lt.mp hnlt
          exact String.not_le.mp fun hge ↦ hne (String.le_antisymm hge hle)
        · exact hfirst p hp

/-- Parameters in the order of their names, each name once. -/
structure Params where
  entries : List Param
  ascending : entries.Pairwise Param.Before

namespace Params

/-- No parameters. -/
def empty : Params := ⟨[], .nil⟩

instance : EmptyCollection Params := ⟨empty⟩

instance : Inhabited Params := ⟨empty⟩

@[ext]
theorem ext {p q : Params} (h : p.entries = q.entries) : p = q := by
  cases p; cases q; cases h; rfl

instance : DecidableEq Params := fun p q ↦
  if h : p.entries = q.entries then isTrue (ext h) else isFalse fun heq ↦ h (heq ▸ rfl)

/-- Sets a name to a value. -/
def set (p : Params) (name value : String) : Params :=
  ⟨setEntry name value p.entries, pairwise_setEntry p.ascending⟩

/-- The value of a name. -/
def get? (p : Params) (name : String) : Option String :=
  p.entries.lookup name

/-- The name has a value. -/
def contains (p : Params) (name : String) : Bool :=
  (p.get? name).isSome

/-- Removes a name. -/
def erase (p : Params) (name : String) : Params :=
  ⟨p.entries.filter (·.1 != name), p.ascending.filter _⟩

/-- The number of names. -/
def size (p : Params) : Nat :=
  p.entries.length

/-- There are no parameters. -/
def isEmpty (p : Params) : Bool :=
  p.entries.isEmpty

/-- Sets each name of a list in turn, so that the last value of a name counts. -/
def setAll (p : Params) (entries : List Param) : Params :=
  entries.foldl (fun p e ↦ p.set e.1 e.2) p

/-- Copies the second parameters over the first. -/
def merge (p q : Params) : Params :=
  p.setAll q.entries

/-- The parameters of a list, where the last value of a name counts. -/
def ofList (entries : List Param) : Params :=
  empty.setAll entries

@[simp]
theorem entries_empty : empty.entries = [] := rfl

@[simp]
theorem entries_set (p : Params) (name value : String) :
    (p.set name value).entries = setEntry name value p.entries := rfl

@[simp]
theorem setAll_nil (p : Params) : p.setAll [] = p := rfl

@[simp]
theorem setAll_cons (p : Params) (e : Param) (es : List Param) :
    p.setAll (e :: es) = (p.set e.1 e.2).setAll es := rfl

end Params

/-- The value of a name just set. -/
theorem lookup_setEntry_self (name value : String) (entries : List Param) :
    (setEntry name value entries).lookup name = some value := by
  induction entries with
  | nil => simp [setEntry]
  | cons e rest ih =>
    obtain ⟨n, v⟩ := e
    simp only [setEntry]
    split
    · simp
    · split
      · simp
      · next hne => simp [List.lookup_cons, beq_eq_false_iff_ne.mpr hne, ih]

/-- Setting a name leaves the others alone. -/
theorem lookup_setEntry_of_ne {name other : String} (h : other ≠ name) (value : String)
    (entries : List Param) : (setEntry name value entries).lookup other = entries.lookup other := by
  have hne : (other == name) = false := beq_eq_false_iff_ne.mpr h
  induction entries with
  | nil => simp [setEntry, List.lookup_cons, hne]
  | cons e rest ih =>
    obtain ⟨n, v⟩ := e
    simp only [setEntry]
    split
    · simp [List.lookup_cons, hne]
    · split
      · next heq => subst heq; simp [List.lookup_cons, hne]
      · simp [List.lookup_cons, ih]

namespace Params

/-- A name just set has the value it was set to. -/
@[simp]
theorem get?_set_self (p : Params) (name value : String) :
    (p.set name value).get? name = some value :=
  lookup_setEntry_self name value p.entries

/-- Setting a name leaves the others alone. -/
theorem get?_set_of_ne (p : Params) {name other : String} (h : other ≠ name) (value : String) :
    (p.set name value).get? other = p.get? other :=
  lookup_setEntry_of_ne h value p.entries

end Params

end CloudControl
