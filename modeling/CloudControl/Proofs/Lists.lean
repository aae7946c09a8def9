import Mathlib.Data.List.Forall2

/-!
# Lists of named values, and lists side by side

A list of values with different names is a map: each value is found under its name
(`lookup_of_mem`). Two lists that are related item by item stay so when the items are changed in
step, and a list is related to some other one just if each of its items is (`exists_forall₂_iff`).
-/

namespace CloudControl

variable {α β : Type}

/-! ## Named values -/

/-- A value is found under its name, if the list holds no other value of this name. -/
theorem lookup_of_mem {members : List (String × α)} (hnames : (members.map Prod.fst).Nodup)
    {m : String × α} (hm : m ∈ members) : members.lookup m.1 = some m.2 := by
  induction members with
  | nil => exact absurd hm List.not_mem_nil
  | cons first rest ih =>
    rw [List.map_cons, List.nodup_cons] at hnames
    rcases List.mem_cons.mp hm with rfl | hrest
    · exact List.lookup_cons_self
    · have hne : m.1 ≠ first.1 := fun h ↦ hnames.1 (h ▸ List.mem_map_of_mem hrest)
      rw [List.lookup_cons, beq_eq_false_iff_ne.mpr hne]
      exact ih hnames.2 hrest

/-- What is found under a key is an entry. -/
theorem mem_of_lookup_eq_some {κ : Type} [BEq κ] [LawfulBEq κ] {entries : List (κ × α)} {key : κ}
    {value : α} (h : entries.lookup key = some value) : (key, value) ∈ entries := by
  induction entries with
  | nil => cases h
  | cons e rest ih =>
    rw [List.lookup_cons] at h
    split at h
    · next heq =>
      cases h
      rw [beq_iff_eq.mp heq]
      exact List.mem_cons_self
    · exact List.mem_cons_of_mem _ (ih h)

/-- Where each name has a value or none, the value of a name is the one from its entry. -/
theorem lookup_filterMap {table : List (String × α)} (hnames : (table.map Prod.fst).Nodup)
    (value? : α → Option β) {name : String} {a : α} (h : (name, a) ∈ table) :
    (table.filterMap fun e ↦ (value? e.2).map (e.1, ·)).lookup name = value? a := by
  induction table with
  | nil => cases h
  | cons e rest ih =>
    obtain ⟨other, b⟩ := e
    obtain ⟨hfirst, hrest⟩ := List.nodup_cons.mp hnames
    rcases List.mem_cons.mp h with heq | h
    · obtain ⟨rfl, rfl⟩ := Prod.mk.inj heq
      cases hvalue : value? a with
      | some v => rw [List.filterMap_cons_some (by rw [hvalue]; rfl), List.lookup_cons_self]
      | none =>
        rw [List.filterMap_cons_none (by rw [hvalue]; rfl), List.lookup_eq_none_iff]
        rintro ⟨n, v⟩ hmem
        obtain ⟨⟨n', b⟩, hb, hn⟩ := List.mem_filterMap.mp hmem
        obtain ⟨v', _, heq⟩ := Option.map_eq_some_iff.mp hn
        obtain ⟨rfl, rfl⟩ := Prod.mk.inj heq
        exact bne_iff_ne.mpr fun heq ↦ hfirst (List.mem_map.mpr ⟨_, hb, heq.symm⟩)
    · have hne : name ≠ other := fun heq ↦ hfirst (List.mem_map.mpr ⟨_, h, heq⟩)
      rw [← ih hrest h]
      cases hvalue : value? b with
      | some v =>
        rw [List.filterMap_cons_some (by rw [hvalue]; rfl), List.lookup_cons,
          beq_eq_false_iff_ne.mpr hne]
      | none => rw [List.filterMap_cons_none (by rw [hvalue]; rfl)]

/-- What stands under a key is found when the entries under another key are dropped. -/
theorem lookup_filter_of_ne {key other : String} (h : key ≠ other)
    (entries : List (String × α)) :
    (entries.filter (·.1 != other)).lookup key = entries.lookup key := by
  induction entries with
  | nil => rfl
  | cons entry rest ih =>
    by_cases hentry : entry.1 = other
    · rw [List.filter_cons_of_neg (by simpa using hentry), ih, List.lookup_cons, hentry,
        beq_eq_false_iff_ne.mpr h]
    · rw [List.filter_cons_of_pos (by simpa using hentry), List.lookup_cons, List.lookup_cons, ih]

/-- Values with the same names one by one have the same names. -/
theorem map_fst_eq_of_forall₂ {xs : List (String × α)} {ys : List (String × β)}
    (h : List.Forall₂ (fun x y ↦ x.1 = y.1) xs ys) : xs.map Prod.fst = ys.map Prod.fst := by
  rw [← List.forall₂_eq_eq_eq, List.forall₂_map_left_iff, List.forall₂_map_right_iff]
  exact h

/-- Values that are related one by one, under the same names, are found under the same names. -/
theorem lookup_of_forall₂ {R : α → β → Prop} {xs : List (String × α)} {ys : List (String × β)}
    (hnames : xs.map Prod.fst = ys.map Prod.fst)
    (hvalues : List.Forall₂ (fun x y ↦ R x.2 y.2) xs ys) (name : String) :
    Option.Rel R (xs.lookup name) (ys.lookup name) := by
  induction hvalues with
  | nil => exact .none
  | @cons x y xs ys hfirst _ ih =>
    obtain ⟨hname, hrest⟩ := List.cons.inj hnames
    rw [List.lookup_cons, List.lookup_cons, ← hname]
    cases name == x.1 with
    | true => exact .some hfirst
    | false => exact ih hrest

/-! ## Lists side by side -/

variable {R S : α → β → Prop} {xs : List α} {ys : List β}

/-- A relation of two lists item by item is kept by what holds of their items. -/
theorem forall₂_imp_of_mem (h : List.Forall₂ R xs ys)
    (himp : ∀ x ∈ xs, ∀ y ∈ ys, R x y → S x y) : List.Forall₂ S xs ys := by
  obtain ⟨hlength, hpairs⟩ := List.forall₂_iff_zip.mp h
  refine List.forall₂_iff_zip.mpr ⟨hlength, fun hmem ↦ ?_⟩
  obtain ⟨hx, hy⟩ := List.of_mem_zip hmem
  exact himp _ hx _ hy (hpairs hmem)

/-- What is related to one list is related to another one whose items stand for those of the
first. -/
theorem forall₂_congr_left {xs' : List α} {T : α → α → Prop} (h : List.Forall₂ T xs xs')
    (hiff : ∀ x x', T x x' → ∀ y, R x y ↔ R x' y) :
    List.Forall₂ R xs ys ↔ List.Forall₂ R xs' ys := by
  induction h generalizing ys with
  | nil => exact Iff.rfl
  | cons hfirst _ ih =>
    cases ys with
    | nil => exact ⟨nofun, nofun⟩
    | cons y ys => rw [List.forall₂_cons, List.forall₂_cons, hiff _ _ hfirst, ih]

/-- Every item of a list is related to one of the other list. -/
theorem exists_of_mem_right (h : List.Forall₂ R xs ys) {y : β} (hy : y ∈ ys) : ∃ x, R x y := by
  induction h with
  | nil => exact absurd hy List.not_mem_nil
  | cons hfirst _ ih =>
    rcases List.mem_cons.mp hy with rfl | hrest
    · exact ⟨_, hfirst⟩
    · exact ih hrest

/-- A list is related to some list just if every item is related to something. -/
theorem exists_forall₂_iff : (∃ ys, List.Forall₂ R xs ys) ↔ ∀ x ∈ xs, ∃ y, R x y := by
  induction xs with
  | nil => exact ⟨fun _ x hx ↦ absurd hx List.not_mem_nil, fun _ ↦ ⟨[], .nil⟩⟩
  | cons x rest ih =>
    rw [List.forall_mem_cons, ← ih]
    constructor
    · rintro ⟨_, h⟩
      obtain ⟨y, ys, hy, hys, _⟩ := List.forall₂_cons_left_iff.mp h
      exact ⟨⟨y, hy⟩, ys, hys⟩
    · rintro ⟨⟨y, hy⟩, ys, hys⟩
      exact ⟨y :: ys, .cons hy hys⟩

/-- Two lists that are related stay so if items at one position are changed in step. -/
theorem forall₂_modify {f : α → α} {g : β → β} (h : List.Forall₂ R xs ys) {n : Nat}
    (hstep : ∀ x y, xs[n]? = some x → R x y → R (f x) (g y)) :
    List.Forall₂ R (xs.modify n f) (ys.modify n g) := by
  induction h generalizing n with
  | nil =>
    rw [List.modify_nil, List.modify_nil]
    exact .nil
  | @cons x y xs ys hfirst hrest ih =>
    cases n with
    | zero =>
      rw [List.modify_zero_cons, List.modify_zero_cons]
      exact .cons (hstep x y rfl hfirst) hrest
    | succ n =>
      rw [List.modify_succ_cons, List.modify_succ_cons]
      exact .cons hfirst (ih hstep)

end CloudControl
