import CloudControl.Proofs.Json.RoundTrip
import CloudControl.Proofs.Lists
import CloudControl.Proofs.Number.Finite

/-!
# Values are passed on

A value that has been read from a text is printed and read again when one program passes it on to
another. Nothing changes in this but its floating-point numbers, which need not be read back as they
were (`sameButFloats_of_readBack`), since a value that has been read holds no number that JSON
cannot express (`isReadable_of_parse?`).
-/

namespace CloudControl.Json

open Text

/-! ## What has been read -/

/-- A value that a reader can give: its whole numbers fit 64 bits, its other numbers are finite, and
the members of its objects stand in the order of their names. -/
inductive IsReadable : Json → Prop where
  | null : IsReadable .null
  | bool (b : Bool) : IsReadable (.bool b)
  | string (s : String) : IsReadable (.string s)
  | int {i : Int} (hmin : Numeral.minSigned 64 ≤ i) (hmax : i ≤ Numeral.maxUnsigned 64) :
      IsReadable (.number (.int i))
  | float {x : Binary64} (hfinite : x.isFinite = true) : IsReadable (.number (.float x))
  | array {items : List Json} (hitems : ∀ v ∈ items, IsReadable v) : IsReadable (.array items)
  | object {members : List (String × Json)} (hascending : Ascending members)
      (hmembers : ∀ m ∈ members, IsReadable m.2) : IsReadable (.object members)

/-- The number of a numeral is one that a reader can give. -/
theorem isReadable_of_toNumber? {n : Numeral} {m : JsonNumber} (h : n.toNumber? = some m) :
    IsReadable (.number m) := by
  cases m with
  | float x => exact .float (Numeral.isFinite_of_toNumber? h)
  | int i =>
    have hfloat : n.toFloat?.map JsonNumber.float ≠ some (.int i) := by
      intro hmap
      obtain ⟨x, _, heq⟩ := Option.map_eq_some_iff.mp hmap
      cases heq
    unfold Numeral.toNumber? at h
    dsimp only at h
    split at h
    · split at h
      · next hvalue =>
        rw [Bool.and_eq_true, decide_eq_true_eq] at hvalue
        cases h
        refine .int (Int.le_trans (by decide) (Int.natCast_nonneg _)) ?_
        exact_mod_cast hvalue.2
      · split at h
        · next hvalue =>
          rw [Bool.and_eq_true, decide_eq_true_eq] at hvalue
          cases h
          refine .int hvalue.2 (Int.le_trans ?_ (Int.natCast_nonneg _))
          exact Int.neg_nonpos_of_nonneg (Int.natCast_nonneg _)
        · exact absurd h hfloat
    · exact absurd h hfloat

/-- A number that is taken is one that a reader can give. -/
theorem isReadable_of_takeNumber {cs rest : List Char} {n : JsonNumber}
    (h : takeNumber cs = some (n, rest)) : IsReadable (.number n) := by
  have hvalued : ∀ negative tail, (takeNumeral negative tail).bind valued = some (n, rest) →
      IsReadable (.number n) := by
    intro negative tail hnumber
    obtain ⟨⟨numeral, left⟩, _, hvalue⟩ := Option.bind_eq_some_iff.mp hnumber
    obtain ⟨m, hm, heq⟩ := Option.map_eq_some_iff.mp hvalue
    cases heq
    exact isReadable_of_toNumber? hm
  by_cases hhead : cs.head? = some '-'
  · obtain ⟨tail, rfl⟩ := List.head?_eq_some_iff.mp hhead
    rw [takeNumber_minus] at h
    exact hvalued true tail h
  · rw [takeNumber_of_ne hhead] at h
    exact hvalued false cs h

/-- A fixed word is the value that it stands for. -/
theorem eq_of_takeWord {word cs rest : List Char} {value v : Json}
    (h : takeWord word value cs = some (v, rest)) : v = value := by
  unfold takeWord at h
  split at h <;> cases h
  rfl

/-- Whatever is taken off the front of a text with some fuel is what a reader can give. -/
structure TakesReadable (fuel : Nat) : Prop where
  value : ∀ {depth : Nat} {cs rest : List Char} {v : Json},
    takeValue fuel depth cs = some (v, rest) → v.IsReadable
  items : ∀ {depth : Nat} {cs rest : List Char} {items : List Json},
    takeItems fuel depth cs = some (items, rest) → ∀ v ∈ items, v.IsReadable
  members : ∀ {depth : Nat} {cs rest : List Char} {members : List (String × Json)},
    takeMembers fuel depth cs = some (members, rest) → ∀ m ∈ members, m.2.IsReadable

namespace TakesReadable

variable {fuel depth : Nat} {cs rest : List Char} (h : TakesReadable fuel)

include h

/-- A value that is taken with more fuel is readable. -/
theorem value_succ {v : Json} (hv : takeValue (fuel + 1) depth cs = some (v, rest)) :
    v.IsReadable := by
  rw [takeValue] at hv
  split at hv
  · exact eq_of_takeWord hv ▸ .null
  · exact eq_of_takeWord hv ▸ .bool true
  · exact eq_of_takeWord hv ▸ .bool false
  · obtain ⟨⟨s, left⟩, _, heq⟩ := Option.map_eq_some_iff.mp hv
    cases heq
    exact .string s
  · -- An array.
    split at hv
    · cases hv
    · split at hv
      · cases hv
        exact .array fun _ hv ↦ absurd hv List.not_mem_nil
      · obtain ⟨⟨items, left⟩, htaken, heq⟩ := Option.map_eq_some_iff.mp hv
        cases heq
        exact .array (h.items htaken)
  · -- An object, whose members are put in order.
    split at hv
    · cases hv
    · split at hv
      · cases hv
        exact .object .nil fun _ hm ↦ absurd hm List.not_mem_nil
      · obtain ⟨⟨members, left⟩, htaken, heq⟩ := Option.map_eq_some_iff.mp hv
        cases heq
        exact .object (ascending_sortMembers members) fun m hm ↦
          h.members htaken m (mem_sortMembers hm)
  · obtain ⟨⟨n, left⟩, htaken, heq⟩ := Option.map_eq_some_iff.mp hv
    cases heq
    exact isReadable_of_takeNumber htaken

/-- Items that are taken with more fuel are readable. -/
theorem items_succ {items : List Json}
    (hitems : takeItems (fuel + 1) depth cs = some (items, rest)) : ∀ v ∈ items, v.IsReadable := by
  rw [takeItems] at hitems
  obtain ⟨⟨v, left⟩, htaken, hitems⟩ := Option.bind_eq_some_iff.mp hitems
  have hfirst := h.value htaken
  dsimp only at hitems
  split at hitems
  · cases hitems
    exact List.forall_mem_singleton.mpr hfirst
  · obtain ⟨⟨others, last⟩, hothers, heq⟩ := Option.bind_eq_some_iff.mp hitems
    cases heq
    exact List.forall_mem_cons.mpr ⟨hfirst, h.items hothers⟩
  · cases hitems

/-- The values of members that are taken with more fuel are readable. -/
theorem members_succ {members : List (String × Json)}
    (hmembers : takeMembers (fuel + 1) depth cs = some (members, rest)) :
    ∀ m ∈ members, m.2.IsReadable := by
  rw [takeMembers] at hmembers
  obtain ⟨⟨name, left⟩, _, hmembers⟩ := Option.bind_eq_some_iff.mp hmembers
  obtain ⟨⟨v, left⟩, htaken, hmembers⟩ := Option.bind_eq_some_iff.mp hmembers
  have hfirst := h.value htaken
  dsimp only at hmembers
  split at hmembers
  · cases hmembers
    exact List.forall_mem_singleton.mpr hfirst
  · obtain ⟨⟨others, last⟩, hothers, heq⟩ := Option.bind_eq_some_iff.mp hmembers
    cases heq
    exact List.forall_mem_cons.mpr ⟨hfirst, h.members hothers⟩
  · cases hmembers

end TakesReadable

/-- Whatever is taken off the front of a text is what a reader can give, with any fuel. -/
theorem takesReadable (fuel : Nat) : TakesReadable fuel := by
  induction fuel with
  | zero =>
    refine ⟨fun h ↦ ?_, fun h ↦ ?_, fun h ↦ ?_⟩
    · rw [takeValue] at h
      cases h
    · rw [takeItems] at h
      cases h
    · rw [takeMembers] at h
      cases h
  | succ fuel ih => exact ⟨ih.value_succ, ih.items_succ, ih.members_succ⟩

/-- The value of a text is one that a reader can give. -/
theorem isReadable_of_parse? {text : String} {v : Json} (h : parse? text = some v) :
    v.IsReadable := by
  obtain ⟨⟨w, rest⟩, htaken, h⟩ := Option.bind_eq_some_iff.mp h
  dsimp only at h
  split at h <;> cases h
  exact (takesReadable _).value htaken

/-! ## What is read again -/

/-- Two values are the same but for their floating-point numbers. -/
inductive SameButFloats : Json → Json → Prop where
  | null : SameButFloats .null .null
  | bool (b : Bool) : SameButFloats (.bool b) (.bool b)
  | string (s : String) : SameButFloats (.string s) (.string s)
  | int (i : Int) : SameButFloats (.number (.int i)) (.number (.int i))
  | float (x y : Binary64) : SameButFloats (.number (.float x)) (.number (.float y))
  | array {items others : List Json} (hitems : List.Forall₂ SameButFloats items others) :
      SameButFloats (.array items) (.array others)
  | object {members others : List (String × Json)}
      (hnames : members.map Prod.fst = others.map Prod.fst)
      (hvalues : List.Forall₂ (fun m n ↦ SameButFloats m.2 n.2) members others) :
      SameButFloats (.object members) (.object others)

/-- A finite number is read back as some floating-point number. -/
theorem exists_float_of_readBack {depth : Nat} {x : Binary64} (hfinite : x.isFinite = true)
    {w : Json} (h : (number (.float x)).readBack depth = some w) : ∃ y, w = number (.float y) := by
  have htext : numberText (.float x) = x.jsonText := if_pos hfinite
  obtain ⟨cs, hdecimal, hchars⟩ := exists_isDecimal_jsonText x
  obtain ⟨c, rest, rfl, hdigit⟩ := hdecimal.exists_eq_cons
  obtain ⟨d, tail, hnumber, hfirst⟩ : ∃ d tail, x.jsonText.toList = d :: tail ∧
      (isDigit d = true ∨ d = '-') := by
    rcases hchars with hchars | hchars
    · exact ⟨c, rest, hchars, .inl hdigit⟩
    · exact ⟨'-', _, hchars, .inr rfl⟩
  rw [readBack, JsonNumber.readBack?, htext, hnumber, takeValue_eq_takeNumber hfirst,
    ← hnumber, Option.map_map] at h
  obtain ⟨⟨n, left⟩, htaken, rfl⟩ := Option.map_eq_some_iff.mp h
  obtain ⟨-, y, rfl⟩ := takeNumber_jsonText htaken
  exact ⟨y, rfl⟩

/-- The members of an object that stand in order are read back one by one. -/
theorem readBack_object {depth : Nat} {members : List (String × Json)} {w : Json}
    (hascending : Ascending members) (h : (object members).readBack (depth + 1) = some w) :
    ∃ others, w = object others ∧ members.map Prod.fst = others.map Prod.fst ∧
      List.Forall₂ (fun m n ↦ m.2.readBack depth = some n.2) members others := by
  obtain ⟨others, hothers, rfl⟩ := Option.map_eq_some_iff.mp h
  have hback := membersReadBack_eq_some_iff.mp hothers
  have hnames : members.map Prod.fst = others.map Prod.fst :=
    map_fst_eq_of_forall₂ (hback.imp fun _ _ hmember ↦ hmember.1)
  -- The names are the same, so they still stand in order.
  have hsorted : Ascending others := by
    have hordered := List.pairwise_map.mpr hascending
    rw [hnames] at hordered
    exact List.pairwise_map.mp hordered
  rw [ofMembers, sortMembers_of_ascending hsorted]
  exact ⟨others, rfl, hnames, hback.imp fun _ _ hmember ↦ hmember.2⟩

/-- The members of an object are read back under their names. -/
theorem rel_get?_of_readBack {depth : Nat} {members : List (String × Json)} {w : Json}
    (hascending : Ascending members) (h : (object members).readBack (depth + 1) = some w)
    (name : String) :
    Option.Rel (fun v v' ↦ v.readBack depth = some v') ((object members).get? name)
      (w.get? name) := by
  obtain ⟨others, rfl, hnames, hvalues⟩ := readBack_object hascending h
  exact lookup_of_forall₂ hnames hvalues name

/-- What is read back of a value that has been read differs from it in nothing but floating-point
numbers. -/
theorem sameButFloats_of_readBack {depth : Nat} {v w : Json} (hv : v.IsReadable)
    (h : v.readBack depth = some w) : SameButFloats v w := by
  induction v using Json.induction generalizing depth w with
  | null =>
    cases h
    exact .null
  | bool b =>
    cases h
    exact .bool b
  | string s =>
    cases h
    exact .string s
  | number n =>
    cases hv with
    | @int i hmin hmax =>
      have hexact : (number (.int i)).isExact depth = true := by
        rw [isExact, Bool.and_eq_true, decide_eq_true_eq, decide_eq_true_eq]
        exact ⟨hmin, hmax⟩
      rw [readBack_of_isExact hexact] at h
      cases h
      exact .int i
    | @float x hfinite =>
      obtain ⟨y, rfl⟩ := exists_float_of_readBack hfinite h
      exact .float x y
  | array items ih =>
    cases hv with
    | array hitems =>
    cases depth with
    | zero => cases h
    | succ depth =>
      obtain ⟨others, hothers, rfl⟩ := Option.map_eq_some_iff.mp h
      exact .array (forall₂_imp_of_mem (itemsReadBack_eq_some_iff.mp hothers)
        fun v hv w _ hback ↦ ih v hv (hitems v hv) hback)
  | object members ih =>
    cases hv with
    | object hascending hmembers =>
    cases depth with
    | zero => cases h
    | succ depth =>
      obtain ⟨others, rfl, hnames, hvalues⟩ := readBack_object hascending h
      exact .object hnames (forall₂_imp_of_mem hvalues
        fun m hm n _ hvalue ↦ ih m hm (hmembers m hm) hvalue)

end CloudControl.Json
