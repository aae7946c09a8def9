import CloudControl.Proofs.Json.Members
import CloudControl.Proofs.Json.Numerals
import CloudControl.Proofs.Json.Strings
import Mathlib.Data.List.Forall2

/-!
# Values are read back as they were printed

What is read back from the printed form of a value is said by recursion on the value (`readBack`,
`parse?_compact_eq`): only numbers may change, and containers must not be nested too deep. Each kind
of value is taken off the front of its form, whatever follows it in an array or object; the
induction is on the value, and the fuel of the reader is measured by the length of the form.

A value without floating-point numbers, whose members stand in the order of their names and which is
not nested too deep, is read back as it is (`parse?_compact`).
-/

namespace CloudControl.Json

open Text

/-- Induction over a value, through the items of arrays and the members of objects. -/
@[elab_as_elim]
theorem induction {motive : Json → Prop} (null : motive .null) (bool : ∀ b, motive (.bool b))
    (number : ∀ n, motive (.number n)) (string : ∀ s, motive (.string s))
    (array : ∀ items, (∀ v ∈ items, motive v) → motive (.array items))
    (object : ∀ members, (∀ m ∈ members, motive m.2) → motive (.object members)) : ∀ v, motive v
  | .null => null
  | .bool b => bool b
  | .number n => number n
  | .string s => string s
  | .array items => array items fun v _ ↦ induction null bool number string array object v
  | .object members => object members fun m _ ↦
      induction null bool number string array object m.2
termination_by v => sizeOf v
decreasing_by
  · have hmem := List.sizeOf_lt_of_mem ‹v ∈ items›
    simp only [Json.array.sizeOf_spec]
    omega
  · have hmember : sizeOf m = 1 + sizeOf m.1 + sizeOf m.2 := rfl
    have hmem := List.sizeOf_lt_of_mem ‹m ∈ members›
    simp only [Json.object.sizeOf_spec]
    omega

/-! ## Values that are printed without loss -/

mutual

/-- A value is printed without loss: its numbers are whole and fit 64 bits, the members of its
objects stand in the order of their names, and containers are nested at most `depth` deep. -/
def isExact (depth : Nat) : Json → Bool
  | null => true
  | bool _ => true
  | string _ => true
  | number (.int i) => decide (Numeral.minSigned 64 ≤ i) && decide (i ≤ Numeral.maxUnsigned 64)
  | number (.float _) => false
  | array items =>
    match depth with
    | 0 => false
    | depth + 1 => itemsAreExact depth items
  | object members =>
    match depth with
    | 0 => false
    | depth + 1 =>
      decide (members.Pairwise fun m n ↦ m.1 < n.1) && membersAreExact depth members

/-- Items are printed without loss. -/
def itemsAreExact (depth : Nat) : List Json → Bool
  | [] => true
  | v :: rest => v.isExact depth && itemsAreExact depth rest

/-- Members are printed without loss. -/
def membersAreExact (depth : Nat) : List (String × Json) → Bool
  | [] => true
  | (_, v) :: rest => v.isExact depth && membersAreExact depth rest

end

section

variable {depth : Nat} {items : List Json} {members : List (String × Json)}

/-- Items are printed without loss if each of them is. -/
theorem itemsAreExact_iff : itemsAreExact depth items = true ↔ ∀ v ∈ items, v.isExact depth := by
  induction items with
  | nil => simp [itemsAreExact]
  | cons v rest ih => simp [itemsAreExact, ih]

/-- Members are printed without loss if the value of each of them is. -/
theorem membersAreExact_iff :
    membersAreExact depth members = true ↔ ∀ m ∈ members, m.2.isExact depth := by
  induction members with
  | nil => simp [membersAreExact]
  | cons m rest ih => simp [membersAreExact, ih]

/-- An array is printed without loss if its items are, one level down. -/
theorem isExact_array_iff :
    (array items).isExact depth = true ↔ ∃ d, depth = d + 1 ∧ ∀ v ∈ items, v.isExact d := by
  cases depth with
  | zero => simp [isExact]
  | succ d => simp [isExact, itemsAreExact_iff]

/-- An object is printed without loss if its members stand in order and their values are printed
without loss, one level down. -/
theorem isExact_object_iff : (object members).isExact depth = true ↔
    ∃ d, depth = d + 1 ∧ Ascending members ∧ ∀ m ∈ members, m.2.isExact d := by
  cases depth with
  | zero => simp [isExact]
  | succ d => simp [isExact, membersAreExact_iff, Ascending]

end

/-- A natural number of at most 64 bits is printed without loss. -/
theorem isExact_ofNat {n : Nat} (h : n ≤ Numeral.maxUnsigned 64) (depth : Nat) :
    (ofNat n).isExact depth = true := by
  have hmin : Numeral.minSigned 64 ≤ (n : Int) := Int.le_trans (by decide) (Int.natCast_nonneg n)
  have hmax : (n : Int) ≤ Numeral.maxUnsigned 64 := by exact_mod_cast h
  rw [ofNat, isExact, decide_eq_true hmin, decide_eq_true hmax]
  rfl

/-! ## What is read back -/

/-- What is read back from the text of a number. -/
def JsonNumber.readBack? (n : JsonNumber) : Option Json :=
  (takeValue 1 0 (numberText n).toList).map Prod.fst

mutual

/-- What is read back from the printed form of a value, if containers may be nested `depth` deep. -/
def readBack (depth : Nat) : Json → Option Json
  | null => some null
  | bool b => some (bool b)
  | string s => some (string s)
  | number n => JsonNumber.readBack? n
  | array items =>
    match depth with
    | 0 => none
    | depth + 1 => (itemsReadBack depth items).map array
  | object members =>
    match depth with
    | 0 => none
    | depth + 1 => (membersReadBack depth members).map ofMembers

/-- What is read back from the printed form of items. -/
def itemsReadBack (depth : Nat) : List Json → Option (List Json)
  | [] => some []
  | v :: rest => (v.readBack depth).bind fun w ↦ (itemsReadBack depth rest).map (w :: ·)

/-- What is read back from the printed form of members. -/
def membersReadBack (depth : Nat) : List (String × Json) → Option (List (String × Json))
  | [] => some []
  | (name, v) :: rest =>
    (v.readBack depth).bind fun w ↦ (membersReadBack depth rest).map ((name, w) :: ·)

end

section

variable {depth : Nat}

/-- Items are read back one by one. -/
theorem itemsReadBack_eq_some_iff {items others : List Json} :
    itemsReadBack depth items = some others ↔
      List.Forall₂ (fun v w ↦ v.readBack depth = some w) items others := by
  induction items generalizing others with
  | nil => cases others <;> simp [itemsReadBack]
  | cons v rest ih =>
    rw [itemsReadBack, Option.bind_eq_some_iff]
    constructor
    · rintro ⟨w, hw, hrest⟩
      obtain ⟨ws, hws, rfl⟩ := Option.map_eq_some_iff.mp hrest
      exact .cons hw (ih.mp hws)
    · rintro (_ | ⟨hw, hws⟩)
      exact ⟨_, hw, by rw [ih.mpr hws, Option.map_some]⟩

/-- Members are read back one by one, under their names. -/
theorem membersReadBack_eq_some_iff {members others : List (String × Json)} :
    membersReadBack depth members = some others ↔
      List.Forall₂ (fun m n ↦ m.1 = n.1 ∧ m.2.readBack depth = some n.2) members others := by
  induction members generalizing others with
  | nil => cases others <;> simp [membersReadBack]
  | cons m rest ih =>
    rw [membersReadBack, Option.bind_eq_some_iff]
    constructor
    · rintro ⟨w, hw, hrest⟩
      obtain ⟨ws, hws, rfl⟩ := Option.map_eq_some_iff.mp hrest
      exact .cons ⟨rfl, hw⟩ (ih.mp hws)
    · rintro (_ | ⟨⟨hname, hw⟩, hws⟩)
      exact ⟨_, hw, by rw [ih.mpr hws, Option.map_some, hname]⟩

end

/-! ## Members in order -/

/-- A member with a later name is set behind all others. -/
theorem insertMember_of_last {α : Type} {name : String} {members : List (String × α)}
    (h : ∀ m ∈ members, m.1 < name) (value : α) :
    insertMember name value members = members ++ [(name, value)] := by
  induction members with
  | nil => rfl
  | cons m rest ih =>
    obtain ⟨n, v⟩ := m
    obtain ⟨hfirst, hrest⟩ := List.forall_mem_cons.mp h
    have hafter : ¬ name < n := fun hbefore ↦ String.lt_irrefl n (String.lt_trans hfirst hbefore)
    have hother : name ≠ n := fun heq ↦ String.lt_irrefl n (heq ▸ hfirst)
    rw [insertMember, if_neg hafter, if_neg hother, ih hrest, List.cons_append]

/-- Members that stand in order are left as they are. -/
theorem sortMembers_of_ascending {α : Type} {members : List (String × α)} (h : Ascending members) :
    sortMembers members = members := by
  have hfold : ∀ start, Ascending (start ++ members) →
      members.foldl (fun sorted m ↦ insertMember m.1 m.2 sorted) start = start ++ members := by
    clear h
    induction members with
    | nil => exact fun start _ ↦ (List.append_nil start).symm
    | cons m rest ih =>
      intro start hstart
      have hbefore : ∀ n ∈ start, n.1 < m.1 := fun n hn ↦
        (List.pairwise_append.mp hstart).2.2 n hn m List.mem_cons_self
      rw [List.append_cons] at hstart ⊢
      rw [List.foldl_cons, insertMember_of_last hbefore, ih _ hstart]
  exact hfold [] h

/-! ## Printed forms -/

/-- A digit is no blank. -/
theorem isSpace_of_isDigit {c : Char} (h : isDigit c = true) : isSpace c = false := by
  have hbounds := (isDigit_iff c).mp h
  simp only [isSpace, Bool.or_eq_false_iff, beq_eq_false_iff_ne]
  refine ⟨⟨⟨?_, ?_⟩, ?_⟩, ?_⟩ <;>
    (rintro rfl; exact absurd hbounds (by decide))

/-- A digit is no bracket. -/
theorem ne_bracket_of_isDigit {c : Char} (h : isDigit c = true) : c ≠ ']' := by
  rintro rfl
  exact absurd h (by decide)

/-- A character other than a blank is not skipped. -/
theorem skip_cons {c : Char} (h : isSpace c = false) (cs : List Char) : skip (c :: cs) = c :: cs :=
  List.dropWhile_cons_of_neg (by rw [h]; exact Bool.false_ne_true)

/-- The printed form of a string. -/
theorem toList_quote (s : String) :
    (quote s).toList = '"' :: (s.toList.flatMap escapeChar ++ ['"']) := by
  rw [quote, String.toList_ofList, List.cons_append]

/-- The printed form of an array. -/
theorem toList_compact_array (items : List Json) :
    (array items).compact.toList = '[' :: ((compactItems items).toList ++ [']']) := by
  rw [compact, String.toList_append, String.toList_append]
  rfl

/-- The printed form of an object. -/
theorem toList_compact_object (members : List (String × Json)) :
    (object members).compact.toList = '\x7b' :: ((compactMembers members).toList ++ ['\x7d']) := by
  rw [compact, String.toList_append, String.toList_append]
  rfl

/-- The printed form of several items. -/
theorem toList_compactItems_cons (v w : Json) (rest : List Json) :
    (compactItems (v :: w :: rest)).toList =
      v.compact.toList ++ ',' :: (compactItems (w :: rest)).toList := by
  rw [compactItems, String.toList_append, String.toList_append, List.append_assoc]
  · rfl
  · exact List.cons_ne_nil w rest

/-- The printed form of one member. -/
theorem toList_compactMembers_single (name : String) (v : Json) :
    (compactMembers [(name, v)]).toList = (quote name).toList ++ ':' :: v.compact.toList := by
  rw [compactMembers, String.toList_append, String.toList_append, List.append_assoc]
  rfl

/-- The printed form of several members. -/
theorem toList_compactMembers_cons (name : String) (v : Json) (m : String × Json)
    (rest : List (String × Json)) :
    (compactMembers ((name, v) :: m :: rest)).toList = (quote name).toList ++
      ':' :: (v.compact.toList ++ ',' :: (compactMembers (m :: rest)).toList) := by
  rw [compactMembers]
  · simp only [String.toList_append, List.append_assoc]
    rfl
  · exact List.cons_ne_nil m rest

/-- The text of a number starts with a digit or a minus sign, or is the word for null. -/
theorem numberText_cases (n : JsonNumber) :
    (∃ c cs, (numberText n).toList = c :: cs ∧ (isDigit c = true ∨ c = '-')) ∨
      numberText n = "null" := by
  cases n with
  | int i =>
    cases i with
    | ofNat n =>
      obtain ⟨c, cs, hchars, hdigit⟩ := exists_ofNat_eq_cons n
      exact .inl ⟨c, cs, hchars, .inl hdigit⟩
    | negSucc n => exact .inl ⟨'-', _, numberText_negSucc n, .inr rfl⟩
  | float x =>
    rw [numberText]
    split
    · obtain ⟨cs, hdecimal, htext⟩ := exists_isDecimal_jsonText x
      obtain ⟨c, rest, hchars, hdigit⟩ := hdecimal.exists_eq_cons
      rcases htext with htext | htext
      · exact .inl ⟨c, rest, htext.trans hchars, .inl hdigit⟩
      · exact .inl ⟨'-', cs, htext, .inr rfl⟩
    · exact .inr rfl

/-- The printed form of a value starts neither with a blank nor with the end of an array. -/
theorem exists_compact_eq_cons (v : Json) :
    ∃ c cs, v.compact.toList = c :: cs ∧ isSpace c = false ∧ c ≠ ']' := by
  cases v with
  | null => exact ⟨'n', _, rfl, rfl, by decide⟩
  | bool b => cases b <;> exact ⟨_, _, rfl, rfl, by decide⟩
  | number n =>
    rw [compact]
    rcases numberText_cases n with ⟨c, cs, hchars, hdigit | rfl⟩ | htext
    · exact ⟨c, cs, hchars, isSpace_of_isDigit hdigit, ne_bracket_of_isDigit hdigit⟩
    · exact ⟨'-', cs, hchars, rfl, by decide⟩
    · rw [htext]
      exact ⟨'n', _, rfl, rfl, by decide⟩
  | string s => exact ⟨'"', _, toList_quote s, rfl, by decide⟩
  | array items => exact ⟨'[', _, toList_compact_array items, rfl, by decide⟩
  | object members => exact ⟨'\x7b', _, toList_compact_object members, rfl, by decide⟩

/-- The printed form of items starts like that of the first. -/
theorem exists_compactItems_eq_append (v : Json) (rest : List Json) :
    ∃ tail, (compactItems (v :: rest)).toList = v.compact.toList ++ tail := by
  cases rest with
  | nil => exact ⟨[], by rw [compactItems, List.append_nil]⟩
  | cons w rest => exact ⟨_, toList_compactItems_cons v w rest⟩

/-- The printed form of members starts with a quote. -/
theorem exists_compactMembers_eq_cons (m : String × Json) (rest : List (String × Json)) :
    ∃ tail, (compactMembers (m :: rest)).toList = '"' :: tail := by
  obtain ⟨name, v⟩ := m
  cases rest with
  | nil => exact ⟨_, by rw [toList_compactMembers_single, toList_quote, List.cons_append]⟩
  | cons n rest => exact ⟨_, by rw [toList_compactMembers_cons, toList_quote, List.cons_append]⟩

/-! ## Reading printed forms -/

/-- What is read back from a value is taken off the front of its printed form, whatever follows
it. -/
def IsTaken (v : Json) : Prop :=
  ∀ {depth fuel : Nat} {rest : List Char}, Stops rest →
    2 * v.compact.toList.length ≤ fuel + 1 →
      takeValue fuel depth (v.compact.toList ++ rest) = (v.readBack depth).map (·, rest)

section

variable {depth fuel : Nat} {rest : List Char}

/-- Items are taken off the front of their printed form, with the bracket behind them. -/
theorem takeItems_compactItems {items : List Json} (htaken : ∀ v ∈ items, v.IsTaken)
    (hne : items ≠ []) (hfuel : 2 * (compactItems items).toList.length ≤ fuel) :
    takeItems fuel depth ((compactItems items).toList ++ ']' :: rest) =
      (itemsReadBack depth items).map (·, rest) := by
  induction items generalizing fuel with
  | nil => exact absurd rfl hne
  | cons v others ih =>
    obtain ⟨hfirst, hothers⟩ := List.forall_mem_cons.mp htaken
    cases others with
    | nil =>
      obtain ⟨c, cs, hchars, _⟩ := exists_compact_eq_cons v
      have hpositive : 0 < v.compact.toList.length := by rw [hchars]; exact Nat.succ_pos _
      rw [compactItems] at hfuel ⊢
      obtain ⟨fuel, rfl⟩ : ∃ f, fuel = f + 1 := ⟨fuel - 1, by omega⟩
      rw [takeItems, hfirst (stops_cons_bracket rest) (by omega), itemsReadBack]
      cases v.readBack depth <;> rfl
    | cons w ws =>
      rw [toList_compactItems_cons, List.length_append, List.length_cons] at hfuel
      obtain ⟨fuel, rfl⟩ : ∃ f, fuel = f + 1 := ⟨fuel - 1, by omega⟩
      rw [toList_compactItems_cons, List.append_assoc, takeItems, List.cons_append,
        hfirst (stops_cons_comma _) (by omega), itemsReadBack]
      cases v.readBack depth with
      | none => rfl
      | some v' =>
        show (takeItems fuel depth _).bind _ = _
        rw [ih hothers (List.cons_ne_nil w ws) (by omega), Option.bind_some]
        cases itemsReadBack depth (w :: ws) <;> rfl

/-- The name of a member is taken, with the colon behind it. -/
theorem takeName_quote (name : String) :
    takeName ((quote name).toList ++ ':' :: rest) = some (name, rest) := by
  rw [toList_quote, List.cons_append, List.append_assoc, takeName, skip_cons rfl]
  show (takeString (_ ++ '"' :: ':' :: rest)).bind _ = _
  rw [takeString_escaped]
  rfl

/-- Members are taken off the front of their printed form, with the brace behind them. -/
theorem takeMembers_compactMembers {members : List (String × Json)}
    (htaken : ∀ m ∈ members, m.2.IsTaken) (hne : members ≠ [])
    (hfuel : 2 * (compactMembers members).toList.length ≤ fuel) :
    takeMembers fuel depth ((compactMembers members).toList ++ '\x7d' :: rest) =
      (membersReadBack depth members).map (·, rest) := by
  induction members generalizing fuel with
  | nil => exact absurd rfl hne
  | cons m others ih =>
    obtain ⟨name, v⟩ := m
    have hfirst : v.IsTaken := htaken _ List.mem_cons_self
    have hothers := (List.forall_mem_cons.mp htaken).2
    cases others with
    | nil =>
      rw [toList_compactMembers_single, List.length_append, List.length_cons] at hfuel
      obtain ⟨fuel, rfl⟩ : ∃ f, fuel = f + 1 := ⟨fuel - 1, by omega⟩
      rw [toList_compactMembers_single, List.append_assoc, List.cons_append, takeMembers,
        takeName_quote, membersReadBack]
      show (takeValue fuel depth _).bind _ = _
      rw [hfirst (stops_cons_brace rest) (by omega)]
      cases v.readBack depth <;> rfl
    | cons n ns =>
      rw [toList_compactMembers_cons, List.length_append, List.length_cons, List.length_append,
        List.length_cons] at hfuel
      obtain ⟨fuel, rfl⟩ : ∃ f, fuel = f + 1 := ⟨fuel - 1, by omega⟩
      rw [toList_compactMembers_cons, List.append_assoc, List.cons_append, takeMembers,
        takeName_quote, membersReadBack]
      show (takeValue fuel depth _).bind _ = _
      rw [List.append_assoc, List.cons_append, hfirst (stops_cons_comma _) (by omega)]
      cases v.readBack depth with
      | none => rfl
      | some v' =>
        show (takeMembers fuel depth _).bind _ = _
        rw [ih hothers (List.cons_ne_nil n ns) (by omega), Option.bind_some]
        cases membersReadBack depth (n :: ns) <;> rfl

end

/-- An array is taken if its items are. -/
theorem isTaken_array {items : List Json} (h : ∀ v ∈ items, v.IsTaken) :
    (array items).IsTaken := by
  intro depth fuel rest _ hfuel
  rw [toList_compact_array, List.length_cons, List.length_append] at hfuel
  obtain ⟨fuel, rfl⟩ : ∃ f, fuel = f + 1 := ⟨fuel - 1, by omega⟩
  rw [toList_compact_array, List.cons_append, List.append_assoc, List.singleton_append, takeValue,
    skip_cons rfl]
  cases depth with
  | zero => rfl
  | succ depth =>
    cases items with
    | nil => rfl
    | cons v others =>
      have htaken : takeItems fuel depth ((compactItems (v :: others)).toList ++ ']' :: rest) =
          (itemsReadBack depth (v :: others)).map (·, rest) :=
        takeItems_compactItems h (List.cons_ne_nil v others) (by omega)
      -- The first character decides that the array is not empty.
      obtain ⟨c, cs, hchars, hspace, hother⟩ := exists_compact_eq_cons v
      obtain ⟨tail, htail⟩ := exists_compactItems_eq_append v others
      rw [htail, hchars, List.cons_append, List.cons_append] at htaken ⊢
      simp only [skip_cons hspace]
      split
      · next heq => exact absurd (List.cons.inj heq).1 hother
      · rw [htaken, readBack]
        cases itemsReadBack depth (v :: others) <;> rfl

/-- An object is taken if the values of its members are. -/
theorem isTaken_object {members : List (String × Json)} (h : ∀ m ∈ members, m.2.IsTaken) :
    (object members).IsTaken := by
  intro depth fuel rest _ hfuel
  rw [toList_compact_object, List.length_cons, List.length_append] at hfuel
  obtain ⟨fuel, rfl⟩ : ∃ f, fuel = f + 1 := ⟨fuel - 1, by omega⟩
  rw [toList_compact_object, List.cons_append, List.append_assoc, List.singleton_append, takeValue,
    skip_cons rfl]
  cases depth with
  | zero => rfl
  | succ depth =>
    cases members with
    | nil => rfl
    | cons m others =>
      have htaken : takeMembers fuel depth
          ((compactMembers (m :: others)).toList ++ '\x7d' :: rest) =
            (membersReadBack depth (m :: others)).map (·, rest) :=
        takeMembers_compactMembers h (List.cons_ne_nil m others) (by omega)
      obtain ⟨tail, htail⟩ := exists_compactMembers_eq_cons m others
      rw [htail, List.cons_append] at htaken ⊢
      show (takeMembers fuel depth _).map _ = _
      rw [htaken, readBack]
      cases membersReadBack depth (m :: others) <;> rfl

/-- A fixed word is taken. -/
theorem takeWord_append (word : List Char) (value : Json) (rest : List Char) :
    takeWord word value (word ++ rest) = some (value, rest) := by
  rw [takeWord, if_pos, List.drop_left]
  rw [List.isPrefixOf_iff_prefix]
  exact List.prefix_append word rest

/-- A text that starts with a digit or a minus sign is one of a number. -/
theorem takeValue_eq_takeNumber {c : Char} (hc : isDigit c = true ∨ c = '-') (fuel depth : Nat)
    (cs : List Char) :
    takeValue (fuel + 1) depth (c :: cs) = (takeNumber (c :: cs)).map fun taken ↦
      (number taken.1, taken.2) := by
  have hspace : isSpace c = false := by
    rcases hc with hdigit | rfl
    · exact isSpace_of_isDigit hdigit
    · rfl
  have hother : ∀ d ∈ ['n', 't', 'f', '"', '[', '\x7b'], c ≠ d := by
    rintro d hd rfl
    rcases hc with hdigit | rfl
    · have hnone : (['n', 't', 'f', '"', '[', '\x7b'].all fun d ↦ !isDigit d) = true := by decide
      have hnot := List.all_eq_true.mp hnone c hd
      rw [hdigit] at hnot
      cases hnot
    · exact absurd hd (by decide)
  rw [takeValue, skip_cons hspace]
  split
  iterate 6 next heq => exact absurd (List.cons.inj heq).1 (hother _ (by decide))
  rfl

/-- All of the text of a number is taken. -/
theorem left_of_takeNumber_numberText {n m : JsonNumber} {left : List Char}
    (htext : numberText n ≠ "null") (h : takeNumber (numberText n).toList = some (m, left)) :
    left = [] := by
  cases n with
  | int i =>
    rw [takeNumber_numberText_int] at h
    obtain ⟨_, _, heq⟩ := Option.map_eq_some_iff.mp h
    cases heq
    rfl
  | float x =>
    rw [numberText] at h htext
    split at h
    · exact (takeNumber_jsonText h).1
    · next hfinite =>
      rw [if_neg hfinite] at htext
      exact absurd rfl htext

/-- A number is taken. -/
theorem isTaken_number (n : JsonNumber) : (number n).IsTaken := by
  intro depth fuel rest hstops hfuel
  rw [compact] at hfuel ⊢
  rw [readBack, JsonNumber.readBack?]
  rcases numberText_cases n with ⟨c, cs, hchars, hfirst⟩ | htext
  · have hnotNull : numberText n ≠ "null" := by
      intro htext
      rw [htext] at hchars
      rw [← (List.cons.inj hchars).1] at hfirst
      exact absurd hfirst (by decide)
    have hleft : ∀ m left, takeNumber (numberText n).toList = some (m, left) → left = [] :=
      fun _ _ ↦ left_of_takeNumber_numberText hnotNull
    rw [hchars, List.length_cons] at hfuel
    obtain ⟨fuel, rfl⟩ : ∃ f, fuel = f + 1 := ⟨fuel - 1, by omega⟩
    rw [hchars] at hleft ⊢
    rw [List.cons_append, takeValue_eq_takeNumber hfirst, takeValue_eq_takeNumber hfirst,
      ← List.cons_append, takeNumber_append hstops]
    rcases htaken : takeNumber (c :: cs) with _ | ⟨m, left⟩
    · rfl
    · rw [hleft m left htaken]
      rfl
  · rw [htext] at hfuel ⊢
    obtain ⟨fuel, rfl⟩ : ∃ f, fuel = f + 1 := ⟨fuel - 1, by
      have hlength : "null".toList.length = 4 := rfl
      omega⟩
    exact takeWord_append ['u', 'l', 'l'] null rest

/-- Every value is taken off the front of its printed form, as what is read back from it. -/
theorem isTaken (v : Json) : v.IsTaken := by
  induction v using Json.induction with
  | null =>
    intro depth fuel rest _ hfuel
    obtain ⟨fuel, rfl⟩ : ∃ f, fuel = f + 1 := ⟨fuel - 1, by
      have hlength : null.compact.toList.length = 4 := rfl
      omega⟩
    exact takeWord_append ['u', 'l', 'l'] null rest
  | bool b =>
    intro depth fuel rest _ hfuel
    obtain ⟨fuel, rfl⟩ : ∃ f, fuel = f + 1 := ⟨fuel - 1, by
      have hlength : 4 ≤ (bool b).compact.toList.length := by cases b <;> decide
      omega⟩
    cases b with
    | false => exact takeWord_append ['a', 'l', 's', 'e'] (bool false) rest
    | true => exact takeWord_append ['r', 'u', 'e'] (bool true) rest
  | number n => exact isTaken_number n
  | string s =>
    intro depth fuel rest _ hfuel
    rw [compact, toList_quote, List.length_cons] at hfuel
    obtain ⟨fuel, rfl⟩ : ∃ f, fuel = f + 1 := ⟨fuel - 1, by omega⟩
    rw [compact, toList_quote, List.cons_append, List.append_assoc, takeValue, skip_cons rfl]
    show (takeString (_ ++ '"' :: rest)).map _ = _
    rw [takeString_escaped, Option.map_some]
    rfl
  | array items ih => exact isTaken_array ih
  | object members ih => exact isTaken_object ih

/-- What is read from the printed form of a value. -/
theorem parse?_compact_eq (v : Json) : parse? v.compact = v.readBack maxDepth := by
  have hstops : Stops [] := nofun
  have htaken : takeValue _ maxDepth (v.compact.toList ++ []) = _ :=
    v.isTaken hstops (Nat.le_add_right (2 * v.compact.toList.length) 2)
  rw [List.append_nil] at htaken
  rw [parse?]
  simp only [htaken, Option.bind_eq_bind]
  cases v.readBack maxDepth <;> rfl

/-! ## Values that are read back as they are -/

/-- A value that is printed without loss is what is read back from it. -/
theorem readBack_of_isExact {depth : Nat} {v : Json} (h : v.isExact depth = true) :
    v.readBack depth = some v := by
  induction v using Json.induction generalizing depth with
  | null | bool | string => rfl
  | number n =>
    cases n with
    | float x => cases h
    | int i =>
      rw [isExact, Bool.and_eq_true, decide_eq_true_eq, decide_eq_true_eq] at h
      rcases numberText_cases (.int i) with ⟨c, cs, hchars, hfirst⟩ | htext
      · rw [readBack, JsonNumber.readBack?, hchars, takeValue_eq_takeNumber hfirst, ← hchars,
          takeNumber_int h.1 h.2]
        rfl
      · have htaken := takeNumber_int h.1 h.2
        rw [htext] at htaken
        cases htaken
  | array items ih =>
    obtain ⟨depth, rfl, hitems⟩ := isExact_array_iff.mp h
    have hback : itemsReadBack depth items = some items :=
      itemsReadBack_eq_some_iff.mpr (List.forall₂_same.mpr fun v hv ↦ ih v hv (hitems v hv))
    rw [readBack, hback, Option.map_some]
  | object members ih =>
    obtain ⟨depth, rfl, hascending, hmembers⟩ := isExact_object_iff.mp h
    have hback : membersReadBack depth members = some members :=
      membersReadBack_eq_some_iff.mpr
        (List.forall₂_same.mpr fun m hm ↦ ⟨rfl, ih m hm (hmembers m hm)⟩)
    rw [readBack, hback, Option.map_some, ofMembers, sortMembers_of_ascending hascending]

/-- A value that is printed without loss is read back. -/
theorem parse?_compact {v : Json} (h : v.isExact maxDepth = true) : parse? v.compact = some v := by
  rw [parse?_compact_eq, readBack_of_isExact h]

end CloudControl.Json
