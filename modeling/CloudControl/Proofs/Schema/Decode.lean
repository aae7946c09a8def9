import CloudControl.Proofs.Except
import CloudControl.Proofs.Lists
import CloudControl.Schema.Record

/-!
# Reading field by field

A list is read just if every item is (`Kind.decode_array_iff`), and a record just if every field
is, each from the member of its name or from the absence of one (`Kind.decode_object_iff`). Which
of several errors is reported plays no part in this. `Kind.induction` is the induction over kinds
that goes through the fields of records.
-/

namespace CloudControl.Schema

/-- Induction over a kind, through the items of lists and the fields of records. -/
@[elab_as_elim]
theorem Kind.induction {motive : Kind → Prop} (text : motive .text)
    (optionalText : ∀ o, motive (.optionalText o)) (scalar : ∀ s, motive (.scalar s))
    (time : motive .time) (choice : ∀ e o, motive (.choice e o)) (code : ∀ e, motive (.code e))
    (optionalCode : ∀ e, motive (.optionalCode e)) (raw : motive .raw)
    (list : ∀ item, motive item → motive (.list item))
    (record : ∀ name fields, (∀ f ∈ fields, motive f.2) → motive (.record name fields)) :
    ∀ k, motive k
  | .text => text
  | .optionalText o => optionalText o
  | .scalar s => scalar s
  | .time => time
  | .choice e o => choice e o
  | .code e => code e
  | .optionalCode e => optionalCode e
  | .raw => raw
  | .list item => list item (Kind.induction text optionalText scalar time choice code optionalCode
      raw list record item)
  | .record name fields => record name fields fun f _ ↦
      Kind.induction text optionalText scalar time choice code optionalCode raw list record f.2
termination_by k => sizeOf k
decreasing_by
  · simp only [Kind.list.sizeOf_spec]
    omega
  · have hfield : sizeOf f = 1 + sizeOf f.1 + sizeOf f.2 := rfl
    have hmem := List.sizeOf_lt_of_mem ‹f ∈ fields›
    simp only [Kind.record.sizeOf_spec]
    omega

/-! ## Fields -/

namespace Kind

/-- A field is read as a value from the member of its name, or from the absence of one. -/
def Reads (k : Kind) (found : Option Json) (v : Value) : Prop :=
  match found with
  | some j => k.decode j = .ok v
  | none => k.absent? = some v

/-- The value is one that a field can be read as. -/
def Yields (k : Kind) (v : Value) : Prop :=
  ∃ found, k.Reads found v

/-- The outcome of reading a field of an object. -/
def outcome (k : Kind) : Option Json → FieldOutcome
  | some j => .ofExcept (k.decode j)
  | none => .ofAbsent k.absent?

/-- The outcome of reading a field of an array. -/
def elementOutcome (k : Kind) : Option Json → FieldOutcome
  | some j => .ofExcept (k.decode j)
  | none => .ofAbsent k.absentElement?

/-- A field of an object is read just if its outcome is a value. -/
theorem outcome_eq_read_iff {k : Kind} {found : Option Json} {v : Value} :
    k.outcome found = .read v ↔ k.Reads found v := by
  cases found with
  | some j => cases h : k.decode j <;> simp [outcome, FieldOutcome.ofExcept, Reads, h]
  | none => cases h : k.absent? <;> simp [outcome, FieldOutcome.ofAbsent, Reads, h]

/-- What an array may leave out, an object may leave out with the same value. -/
theorem absent?_of_absentElement? {k : Kind} {v : Value} (h : k.absentElement? = some v) :
    k.absent? = some v := by
  unfold absentElement? at h
  split at h
  · cases h
  · cases h
  · exact h

/-- A field of an array is read as a field of an object would be. -/
theorem reads_of_elementOutcome {k : Kind} {found : Option Json} {v : Value}
    (h : k.elementOutcome found = .read v) : k.Reads found v := by
  cases found with
  | some j => exact outcome_eq_read_iff.mp h
  | none =>
    cases habsent : k.absentElement? with
    | none =>
      rw [elementOutcome, habsent] at h
      cases h
    | some w =>
      rw [elementOutcome, habsent] at h
      cases h
      exact absent?_of_absentElement? habsent

end Kind

/-- The outcomes of the fields of a record are those of its members. -/
theorem decodeFields_eq_map (fields : List (String × Kind)) (members : List (String × Json)) :
    decodeFields fields members =
      fields.map fun f ↦ (f.1, f.2.outcome (members.lookup f.1)) := by
  induction fields with
  | nil => rfl
  | cons f rest ih =>
    obtain ⟨name, k⟩ := f
    rw [decodeFields, ih, List.map_cons]
    cases members.lookup name <;> rfl

/-- The outcomes of the fields of a record that has been read. -/
def Record.outcomes (r : Record) : List (String × FieldOutcome) :=
  r.map fun f ↦ (f.1, .read f.2)

/-- The fields that were read are all of them, if there is no error. -/
theorem collectRead_eq_ok_iff {outcomes : List (String × FieldOutcome)} {r : Record} :
    collectRead outcomes = .ok r ↔ outcomes = r.outcomes := by
  induction outcomes generalizing r with
  | nil =>
    rw [collectRead, Except.ok.injEq, eq_comm, Record.outcomes, eq_comm (a := []),
      List.map_eq_nil_iff]
  | cons o rest ih =>
    rw [Record.outcomes, eq_comm (a := o :: rest), List.map_eq_cons_iff]
    obtain ⟨name, v | e | _⟩ := o
    · rw [collectRead, bind_eq_ok_iff]
      constructor
      · rintro ⟨fields, hrest, h⟩
        exact ⟨(name, v), fields, (Except.ok.inj h).symm, rfl, (ih.mp hrest).symm⟩
      · rintro ⟨f, fields, rfl, hfirst, hrest⟩
        cases hfirst
        exact ⟨fields, ih.mpr hrest.symm, rfl⟩
    · exact ⟨nofun, fun ⟨_, _, _, hfirst, _⟩ ↦ absurd (congrArg Prod.snd hfirst) nofun⟩
    · exact ⟨nofun, fun ⟨_, _, _, hfirst, _⟩ ↦ absurd (congrArg Prod.snd hfirst) nofun⟩

/-- No field is bad where all are read. -/
theorem firstBad?_outcomes (r : Record) : firstBad? r.outcomes = none := by
  induction r with
  | nil => rfl
  | cons f rest ih => exact ih

/-- A record is assembled just from fields that are all read. -/
theorem assemble_eq_ok_iff {outcomes : List (String × FieldOutcome)} {r : Record} :
    assemble outcomes = .ok r ↔ outcomes = r.outcomes := by
  rw [← collectRead_eq_ok_iff, assemble]
  constructor
  · intro h
    split at h
    · cases h
    · exact h
  · intro h
    rw [collectRead_eq_ok_iff.mp h, firstBad?_outcomes]
    exact collectRead_eq_ok_iff.mpr rfl

/-- The fields of a record are those of some outcomes just if each outcome is its value. -/
theorem map_eq_outcomes_iff {α : Type} {xs : List α} {name : α → String} {o : α → FieldOutcome}
    {r : Record} : xs.map (fun x ↦ (name x, o x)) = r.outcomes ↔
      List.Forall₂ (fun x f ↦ name x = f.1 ∧ o x = .read f.2) xs r := by
  rw [Record.outcomes, ← List.forall₂_eq_eq_eq, List.forall₂_map_left_iff,
    List.forall₂_map_right_iff]
  simp only [Prod.mk.injEq]

namespace Kind

variable {name : String} {fields : List (String × Kind)} {item : Kind} {v : Value}

/-- An object is read as a record just if each field is read, from the member of its name or from
the absence of one. -/
theorem decode_object_iff {members : List (String × Json)} :
    (Kind.record name fields).decode (.object members) = .ok v ↔
      ∃ r : Record, v = .record r ∧
        List.Forall₂ (fun f x ↦ f.1 = x.1 ∧ f.2.Reads (members.lookup f.1) x.2) fields r := by
  rw [decode, decodeFields_eq_map]
  simp only [← outcome_eq_read_iff, ← map_eq_outcomes_iff, ← assemble_eq_ok_iff]
  cases assemble (fields.map fun f ↦ (f.1, f.2.outcome (members.lookup f.1))) <;>
    simp [Except.map, eq_comm]

/-- An object can be read as a record just if each field can be read. -/
theorem exists_decode_object_iff {members : List (String × Json)} :
    (∃ v, (Kind.record name fields).decode (.object members) = .ok v) ↔
      ∀ f ∈ fields, ∃ x, f.2.Reads (members.lookup f.1) x := by
  have hfields : (∃ r : Record,
      List.Forall₂ (fun f x ↦ f.1 = x.1 ∧ f.2.Reads (members.lookup f.1) x.2) fields r) ↔
        ∀ f ∈ fields, ∃ x, f.2.Reads (members.lookup f.1) x := by
    rw [exists_forall₂_iff]
    exact forall₂_congr fun f _ ↦
      ⟨fun ⟨x, _, hread⟩ ↦ ⟨x.2, hread⟩, fun ⟨x, hread⟩ ↦ ⟨(f.1, x), rfl, hread⟩⟩
  rw [← hfields]
  constructor
  · rintro ⟨v, h⟩
    obtain ⟨r, _, hr⟩ := decode_object_iff.mp h
    exact ⟨r, hr⟩
  · rintro ⟨r, hr⟩
    exact ⟨.record r, decode_object_iff.mpr ⟨r, rfl, hr⟩⟩

/-- Each field of a record that has been read from an object holds what its member is read as. -/
theorem exists_reads_of_decode {members : List (String × Json)}
    (hnames : (fields.map Prod.fst).Nodup)
    (h : (Kind.record name fields).decode (.object members) = .ok v) {f : String × Kind}
    (hf : f ∈ fields) :
    ∃ x, v.fields.lookup f.1 = some x ∧ f.2.Reads (members.lookup f.1) x := by
  obtain ⟨r, rfl, hr⟩ := decode_object_iff.mp h
  show ∃ x, r.lookup f.1 = some x ∧ f.2.Reads (members.lookup f.1) x
  clear h
  induction hr with
  | nil => exact absurd hf List.not_mem_nil
  | @cons first x fields r hfirst _ ih =>
    obtain ⟨hname, hread⟩ := hfirst
    rw [List.map_cons, List.nodup_cons] at hnames
    rcases List.mem_cons.mp hf with rfl | hf
    · exact ⟨x.2, by rw [hname, List.lookup_cons_self], hread⟩
    · have hne : f.1 ≠ x.1 := fun heq ↦
        hnames.1 (hname ▸ heq ▸ List.mem_map_of_mem hf)
      obtain ⟨y, hlookup, hy⟩ := ih hnames.2 hf
      exact ⟨y, by rw [List.lookup_cons, beq_eq_false_iff_ne.mpr hne, hlookup], hy⟩

/-- An array is read as a list just if each item is read. -/
theorem decode_array_iff {items : List Json} :
    (Kind.list item).decode (.array items) = .ok v ↔
      ∃ vs, v = .list vs ∧ List.Forall₂ (fun j x ↦ item.decode j = .ok x) items vs := by
  rw [decode]
  simp only [← mapM_eq_ok_iff]
  cases items.mapM item.decode <;> simp [Except.map, eq_comm]

/-! ## What is read -/

/-- The outcome of each element of a record is the one of its field. -/
theorem forall₂_decodeElements (fields : List (String × Kind)) (items : List Json) :
    List.Forall₂ (fun f o ↦ f.1 = o.1 ∧ ∃ found, f.2.elementOutcome found = o.2) fields
      (decodeElements fields items) := by
  induction fields generalizing items with
  | nil => exact .nil
  | cons f rest ih =>
    cases items with
    | nil => exact .cons ⟨rfl, none, rfl⟩ (ih [])
    | cons j items => exact .cons ⟨rfl, some j, rfl⟩ (ih items)

/-- A record is assembled just from elements that are all read. -/
theorem outcomes_of_assembleElements {expected : Expected} {position : Nat}
    {outcomes : List (String × FieldOutcome)} {r : Record}
    (h : assembleElements expected position outcomes = .ok r) : outcomes = r.outcomes := by
  induction outcomes generalizing position r with
  | nil =>
    cases h
    rfl
  | cons o rest ih =>
    obtain ⟨name, v | e | _⟩ := o
    · obtain ⟨fields, hrest, h⟩ := bind_eq_ok_iff.mp h
      cases h
      rw [ih hrest]
      rfl
    · cases h
    · cases h

/-- A record is assembled from elements just if all of them are read. -/
theorem assembleElements_eq_ok_iff {expected : Expected} {position : Nat}
    {outcomes : List (String × FieldOutcome)} {r : Record} :
    assembleElements expected position outcomes = .ok r ↔ outcomes = r.outcomes := by
  refine ⟨outcomes_of_assembleElements, ?_⟩
  rintro rfl
  induction r generalizing position with
  | nil => rfl
  | cons f rest ih =>
    show (assembleElements expected (position + 1) (Record.outcomes rest)).bind _ = _
    rw [ih]
    rfl

/-- An array is read as a record just if it has no more elements than there are fields, and each
field is read from the element at its place, or may be left out of an array. -/
theorem decode_elements_iff {elements : List Json} :
    (Kind.record name fields).decode (.array elements) = .ok v ↔
      elements.length ≤ fields.length ∧
        ∃ r : Record, v = .record r ∧ decodeElements fields elements = r.outcomes := by
  rw [decode, map_eq_ok_iff]
  constructor
  · rintro ⟨r, hread, rfl⟩
    obtain ⟨r', helements, hlength⟩ := bind_eq_ok_iff.mp hread
    unfold checkLength at hlength
    split at hlength <;> cases hlength
    next hcount => exact ⟨hcount, r, rfl, assembleElements_eq_ok_iff.mp helements⟩
  · rintro ⟨hcount, r, rfl, hread⟩
    refine ⟨r, bind_eq_ok_iff.mpr ⟨r, assembleElements_eq_ok_iff.mpr hread, ?_⟩, rfl⟩
    exact if_pos hcount

/-- An array need not have an element for each field, but a text must have one even where null
stands for none. -/
example : (Kind.record "OsType" [("id", .text), ("description", .optionalText .fromObjects)]).decode
    (.array [.string "os-9"]) = .error (.wrongLength 1 (.elements "OsType" 2)) := rfl

/-- The outcome of a field of an array is the one of the element at its position. -/
theorem getElem?_decodeElements (fields : List (String × Kind)) (elements : List Json) (i : Nat) :
    (decodeElements fields elements)[i]? =
      fields[i]?.map fun f ↦ (f.1, f.2.elementOutcome elements[i]?) := by
  induction fields generalizing elements i with
  | nil => rfl
  | cons f rest ih =>
    cases elements with
    | nil =>
      cases i with
      | zero => rfl
      | succ i => simpa [decodeElements] using ih [] i
    | cons j elements =>
      cases i with
      | zero => rfl
      | succ i => simpa [decodeElements] using ih elements i

/-- Each field of a record that has been read from an array holds what the element at its position
is read as. -/
theorem exists_reads_of_decode_array {elements : List Json} (hnames : (fields.map Prod.fst).Nodup)
    (h : (Kind.record name fields).decode (.array elements) = .ok v) {i : Nat}
    {f : String × Kind} (hf : fields[i]? = some f) :
    ∃ x, v.fields.lookup f.1 = some x ∧ f.2.Reads elements[i]? x := by
  obtain ⟨-, r, rfl, houtcomes⟩ := decode_elements_iff.mp h
  have hat : r.outcomes[i]? = some (f.1, f.2.elementOutcome elements[i]?) := by
    rw [← houtcomes, getElem?_decodeElements, hf]
    rfl
  rw [Record.outcomes, List.getElem?_map, Option.map_eq_some_iff] at hat
  obtain ⟨x, hx, heq⟩ := hat
  rw [Prod.mk.injEq] at heq
  obtain ⟨hname, hvalue⟩ := heq
  have hrecord : (r.map Prod.fst).Nodup := by
    have hfields : r.map Prod.fst = fields.map Prod.fst := by
      have hmap := congrArg (List.map Prod.fst) houtcomes
      rw [Record.outcomes, List.map_map] at hmap
      refine hmap.symm.trans ?_
      apply List.ext_getElem?
      intro j
      rw [List.getElem?_map, List.getElem?_map, getElem?_decodeElements]
      cases fields[j]? <;> rfl
    rwa [hfields]
  refine ⟨x.2, ?_, reads_of_elementOutcome hvalue.symm⟩
  rw [← hname]
  exact lookup_of_mem hrecord (List.mem_of_getElem? hx)

/-- What stands for a field in what a record is read from: the member of its name, or, in an array,
the element at its position. -/
def found? (name : String) (position : Nat) : Json → Option Json
  | .object members => members.lookup name
  | .array elements => elements[position]?
  | _ => none

/-- Each field of a record that has been read holds the value of what stands for the field. -/
theorem exists_reads_of_decode_at {j : Json} (hnames : (fields.map Prod.fst).Nodup)
    (h : (Kind.record name fields).decode j = .ok v) {i : Nat} {f : String × Kind}
    (hf : fields[i]? = some f) :
    ∃ x, v.fields.lookup f.1 = some x ∧ f.2.Reads (found? f.1 i j) x := by
  cases j with
  | object members => exact exists_reads_of_decode hnames h (List.mem_of_getElem? hf)
  | array elements => exact exists_reads_of_decode_array hnames h hf
  | null | bool | number | string => cases h

/-- What is read as a text of an enumeration is the spelling of a variant, or none. -/
theorem yields_choice {e : TextEnum} {o : Omission} (h : (Kind.choice e o).Yields v) :
    v = .text none ∨ ∃ s, v = .text (some (e.wireOf s)) := by
  obtain ⟨_ | j, h⟩ := h
  · exact .inl (Option.some.inj h).symm
  change e.decode j = .ok v at h
  unfold TextEnum.decode at h
  split at h <;> cases h
  · exact .inl rfl
  · exact .inr ⟨_, rfl⟩
  · exact .inr ⟨_, rfl⟩

/-- What is read as a code that may be missing is a code, or none. -/
theorem yields_optionalCode {e : CodeEnum} (h : (Kind.optionalCode e).Yields v) :
    v = .code none ∨ ∃ j, v = .code (some (e.codeOfJson j)) := by
  obtain ⟨_ | j, h⟩ := h
  · exact .inl (Option.some.inj h).symm
  change Except.ok (Value.code (if j.isNull then none else some (e.codeOfJson j))) = .ok v at h
  split at h <;> cases h
  · exact .inl rfl
  · exact .inr ⟨j, rfl⟩

/-- What is read as a JSON value is one other than null, or none. -/
theorem yields_raw (h : Kind.raw.Yields v) :
    v = .raw none ∨ ∃ j, j.isNull = false ∧ v = .raw (some j) := by
  obtain ⟨_ | j, h⟩ := h
  · exact .inl (Option.some.inj h).symm
  change Except.ok (Value.raw (if j.isNull then none else some j)) = .ok v at h
  split at h
  · cases h
    exact .inl rfl
  · next hnull =>
    cases h
    exact .inr ⟨j, Bool.not_eq_true _ ▸ hnull, rfl⟩

/-- What is read as a list is a list of what its items can be read as. -/
theorem yields_list (h : (Kind.list item).Yields v) :
    ∃ vs, v = .list vs ∧ ∀ x ∈ vs, item.Yields x := by
  obtain ⟨_ | j, h⟩ := h
  · exact ⟨[], (Option.some.inj h).symm, nofun⟩
  cases j with
  | null => exact ⟨[], (Except.ok.inj h).symm, nofun⟩
  | array items =>
    obtain ⟨vs, rfl, hitems⟩ := decode_array_iff.mp h
    refine ⟨vs, rfl, fun x hx ↦ ?_⟩
    obtain ⟨j, hj⟩ := exists_of_mem_right hitems hx
    exact ⟨some j, hj⟩
  | bool | number | string | object => cases h

/-- What is read as a record has the fields of the record, each with what it can be read as. An
array is read as well as an object. -/
theorem yields_record (h : (Kind.record name fields).Yields v) :
    ∃ r : Record, v = .record r ∧ List.Forall₂ (fun f x ↦ f.1 = x.1 ∧ f.2.Yields x.2) fields r := by
  obtain ⟨_ | j, h⟩ := h
  · cases h
  cases j with
  | object members =>
    obtain ⟨r, rfl, hfields⟩ := decode_object_iff.mp h
    exact ⟨r, rfl, hfields.imp fun _ _ hread ↦ ⟨hread.1, _, hread.2⟩⟩
  | array items =>
    obtain ⟨-, r, rfl, hread⟩ := decode_elements_iff.mp h
    have houtcomes := forall₂_decodeElements fields items
    -- The items are read as the fields are, by position in place of by name.
    rw [hread, Record.outcomes, List.forall₂_map_right_iff] at houtcomes
    refine ⟨r, rfl, houtcomes.imp fun f x ↦ ?_⟩
    rintro ⟨hname, found, hfound⟩
    exact ⟨hname, found, reads_of_elementOutcome hfound⟩
  | null | bool | number | string => cases h

end Kind

end CloudControl.Schema
