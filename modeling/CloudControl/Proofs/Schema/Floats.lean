import CloudControl.Proofs.Json.Transfer
import CloudControl.Proofs.Schema.Decode

/-!
# Kinds that hold no floating-point number

A kind without decimals and without values of any form is read in the same way from two values that
differ in nothing but floating-point numbers (`Kind.readsSame_of_ignoresFloats`): to it, one such
number is as good as another. The errors may differ, since they show what was found.
-/

namespace CloudControl.Schema

open Json

mutual

/-- No part of the kind is a floating-point number, or a value of any form. -/
def Kind.ignoresFloats : Kind → Bool
  | .scalar .decimal => false
  | .raw => false
  | .list item => item.ignoresFloats
  | .record _ fields => fieldsIgnoreFloats fields
  | _ => true

/-- No part of a field is a floating-point number, or a value of any form. -/
def fieldsIgnoreFloats : List (String × Kind) → Bool
  | [] => true
  | (_, k) :: rest => k.ignoresFloats && fieldsIgnoreFloats rest

end

/-- Fields ignore floating-point numbers if each of them does. -/
theorem fieldsIgnoreFloats_iff {fields : List (String × Kind)} :
    fieldsIgnoreFloats fields = true ↔ ∀ f ∈ fields, f.2.ignoresFloats = true := by
  induction fields with
  | nil => simp [fieldsIgnoreFloats]
  | cons f rest ih => simp [fieldsIgnoreFloats, ih]

/-! ## Single values -/

section

variable {j j' : Json} (h : SameButFloats j j')

include h

/-- A number other than a decimal and a truth value are read in the same way. -/
theorem Scalar.ofJson_eq_of_sameButFloats {s : Scalar} (hs : s ≠ .decimal) :
    s.ofJson j = s.ofJson j' := by
  cases h with
  | null | bool | string | int | array | object => rfl
  | float x y =>
    cases s with
    | flag | unsigned | signed => rfl
    | decimal => exact absurd rfl hs

/-- A time is read in the same way. -/
theorem timeOfJson_eq_of_sameButFloats : timeOfJson j = timeOfJson j' := by
  cases h <;> rfl

/-- A code is read in the same way. -/
theorem CodeEnum.codeOfJson_eq_of_sameButFloats (e : CodeEnum) :
    e.codeOfJson j = e.codeOfJson j' := by
  cases h <;> rfl

/-- One is null if the other is. -/
theorem isNull_eq_of_sameButFloats : j.isNull = j'.isNull := by
  cases h <;> rfl

/-- A text is read in the same way. -/
theorem decodeText_iff_of_sameButFloats {v : Value} :
    decodeText j = .ok v ↔ decodeText j' = .ok v := by
  cases h with
  | null | bool | string | int => exact Iff.rfl
  | float | array | object => exact ⟨nofun, nofun⟩

/-- A text of an enumeration is read in the same way. -/
theorem TextEnum.decode_iff_of_sameButFloats (e : TextEnum) {v : Value} :
    e.decode j = .ok v ↔ e.decode j' = .ok v := by
  cases h with
  | null | bool | string | int => exact Iff.rfl
  | float | array => exact ⟨nofun, nofun⟩
  | object hnames hvalues =>
    cases hvalues with
    | nil => exact Iff.rfl
    | @cons m n members others hfirst hrest =>
      obtain ⟨name, v⟩ := m
      obtain ⟨other, w⟩ := n
      cases hrest with
      | nil =>
        obtain rfl : name = other := (List.cons.inj hnames).1
        -- An object with one member names a variant if its value is null.
        cases hfirst with
        | null => exact Iff.rfl
        | bool | string | int | float | array | object => exact ⟨nofun, nofun⟩
      | cons =>
        simp only [TextEnum.decode, reduceCtorEq]

end

/-! ## Lists and records -/

/-- The kind is read in the same way from values that differ in nothing but floating-point
numbers. -/
def Kind.ReadsSame (k : Kind) : Prop :=
  ∀ j j' : Json, SameButFloats j j' → ∀ v : Value, k.decode j = .ok v ↔ k.decode j' = .ok v

/-- The outcome of a field that is there is a value just if the field is read as that value. -/
theorem ofExcept_eq_read_iff {x : Except DecodeError Value} {v : Value} :
    FieldOutcome.ofExcept x = .read v ↔ x = .ok v := by
  cases x <;> simp [FieldOutcome.ofExcept]

/-- Elements that are read in the same way one by one are read as the same record. -/
theorem decodeElements_eq_outcomes_iff {fields : List (String × Kind)} {elements others : List Json}
    {r : Record} (h : List.Forall₂ SameButFloats elements others)
    (hsame : ∀ f ∈ fields, f.2.ReadsSame) :
    decodeElements fields elements = r.outcomes ↔ decodeElements fields others = r.outcomes := by
  induction fields generalizing elements others r with
  | nil => exact Iff.rfl
  | cons f rest ih =>
    obtain ⟨hfirst, hrest⟩ := List.forall_mem_cons.mp hsame
    obtain ⟨name, k⟩ := f
    cases h with
    | nil => exact Iff.rfl
    | cons hvalue hvalues =>
      rw [decodeElements, decodeElements]
      cases r with
      | nil => exact iff_of_false (List.cons_ne_nil _ _) (List.cons_ne_nil _ _)
      | cons x r =>
        simp only [Record.outcomes, List.map_cons, List.cons.injEq, Prod.mk.injEq,
          ofExcept_eq_read_iff]
        exact and_congr (and_congr_right fun _ ↦ hfirst _ _ hvalue x.2) (ih hvalues hrest)

namespace Kind

/-- A field is read from what is found in the same way. -/
theorem ReadsSame.reads_iff {k : Kind} (hk : k.ReadsSame) {found other : Option Json}
    (h : Option.Rel SameButFloats found other) {v : Value} : k.Reads found v ↔ k.Reads other v := by
  cases h with
  | none => exact Iff.rfl
  | some hvalue => exact hk _ _ hvalue v

/-- A list is read in the same way if its items are. -/
theorem ReadsSame.list {item : Kind} (hitem : item.ReadsSame) : (Kind.list item).ReadsSame := by
  intro j j' h v
  cases h with
  | null | bool | string | int => exact Iff.rfl
  | float | object => exact iff_of_false (by rintro ⟨⟩) (by rintro ⟨⟩)
  | array hitems =>
    rw [decode_array_iff, decode_array_iff]
    exact exists_congr fun vs ↦ and_congr_right fun _ ↦
      forall₂_congr_left hitems fun j j' hvalue x ↦ hitem j j' hvalue x

/-- A record is read in the same way if its fields are. -/
theorem ReadsSame.record {fields : List (String × Kind)} (name : String)
    (hfields : ∀ f ∈ fields, f.2.ReadsSame) : (Kind.record name fields).ReadsSame := by
  intro j j' h v
  cases h with
  | null | bool | string | int => exact Iff.rfl
  | float => exact iff_of_false (by rintro ⟨⟩) (by rintro ⟨⟩)
  | array hitems =>
    rw [decode_elements_iff, decode_elements_iff, hitems.length_eq]
    exact and_congr_right fun _ ↦ exists_congr fun r ↦ and_congr_right fun _ ↦
      decodeElements_eq_outcomes_iff hitems hfields
  | @object members others hnames hvalues =>
    rw [decode_object_iff, decode_object_iff]
    have hreads : ∀ f ∈ fields, ∀ x,
        f.2.Reads (members.lookup f.1) x ↔ f.2.Reads (others.lookup f.1) x :=
      fun f hf x ↦ (hfields f hf).reads_iff (lookup_of_forall₂ hnames hvalues f.1)
    refine exists_congr fun r ↦ and_congr_right fun _ ↦ ⟨fun hr ↦ ?_, fun hr ↦ ?_⟩
    · exact forall₂_imp_of_mem hr fun f hf x _ hread ↦ ⟨hread.1, (hreads f hf x.2).mp hread.2⟩
    · exact forall₂_imp_of_mem hr fun f hf x _ hread ↦ ⟨hread.1, (hreads f hf x.2).mpr hread.2⟩

/-- A kind that ignores floating-point numbers is read in the same way from values that differ in
nothing else. -/
theorem readsSame_of_ignoresFloats {k : Kind} (hk : k.ignoresFloats = true) : k.ReadsSame := by
  induction k using Kind.induction with
  | text => exact fun _ _ h _ ↦ decodeText_iff_of_sameButFloats h
  | optionalText o =>
    intro j j' h v
    rw [decode, decode, isNull_eq_of_sameButFloats h]
    split
    · exact Iff.rfl
    · exact decodeText_iff_of_sameButFloats h
  | scalar s =>
    intro j j' h v
    have hs : s ≠ .decimal := by
      rintro rfl
      cases hk
    rw [decode, decode, Scalar.ofJson_eq_of_sameButFloats h hs]
  | time =>
    intro j j' h v
    rw [decode, decode, timeOfJson_eq_of_sameButFloats h]
  | choice e o => exact fun _ _ h _ ↦ TextEnum.decode_iff_of_sameButFloats h e
  | code e =>
    intro j j' h v
    rw [decode, decode, CodeEnum.codeOfJson_eq_of_sameButFloats h]
  | optionalCode e =>
    intro j j' h v
    rw [decode, decode, isNull_eq_of_sameButFloats h, CodeEnum.codeOfJson_eq_of_sameButFloats h]
  | raw => cases hk
  | list item ih => exact .list (ih hk)
  | record name fields ih =>
    exact .record name fun f hf ↦ ih f hf (fieldsIgnoreFloats_iff.mp hk f hf)

end Kind

end CloudControl.Schema
