import CloudControl.Proofs.Text.Numeral
import CloudControl.Schema.Records

/-!
# Records are well formed

What every kind of record has in common (`Kind.isSound_of_mem_records`): no two of its fields have
one name, every spelling of its enumerations is read as itself, and all codes of its enumerations
fit 64 bits. The facts about enumerations that follow from this are stated here.
-/

namespace CloudControl.Schema

/-! ## Enumerations of texts -/

namespace TextEnum

/-- Every spelling that is written is read as the variant that it is written for. -/
def isStable (e : TextEnum) : Bool :=
  (e.fallback :: e.variants).all fun v ↦ e.wireOf v.wire == v.wire

/-- A text spells one of the variants, or else the fallback. -/
theorem variantOf_mem (e : TextEnum) (s : String) : e.variantOf s ∈ e.fallback :: e.variants := by
  unfold variantOf
  cases h : e.variants.find? (spells s) with
  | none => exact List.mem_cons_self
  | some v => exact List.mem_cons_of_mem _ (List.mem_of_find?_eq_some h)

/-- A spelling that is written is read as itself. -/
theorem wireOf_wireOf {e : TextEnum} (h : e.isStable = true) (s : String) :
    e.wireOf (e.wireOf s) = e.wireOf s :=
  eq_of_beq (List.all_eq_true.mp h _ (e.variantOf_mem s))

end TextEnum

/-! ## Enumerations of codes -/

namespace CodeEnum

/-- All codes fit 64 bits. -/
def fits (e : CodeEnum) : Bool :=
  e.variants.all fun v ↦
    decide (Text.Numeral.minSigned 64 ≤ v.2 ∧ v.2 ≤ Text.Numeral.maxSigned 64)

/-- A number that fits is read as itself. -/
theorem codeOfJson_ofInt (e : CodeEnum) {i : Int}
    (h : Text.Numeral.minSigned 64 ≤ i ∧ i ≤ Text.Numeral.maxSigned 64) :
    e.codeOfJson (.ofInt i) = i := by
  show (JsonNumber.toIntOfBits? 64 (.int i)).getD unreadable = i
  rw [JsonNumber.toIntOfBits?, if_pos h]
  rfl

end CodeEnum

/-- A whole number of few enough bits is the number itself. -/
theorem bounds_of_toIntOfBits? {bits : Nat} {n : JsonNumber} {i : Int}
    (h : n.toIntOfBits? bits = some i) :
    Text.Numeral.minSigned bits ≤ i ∧ i ≤ Text.Numeral.maxSigned bits := by
  cases n with
  | float x => cases h
  | int j =>
    rw [JsonNumber.toIntOfBits?] at h
    split at h
    · next hbounds =>
      cases h
      exact hbounds
    · cases h

namespace CodeEnum

variable {e : CodeEnum} {i : Int}

/-- The code of a name fits. -/
theorem bounds_of_codeOfName? (hfits : e.fits = true) {name : String}
    (h : e.codeOfName? name = some i) :
    Text.Numeral.minSigned 64 ≤ i ∧ i ≤ Text.Numeral.maxSigned 64 := by
  obtain ⟨v, hv, rfl⟩ := Option.map_eq_some_iff.mp h
  exact of_decide_eq_true (List.all_eq_true.mp hfits v (List.mem_of_find?_eq_some hv))

/-- The code of a text fits. -/
theorem bounds_of_codeOfText? (hfits : e.fits = true) {s : String}
    (h : e.codeOfText? s = some i) :
    Text.Numeral.minSigned 64 ≤ i ∧ i ≤ Text.Numeral.maxSigned 64 := by
  rw [codeOfText?, Option.orElse_eq_orElse, Option.orElse_eq_or, Option.or_eq_some_iff] at h
  rcases h with h | ⟨_, h⟩
  · exact Text.Numeral.bounds_of_intOfBits? h
  · exact bounds_of_codeOfName? hfits h

/-- The code of anything fits. -/
theorem bounds_codeOfJson (hfits : e.fits = true) (j : Json) :
    Text.Numeral.minSigned 64 ≤ e.codeOfJson j ∧ e.codeOfJson j ≤ Text.Numeral.maxSigned 64 := by
  have hunreadable : Text.Numeral.minSigned 64 ≤ unreadable ∧
      unreadable ≤ Text.Numeral.maxSigned 64 := by decide
  cases j with
  | number n =>
    show _ ≤ (n.toIntOfBits? 64).getD unreadable ∧ (n.toIntOfBits? 64).getD unreadable ≤ _
    cases h : n.toIntOfBits? 64 with
    | none => exact hunreadable
    | some i => exact bounds_of_toIntOfBits? h
  | string s =>
    show _ ≤ (e.codeOfText? s).getD unreadable ∧ (e.codeOfText? s).getD unreadable ≤ _
    cases h : e.codeOfText? s with
    | none => exact hunreadable
    | some i => exact bounds_of_codeOfText? hfits h
  | null | bool | array | object => exact hunreadable

/-- A code that has been read and written is read as itself. -/
theorem codeOfJson_codeOfJson (e : CodeEnum) (hfits : e.fits = true) (j : Json) :
    e.codeOfJson (.ofInt (e.codeOfJson j)) = e.codeOfJson j :=
  e.codeOfJson_ofInt (bounds_codeOfJson hfits j)

end CodeEnum

/-! ## Records -/

mutual

/-- The fields of every record within a kind have different names, and every enumeration within it
is read as it is written. -/
def Kind.isSound : Kind → Bool
  | .choice e _ => e.isStable
  | .code e => e.fits
  | .optionalCode e => e.fits
  | .list item => item.isSound
  | .record _ fields => decide (fields.map Prod.fst).Nodup && fieldsAreSound fields
  | _ => true

/-- The kinds of all fields are sound. -/
def fieldsAreSound : List (String × Kind) → Bool
  | [] => true
  | (_, k) :: rest => k.isSound && fieldsAreSound rest

end

/-- Fields are sound just if the kind of each is. -/
theorem fieldsAreSound_iff {fields : List (String × Kind)} :
    fieldsAreSound fields = true ↔ ∀ f ∈ fields, f.2.isSound = true := by
  induction fields with
  | nil => exact ⟨fun _ f hf ↦ absurd hf List.not_mem_nil, fun _ ↦ rfl⟩
  | cons f rest ih => rw [fieldsAreSound, Bool.and_eq_true, ih, List.forall_mem_cons]

namespace Kind

/-- A record is sound just if its fields have different names and are sound. -/
theorem isSound_record_iff {name : String} {fields : List (String × Kind)} :
    (Kind.record name fields).isSound = true ↔
      (fields.map Prod.fst).Nodup ∧ ∀ f ∈ fields, f.2.isSound = true := by
  rw [isSound, Bool.and_eq_true, decide_eq_true_eq, fieldsAreSound_iff]

/-- Every kind of record is a record. -/
theorem exists_record_of_mem_records {k : Kind} (hk : k ∈ records) :
    ∃ name fields, k = .record name fields := by
  have hname : ∀ k ∈ records, k.name?.isSome = true := by decide
  cases k with
  | record name fields => exact ⟨name, fields, rfl⟩
  | text | optionalText | scalar | time | choice | code | optionalCode | raw | list =>
    exact absurd (hname _ hk) nofun

/-- Every kind of record is sound. -/
theorem isSound_of_mem_records : ∀ k ∈ records, k.isSound = true := by
  decide +kernel

end Kind

end CloudControl.Schema
