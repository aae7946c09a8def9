import CloudControl.Proofs.Schema.Decode
import CloudControl.Proofs.Schema.Records

/-!
# What can be read

`Accepts` says, field by field, which JSON values can be read as a kind. It is what the reader
takes (`Kind.exists_decode_iff`), as long as records are written as objects. Some fields take any
value at all. What they hold never decides whether a record is read, and it reaches no other field
(`Kind.decode_put`), however deep in lists and records the field lies.
-/

namespace CloudControl

namespace Schema

/-- The field must be there. -/
def Kind.isRequired : Kind → Bool
  | .text | .code _ | .record _ _ => true
  | _ => false

/-- The JSON value can be read as the kind. A text must be one, and a text of an enumeration may be
any text or the only member of an object. A list needs items that can be read, and a record needs
fields that can be read, and all that it requires. Everything else takes any value. -/
inductive Accepts : Kind → Json → Prop where
  | text (s : String) : Accepts .text (.string s)
  | optionalText (o : Omission) (s : String) : Accepts (.optionalText o) (.string s)
  | noText (o : Omission) : Accepts (.optionalText o) .null
  | scalar (s : Scalar) (j : Json) : Accepts (.scalar s) j
  | time (j : Json) : Accepts .time j
  | choice (e : TextEnum) (o : Omission) (s : String) : Accepts (.choice e o) (.string s)
  | noChoice (e : TextEnum) (o : Omission) : Accepts (.choice e o) .null
  | chosenMember (e : TextEnum) (o : Omission) (name : String) :
      Accepts (.choice e o) (.object [(name, .null)])
  | code (e : CodeEnum) (j : Json) : Accepts (.code e) j
  | optionalCode (e : CodeEnum) (j : Json) : Accepts (.optionalCode e) j
  | raw (j : Json) : Accepts .raw j
  | list {item : Kind} {items : List Json} (hitems : ∀ j ∈ items, Accepts item j) :
      Accepts (.list item) (.array items)
  | noList (item : Kind) : Accepts (.list item) .null
  | record {name : String} {fields : List (String × Kind)} {members : List (String × Json)}
      (hpresent : ∀ f ∈ fields, ∀ j, members.lookup f.1 = some j → Accepts f.2 j)
      (habsent : ∀ f ∈ fields, members.lookup f.1 = none → f.2.isRequired = false) :
      Accepts (.record name fields) (.object members)

mutual

/-- Every record within a value is written as an object, and none as an array of its elements. -/
def Kind.spellsFields : Kind → Json → Bool
  | .list item, .array items => items.all item.spellsFields
  | .record _ fields, .object members => fieldsSpellFields fields members
  | .record _ _, .array _ => false
  | _, _ => true

/-- Every record within the fields of a record is written as an object. -/
def fieldsSpellFields : List (String × Kind) → List (String × Json) → Bool
  | [], _ => true
  | (name, k) :: rest, members =>
    (members.lookup name).all k.spellsFields && fieldsSpellFields rest members

end

/-- The records within the fields of a record are written as objects just if those within each
member are. -/
theorem fieldsSpellFields_iff {fields : List (String × Kind)} {members : List (String × Json)} :
    fieldsSpellFields fields members = true ↔
      ∀ f ∈ fields, ∀ j, members.lookup f.1 = some j → f.2.spellsFields j = true := by
  induction fields with
  | nil => exact ⟨fun _ f hf ↦ absurd hf List.not_mem_nil, fun _ ↦ rfl⟩
  | cons f rest ih =>
    rw [fieldsSpellFields, Bool.and_eq_true, ih, List.forall_mem_cons]
    simp only [Option.all_eq_true]

namespace Kind

/-- A field may be missing just if it is not required. -/
theorem exists_absent?_iff (k : Kind) : (∃ v, k.absent? = some v) ↔ k.isRequired = false := by
  cases k <;> simp [absent?, isRequired]

/-- What a kind accepts is read. -/
theorem exists_decode_of_accepts {k : Kind} {j : Json} (h : Accepts k j) :
    ∃ v, k.decode j = .ok v := by
  induction h with
  | list _ ih =>
    obtain ⟨vs, hvs⟩ := exists_forall₂_iff.mpr ih
    exact ⟨_, decode_array_iff.mpr ⟨vs, rfl, hvs⟩⟩
  | @record name fields members _ habsent ih =>
    have hfields : ∀ f ∈ fields, ∃ x : String × Value,
        f.1 = x.1 ∧ f.2.Reads (members.lookup f.1) x.2 := by
      intro f hf
      cases hlookup : members.lookup f.1 with
      | none =>
        obtain ⟨v, hv⟩ := (exists_absent?_iff f.2).mpr (habsent f hf hlookup)
        exact ⟨(f.1, v), rfl, hv⟩
      | some j =>
        obtain ⟨v, hv⟩ := ih f hf j hlookup
        exact ⟨(f.1, v), rfl, hv⟩
    obtain ⟨r, hr⟩ := exists_forall₂_iff.mpr hfields
    exact ⟨_, decode_object_iff.mpr ⟨r, rfl, hr⟩⟩
  | text | optionalText | noText | scalar | time | choice | noChoice | chosenMember | code
  | optionalCode | raw | noList => exact ⟨_, rfl⟩

/-- What is read is accepted, where records are written as objects. -/
theorem accepts_of_decode {k : Kind} {j : Json} (hspells : k.spellsFields j = true) {v : Value}
    (h : k.decode j = .ok v) : Accepts k j := by
  induction k using Kind.induction generalizing j v with
  | text =>
    cases j <;> cases h
    exact .text _
  | optionalText o =>
    cases j <;> cases h
    · exact .noText o
    · exact .optionalText o _
  | scalar s => exact .scalar s j
  | time => exact .time j
  | choice e o =>
    change e.decode j = .ok v at h
    unfold TextEnum.decode at h
    split at h <;> cases h
    · exact .noChoice e o
    · exact .choice e o _
    · exact .chosenMember e o _
  | code e => exact .code e j
  | optionalCode e => exact .optionalCode e j
  | raw => exact .raw j
  | list item ih =>
    cases j with
    | null => exact .noList item
    | array items =>
      obtain ⟨vs, rfl, hvs⟩ := decode_array_iff.mp h
      have hread := exists_forall₂_iff.mp ⟨vs, hvs⟩
      rw [spellsFields, List.all_eq_true] at hspells
      refine .list fun j hj ↦ ?_
      obtain ⟨v, hv⟩ := hread j hj
      exact ih (hspells j hj) hv
    | bool | number | string | object => cases h
  | record name fields ih =>
    cases j with
    | object members =>
      obtain ⟨r, rfl, hr⟩ := decode_object_iff.mp h
      have hread := exists_forall₂_iff.mp ⟨r, hr⟩
      rw [spellsFields, fieldsSpellFields_iff] at hspells
      refine .record (fun f hf j hj ↦ ?_) fun f hf hnone ↦ ?_
      · obtain ⟨x, _, hx⟩ := hread f hf
        rw [hj] at hx
        exact ih f hf (hspells f hf j hj) hx
      · obtain ⟨x, _, hx⟩ := hread f hf
        rw [hnone] at hx
        exact (exists_absent?_iff f.2).mp ⟨_, hx⟩
    | array => cases hspells
    | null | bool | number | string => cases h

end Kind

/-! ## Places -/

/-- A step from a value to a part of it. -/
inductive Step where
  | field (name : String)
  | item (position : Nat)

/-- The steps to a part of a value. -/
abbrev Place := List Step

/-- Changes the values of a name. -/
def changeNamed {α : Type} (name : String) (change : α → α) (members : List (String × α)) :
    List (String × α) :=
  members.map fun m ↦ if m.1 = name then (m.1, change m.2) else m

/-- The kind of what is at a place. -/
def Kind.at? : Kind → Place → Option Kind
  | k, [] => some k
  | .record _ fields, .field name :: rest => (fields.lookup name).bind (·.at? rest)
  | .list item, .item _ :: rest => item.at? rest
  | _, _ => none

/-- The value with another one at a place. -/
def Value.put : Value → Value → Place → Value
  | _, new, [] => new
  | .record fields, new, .field name :: rest => .record (changeNamed name (put · new rest) fields)
  | .list items, new, .item n :: rest => .list (items.modify n (put · new rest))
  | v, _, _ => v

end Schema

namespace Json

open Schema

/-- The JSON value at a place. -/
def at? : Json → Place → Option Json
  | j, [] => some j
  | .object members, .field name :: rest => (members.lookup name).bind (·.at? rest)
  | .array items, .item n :: rest => items[n]?.bind (·.at? rest)
  | _, _ => none

/-- The JSON value with another one at a place. -/
def put : Json → Json → Place → Json
  | _, new, [] => new
  | .object members, new, .field name :: rest => .object (changeNamed name (put · new rest) members)
  | .array items, new, .item n :: rest => .array (items.modify n (put · new rest))
  | j, _, _ => j

end Json

namespace Schema

section

variable {α β : Type}

/-- The value of a name is the changed one. -/
theorem lookup_changeNamed_self (name : String) (change : α → α) (members : List (String × α)) :
    (changeNamed name change members).lookup name = (members.lookup name).map change := by
  induction members with
  | nil => rfl
  | cons m rest ih =>
    obtain ⟨n, v⟩ := m
    rw [changeNamed, List.map_cons]
    by_cases hn : n = name
    · rw [if_pos hn, hn, List.lookup_cons_self, List.lookup_cons_self, Option.map_some]
    · rw [if_neg hn, List.lookup_cons, List.lookup_cons, beq_eq_false_iff_ne.mpr (Ne.symm hn)]
      exact ih

/-- The values of other names are left alone. -/
theorem lookup_changeNamed_of_ne {name other : String} (h : other ≠ name) (change : α → α)
    (members : List (String × α)) :
    (changeNamed name change members).lookup other = members.lookup other := by
  induction members with
  | nil => rfl
  | cons m rest ih =>
    obtain ⟨n, v⟩ := m
    rw [changeNamed, List.map_cons]
    by_cases hn : n = name
    · rw [if_pos hn, List.lookup_cons, List.lookup_cons, beq_eq_false_iff_ne.mpr (hn ▸ h)]
      exact ih
    · rw [if_neg hn, List.lookup_cons, List.lookup_cons]
      cases other == n
      · exact ih
      · rfl

/-- Two lists that are related stay so if the values of a name are changed. -/
theorem forall₂_changeNamed {R S : α → String × β → Prop} {name : String} {change : β → β}
    {xs : List α} {members : List (String × β)} (h : List.Forall₂ R xs members)
    (hnamed : ∀ x ∈ xs, ∀ m, m.1 = name → R x m → S x (m.1, change m.2))
    (hother : ∀ x ∈ xs, ∀ m, m.1 ≠ name → R x m → S x m) :
    List.Forall₂ S xs (changeNamed name change members) := by
  rw [changeNamed, List.forall₂_map_right_iff]
  refine forall₂_imp_of_mem h fun x hx m _ hR ↦ ?_
  split
  · next hm => exact hnamed x hx m hm hR
  · next hm => exact hother x hx m hm hR

end

namespace Kind

/-- The kind takes any JSON value, and reads what it can of it. -/
def takesAnything : Kind → Bool
  | .scalar _ | .time | .code _ | .optionalCode _ | .raw => true
  | _ => false

/-- A kind that takes anything accepts any JSON value. -/
theorem accepts_of_takesAnything {k : Kind} (h : k.takesAnything = true) (j : Json) :
    Accepts k j := by
  cases k with
  | scalar s => exact .scalar s j
  | time => exact .time j
  | code e => exact .code e j
  | optionalCode e => exact .optionalCode e j
  | raw => exact .raw j
  | text | optionalText | choice | list | record => cases h

variable {k part : Kind} {j old new : Json} {v w : Value} {spot : Place}

/-- A JSON value that is put at a place is read there, and the rest is read as before. -/
theorem decode_put (hk : k.isSound = true) (hpart : k.at? spot = some part)
    (hold : j.at? spot = some old) (hnew : part.decode new = .ok w) (h : k.decode j = .ok v) :
    k.decode (j.put new spot) = .ok (v.put w spot) := by
  -- A place leads through records by name and through lists by position, and nowhere else.
  induction spot generalizing k j v with
  | nil =>
    cases hpart
    cases j <;> cases v <;> exact hnew
  | cons step rest ih =>
    cases step with
    | field name =>
      cases k with
      | record kname fields =>
        obtain ⟨field, hfield, hpart⟩ := Option.bind_eq_some_iff.mp hpart
        cases j with
        | object members =>
          obtain ⟨inner, hinner, hold⟩ := Option.bind_eq_some_iff.mp hold
          obtain ⟨r, rfl, hr⟩ := decode_object_iff.mp h
          obtain ⟨hnames, hsound⟩ := isSound_record_iff.mp hk
          rw [Json.put, Value.put, decode_object_iff]
          refine ⟨_, rfl, forall₂_changeNamed hr (fun f hf x hx ⟨hname, hread⟩ ↦ ⟨hname, ?_⟩)
            fun f _ x hx ⟨hname, hread⟩ ↦ ⟨hname, ?_⟩⟩
          · rw [hname, hx, hinner] at hread
            rw [hname, hx, lookup_changeNamed_self, hinner]
            -- The names differ, so the kind at the place is the one of this field.
            obtain rfl : field = f.2 := by
              rw [← hx, ← hname, lookup_of_mem hnames hf] at hfield
              exact (Option.some.inj hfield).symm
            exact ih (hsound f hf) hpart hold hread
          · rw [lookup_changeNamed_of_ne (hname ▸ hx)]
            exact hread
        | null | bool | number | string | array => cases hold
      | text | optionalText | scalar | time | choice | code | optionalCode | raw | list =>
        cases hpart
    | item n =>
      cases k with
      | list item =>
        cases j with
        | array items =>
          obtain ⟨inner, hinner, hold⟩ := Option.bind_eq_some_iff.mp hold
          obtain ⟨vs, rfl, hvs⟩ := decode_array_iff.mp h
          rw [Json.put, Value.put, decode_array_iff]
          refine ⟨_, rfl, forall₂_modify hvs fun x y hx hread ↦ ?_⟩
          cases hinner.symm.trans hx
          exact ih hk hpart hold hread
        | null | bool | number | string | object => cases hold
      | text | optionalText | scalar | time | choice | code | optionalCode | raw | record =>
        cases hpart

/-- A value that is accepted stays so if a value that is accepted is put at a place. -/
theorem accepts_put (hk : k.isSound = true) (hpart : k.at? spot = some part)
    (hnew : Accepts part new) (h : Accepts k j) : Accepts k (j.put new spot) := by
  induction spot generalizing k j with
  | nil =>
    cases hpart
    exact hnew
  | cons step rest ih =>
    cases step with
    | field name =>
      cases k with
      | record kname fields =>
        obtain ⟨field, hfield, hpart⟩ := Option.bind_eq_some_iff.mp hpart
        obtain ⟨hnames, hsound⟩ := isSound_record_iff.mp hk
        cases h with | record hpresent habsent
        refine .record (fun f hf j hj ↦ ?_) fun f hf hnone ↦ habsent f hf ?_
        · by_cases hname : f.1 = name
          · rw [hname, lookup_changeNamed_self] at hj
            obtain ⟨inner, hinner, rfl⟩ := Option.map_eq_some_iff.mp hj
            obtain rfl : field = f.2 := by
              rw [← hname, lookup_of_mem hnames hf] at hfield
              exact (Option.some.inj hfield).symm
            exact ih (hsound f hf) hpart (hpresent f hf inner (hname ▸ hinner))
          · rw [lookup_changeNamed_of_ne hname] at hj
            exact hpresent f hf j hj
        · by_cases hname : f.1 = name
          · rw [hname, lookup_changeNamed_self, Option.map_eq_none_iff] at hnone
            rw [hname, hnone]
          · rwa [lookup_changeNamed_of_ne hname] at hnone
      | text | optionalText | scalar | time | choice | code | optionalCode | raw | list =>
        cases hpart
    | item n =>
      cases k with
      | list item =>
        cases h with
        | noList => exact .noList item
        | list hitems =>
          refine .list fun j hj ↦ ?_
          obtain ⟨i, hi⟩ := List.mem_iff_getElem?.mp hj
          rw [List.getElem?_modify] at hi
          obtain ⟨inner, hinner, rfl⟩ := Option.map_eq_some_iff.mp hi
          have haccepts := hitems inner (List.mem_of_getElem? hinner)
          split
          · exact ih hk hpart haccepts
          · exact haccepts
      | text | optionalText | scalar | time | choice | code | optionalCode | raw | record =>
        cases hpart

/-! ## Records -/

/-- An object is read as a record just if the record accepts it, as long as no array stands for a
record. In an object that is accepted, whatever is put in place of a value that may be anything is
accepted as well: it is read there, and everything else is read as before. -/
theorem decode_object_iff_accepts (hk : k ∈ records) (members : List (String × Json)) :
    (k.spellsFields (.object members) = true →
      ((∃ v, k.decode (.object members) = .ok v) ↔ Accepts k (.object members))) ∧
    ∀ (spot : Place) (part : Kind) (old new : Json), k.at? spot = some part →
      part.takesAnything = true → (Json.object members).at? spot = some old →
      Accepts k (.object members) →
      Accepts k ((Json.object members).put new spot) ∧
        ∃ v w, k.decode (.object members) = .ok v ∧ part.decode new = .ok w ∧
          k.decode ((Json.object members).put new spot) = .ok (v.put w spot) := by
  refine ⟨fun hspells ↦ ⟨fun ⟨v, hv⟩ ↦ accepts_of_decode hspells hv, exists_decode_of_accepts⟩,
    fun spot part old new hpart hany hold haccepts ↦ ?_⟩
  have hsound := isSound_of_mem_records k hk
  obtain ⟨v, hv⟩ := exists_decode_of_accepts haccepts
  obtain ⟨w, hw⟩ := exists_decode_of_accepts (accepts_of_takesAnything hany new)
  exact ⟨accepts_put hsound hpart (accepts_of_takesAnything hany new) haccepts, v, w, hv, hw,
    decode_put hsound hpart hold hw hv⟩

/-- A list in place of a truth value, deep in a network. -/
theorem decode_object_iff_accepts_network :
    let provider := Json.object [("name", .string "VirtualRouter"),
      ("canenableindividualservice", .bool true)]
    let members := [("id", Json.string "n-1"), ("name", .null), ("traffictype", .string "Guest"),
      ("service", .array [.object [("name", .string "Dns"), ("provider", .array [provider])]])]
    let spot := [Step.field "service", .item 0, .field "provider", .item 0,
      .field "canenableindividualservice"]
    Accepts network ((Json.object members).put (.array [.null]) spot) ∧
      ∃ v w, network.decode (.object members) = .ok v ∧
        (Kind.scalar .flag).decode (.array [.null]) = .ok w ∧
          network.decode ((Json.object members).put (.array [.null]) spot) =
            .ok (v.put w spot) := by
  intro provider members spot
  obtain ⟨hiff, hput⟩ := decode_object_iff_accepts (by simp [records] : network ∈ records) members
  have haccepts : Accepts network (.object members) := (hiff (by decide)).mp ⟨_, rfl⟩
  exact hput spot (.scalar .flag) (.bool true) (.array [.null]) rfl rfl rfl haccepts

end Kind

end Schema

end CloudControl
