import CloudControl.Proofs.Calendar.Reader
import CloudControl.Proofs.Schema.Decode
import CloudControl.Proofs.Schema.Records

/-!
# Records are written as they are read

A record that has been read is written as an object that is read as the same record, but for what
the written form does not hold: the fraction of a second, and numbers that are not finite
(`Kind.decode_encode_record`). `Value.asWritten` is what is left. From there on nothing changes any
more.

The induction is on the kind. What a field can be read as, from a member or from the absence of
one, is `Kind.Yields`, so that one statement serves for both.
-/

namespace CloudControl.Schema

/-! ## The written form -/

mutual

/-- What the written form of a value holds: a time without the fraction of its second, and a number
only if it is finite. -/
def Value.asWritten : Value → Value
  | .time t => .time (t.map Timestamp.withoutFraction)
  | .decimal x => .decimal (x.filter Binary64.isFinite)
  | .list items => .list (itemsAsWritten items)
  | .record fields => .record (fieldsAsWritten fields)
  | v => v

/-- What the written form of the items of a list holds. -/
def itemsAsWritten : List Value → List Value
  | [] => []
  | v :: rest => v.asWritten :: itemsAsWritten rest

/-- What the written form of the fields of a record holds. -/
def fieldsAsWritten : Record → Record
  | [] => []
  | (name, v) :: rest => (name, v.asWritten) :: fieldsAsWritten rest

end

/-- The items of a list are taken one by one. -/
theorem itemsAsWritten_eq_map (vs : List Value) : itemsAsWritten vs = vs.map Value.asWritten := by
  induction vs with
  | nil => rfl
  | cons v rest ih => rw [itemsAsWritten, ih, List.map_cons]

/-- The fields of a record are taken one by one. -/
theorem fieldsAsWritten_eq_map (r : Record) :
    fieldsAsWritten r = r.map fun f ↦ (f.1, f.2.asWritten) := by
  induction r with
  | nil => rfl
  | cons f rest ih => rw [fieldsAsWritten, ih, List.map_cons]

/-- The items of a list are written one by one. -/
theorem encodeItems_eq_map (vs : List Value) : encodeItems vs = vs.map Value.encode := by
  induction vs with
  | nil => rfl
  | cons v rest ih => rw [encodeItems, ih, List.map_cons]

/-- The fields of a record are written one by one. -/
theorem encodeFields_eq_map (r : Record) :
    encodeFields r = r.map fun f ↦ (f.1, f.2.encode) := by
  induction r with
  | nil => rfl
  | cons f rest ih => rw [encodeFields, ih, List.map_cons]

mutual

/-- What the written form holds is written in the same way. -/
theorem Value.encode_asWritten : ∀ v : Value, v.asWritten.encode = v.encode
  | .text _ | .flag _ | .whole _ | .code _ | .raw _ => rfl
  | .time t => by cases t <;> rfl
  | .decimal none => rfl
  | .decimal (some x) => by
    rw [Value.asWritten, Option.filter_some]
    split
    · rfl
    · next hfinite =>
      show Json.null = Json.ofBinary64 x
      rw [Json.ofBinary64, if_neg hfinite]
  | .list items => by
    rw [Value.asWritten, Value.encode, Value.encode, encodeItems_asWritten items]
  | .record fields => by
    rw [Value.asWritten, Value.encode, Value.encode, encodeFields_asWritten fields]

/-- What the written form of items holds is written in the same way. -/
theorem encodeItems_asWritten : ∀ vs, encodeItems (itemsAsWritten vs) = encodeItems vs
  | [] => rfl
  | v :: rest => by
    rw [itemsAsWritten, encodeItems, encodeItems, v.encode_asWritten, encodeItems_asWritten rest]

/-- What the written form of fields holds is written in the same way. -/
theorem encodeFields_asWritten : ∀ r, encodeFields (fieldsAsWritten r) = encodeFields r
  | [] => rfl
  | (name, v) :: rest => by
    rw [fieldsAsWritten, encodeFields, encodeFields, v.encode_asWritten,
      encodeFields_asWritten rest]

end

/-! ## Single fields -/

namespace Scalar

/-- A truth value is read as a truth value, or as none. -/
theorem exists_flag (j : Json) : ∃ b, flag.ofJson j = .flag b := by
  cases j <;> exact ⟨_, rfl⟩

/-- A number that is not negative is read as one of few enough bits, or as none. -/
theorem exists_unsigned (bits : Nat) (j : Json) :
    ∃ n : Option Nat, (unsigned bits).ofJson j = .whole (n.map fun m ↦ (m : Int)) ∧
      ∀ m ∈ n, m ≤ Text.Numeral.maxUnsigned bits := by
  cases j with
  | string s => exact ⟨_, rfl, fun _ hm ↦ Text.Numeral.le_of_natOfBits? hm⟩
  | number n =>
    exact ⟨_, rfl, fun _ hm ↦ of_decide_eq_true (Option.filter_eq_some_iff.mp hm).2⟩
  | null | bool | array | object => exact ⟨none, rfl, nofun⟩

/-- A number is read as one of few enough bits, or as none. -/
theorem exists_signed (bits : Nat) (j : Json) :
    ∃ i, (signed bits).ofJson j = .whole i ∧
      ∀ m ∈ i, Text.Numeral.minSigned bits ≤ m ∧ m ≤ Text.Numeral.maxSigned bits := by
  cases j with
  | string s => exact ⟨_, rfl, fun _ hm ↦ Text.Numeral.bounds_of_intOfBits? hm⟩
  | number n => exact ⟨_, rfl, fun _ hm ↦ bounds_of_toIntOfBits? hm⟩
  | null | bool | array | object => exact ⟨none, rfl, nofun⟩

/-- A floating-point number is read as one, or as none. -/
theorem exists_decimal (j : Json) : ∃ x, decimal.ofJson j = .decimal x := by
  cases j <;> exact ⟨_, rfl⟩

/-- A scalar that has been read is read again from its written form. -/
theorem ofJson_encode (s : Scalar) (j : Json) :
    s.ofJson (s.ofJson j).encode = (s.ofJson j).asWritten := by
  cases s with
  | flag =>
    obtain ⟨b, hb⟩ := exists_flag j
    rw [hb]
    cases b <;> rfl
  | unsigned bits =>
    obtain ⟨n, hn, hfits⟩ := exists_unsigned bits j
    rw [hn]
    cases n with
    | none => rfl
    | some n =>
      show Value.whole ((((JsonNumber.int n).toNat?).filter
        (· ≤ Text.Numeral.maxUnsigned bits)).map fun m ↦ (m : Int)) = .whole (some (n : Int))
      rw [JsonNumber.toNat?, if_pos (Int.natCast_nonneg n), Int.toNat_natCast, Option.filter_some,
        if_pos (decide_eq_true (hfits n rfl))]
      rfl
  | signed bits =>
    obtain ⟨i, hi, hfits⟩ := exists_signed bits j
    rw [hi]
    cases i with
    | none => rfl
    | some i =>
      show Value.whole ((JsonNumber.int i).toIntOfBits? bits) = .whole (some i)
      rw [JsonNumber.toIntOfBits?, if_pos (hfits i rfl)]
  | decimal =>
    obtain ⟨x, hx⟩ := exists_decimal j
    rw [hx]
    cases x with
    | none => rfl
    | some x =>
      show decimal.ofJson (Json.ofBinary64 x) = .decimal ((some x).filter Binary64.isFinite)
      rw [Json.ofBinary64, Option.filter_some]
      split <;> rfl

end Scalar

/-- A time that has been read is read again from its written form. -/
theorem timeOfJson_encode (j : Json) :
    timeOfJson (timeOfJson j).encode = (timeOfJson j).asWritten := by
  cases j with
  | string s =>
    cases h : Timestamp.parse? s with
    | none =>
      have htime : timeOfJson (.string s) = .time none := congrArg Value.time h
      rw [htime]
      rfl
    | some t =>
      have htime : timeOfJson (.string s) = .time (some t) := congrArg Value.time h
      obtain ⟨hsupported, hoffset⟩ := Timestamp.isSupported_of_parse? h
      rw [htime]
      exact congrArg Value.time (Timestamp.parse?_text hsupported hoffset)
  | null | bool | number | array | object => rfl

/-! ## Lists and records -/

namespace Kind

/-- Whatever a field is read as is written in a way that is read as what the written form holds. -/
theorem decode_encode_of_yields {k : Kind} (hk : k.isSound = true) {v : Value}
    (h : k.Yields v) : k.decode v.encode = .ok v.asWritten := by
  induction k using Kind.induction generalizing v with
  | text =>
    obtain ⟨_ | _ | _ | _ | s | _ | _, h⟩ := h <;> cases h
    rfl
  | optionalText o =>
    obtain ⟨_ | _ | _ | _ | s | _ | _, h⟩ := h <;> cases h <;> rfl
  | scalar s =>
    obtain ⟨j, rfl⟩ : ∃ j, v = s.ofJson j := by
      obtain ⟨_ | j, h⟩ := h
      · exact ⟨.null, (Option.some.inj h).symm⟩
      · exact ⟨j, (Except.ok.inj h).symm⟩
    exact congrArg Except.ok (s.ofJson_encode j)
  | time =>
    obtain ⟨j, rfl⟩ : ∃ j, v = timeOfJson j := by
      obtain ⟨_ | j, h⟩ := h
      · exact ⟨.null, (Option.some.inj h).symm⟩
      · exact ⟨j, (Except.ok.inj h).symm⟩
    exact congrArg Except.ok (timeOfJson_encode j)
  | choice e o =>
    obtain rfl | ⟨s, rfl⟩ := yields_choice h
    · rfl
    · exact congrArg (fun s ↦ Except.ok (Value.text (some s))) (e.wireOf_wireOf hk s)
  | code e =>
    obtain ⟨_ | j, h⟩ := h <;> cases h
    exact congrArg (fun i ↦ Except.ok (Value.code (some i))) (e.codeOfJson_codeOfJson hk j)
  | optionalCode e =>
    obtain rfl | ⟨j, rfl⟩ := yields_optionalCode h
    · rfl
    · exact congrArg (fun i ↦ Except.ok (Value.code (some i))) (e.codeOfJson_codeOfJson hk j)
  | raw =>
    obtain rfl | ⟨j, hj, rfl⟩ := yields_raw h
    · rfl
    · show Except.ok (Value.raw (if j.isNull then none else some j)) = _
      rw [hj]
      rfl
  | list item ih =>
    obtain ⟨vs, rfl, hvs⟩ := yields_list h
    rw [Value.encode, Value.asWritten, encodeItems_eq_map, itemsAsWritten_eq_map, decode_array_iff]
    refine ⟨_, rfl, ?_⟩
    rw [List.forall₂_map_left_iff, List.forall₂_map_right_iff, List.forall₂_same]
    exact fun x hx ↦ ih hk (hvs x hx)
  | record name fields ih =>
    obtain ⟨r, rfl, hr⟩ := yields_record h
    obtain ⟨hnames, hsound⟩ := isSound_record_iff.mp hk
    rw [Value.encode, Value.asWritten, encodeFields_eq_map, fieldsAsWritten_eq_map,
      decode_object_iff]
    refine ⟨_, rfl, ?_⟩
    rw [List.forall₂_map_right_iff]
    -- The object that is written has the names of the fields, so each is found under its own.
    have hsame : fields.map Prod.fst = (r.map fun x ↦ (x.1, x.2.encode)).map Prod.fst := by
      rw [List.map_map]
      exact map_fst_eq_of_forall₂ (hr.imp fun _ _ ↦ And.left)
    rw [hsame] at hnames
    refine forall₂_imp_of_mem hr fun f hf x hx ⟨hname, hyields⟩ ↦ ⟨hname, ?_⟩
    have hfound : (r.map fun x ↦ (x.1, x.2.encode)).lookup f.1 = some x.2.encode :=
      hname ▸ lookup_of_mem hnames (List.mem_map_of_mem hx)
    rw [hfound]
    exact ih f hf (hsound f hf) hyields

/-- A record that has been read is written as an object. This is read as what the written form
holds: the record that it was, but for the fractions of seconds and the numbers that are not
finite. And that is written as the same object. -/
theorem decode_encode_record {k : Kind} (hk : k ∈ records) {members : List (String × Json)}
    {v : Value} (h : k.decode (.object members) = .ok v) :
    ∃ written, v.encode = .object written ∧ k.decode (.object written) = .ok v.asWritten ∧
      v.asWritten.encode = .object written := by
  obtain ⟨name, fields, rfl⟩ := exists_record_of_mem_records hk
  have hread := decode_encode_of_yields (isSound_of_mem_records _ hk) ⟨some _, h⟩
  obtain ⟨r, rfl, _⟩ := decode_object_iff.mp h
  exact ⟨encodeFields r, rfl, hread, Value.encode_asWritten (.record r)⟩

/-- A metered usage that is not finite, from a leap second in the notation of the Internet. -/
theorem decode_encode_record_usage :
    let members := [("usagetype", Json.string " running_vm"), ("rawusage", .string "inf"),
      ("size", .string "+7"), ("startdate", .string "2016-12-31T23:59:60.5-08:00")]
    ∃ v, usageRecord.decode (.object members) = .ok v ∧ ∃ written, v.encode = .object written ∧
      usageRecord.decode (.object written) = .ok v.asWritten ∧
        v.asWritten.encode = .object written := by
  intro members
  have hread : usageRecord.decode (.object members) = .ok _ := rfl
  exact ⟨_, hread, decode_encode_record (by simp [records]) hread⟩

end Kind

end CloudControl.Schema
