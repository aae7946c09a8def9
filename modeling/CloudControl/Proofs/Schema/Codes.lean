import CloudControl.Proofs.Schema.Decode
import CloudControl.Proofs.Schema.Records

/-!
# Codes on the wire

A code arrives as a whole number, as the text of one, or as the name of a variant, and everything
else stands for a code that is not known. `CodeEnum.Means` says which code a JSON value means, with
a case for each way to write it. Every value means the code that is read from it
(`CodeEnum.means_codeOfJson`), and it means no other one as long as no two variants have one name up
to letter case (`CodeEnum.Means.unique`).
-/

namespace CloudControl.Schema

open Text

/-- The integer fits two's complement of 64 bits. -/
def IsInt64 (n : Int) : Prop :=
  -9223372036854775808 ≤ n ∧ n ≤ 9223372036854775807

/-- The integer fits just if it is within the bounds of the reader. -/
theorem isInt64_iff {n : Int} :
    IsInt64 n ↔ Numeral.minSigned 64 ≤ n ∧ n ≤ Numeral.maxSigned 64 := by
  have hmin : Numeral.minSigned 64 = -9223372036854775808 := by decide
  have hmax : Numeral.maxSigned 64 = 9223372036854775807 := by decide
  rw [hmin, hmax, IsInt64]

namespace CodeEnum

/-- A text is the numeral of an integer that fits, apart from the blanks around it. -/
def Spells (s : String) (n : Int) : Prop :=
  Numeral.Writes (trim s).toList n ∧ IsInt64 n

/-- A text is the name of a variant in any letter case, apart from the blanks around it and the
underscores that are left then. -/
def Names (s : String) (v : String × Int) : Prop :=
  eqFolded v.1 (String.ofList ((trim s).toList.filter (· != '_'))) = true

/-- The code that a JSON value means. -/
inductive Means (e : CodeEnum) : Json → Int → Prop where
  | integer {n : Int} (h : IsInt64 n) : Means e (.ofInt n) n
  | numeral {s : String} {n : Int} (h : Spells s n) : Means e (.string s) n
  | name {s : String} {v : String × Int} (hs : ∀ n, ¬ Spells s n) (hv : v ∈ e.variants)
      (h : Names s v) : Means e (.string s) v.2
  | noName {s : String} (hs : ∀ n, ¬ Spells s n) (h : ∀ v ∈ e.variants, ¬ Names s v) :
      Means e (.string s) (-1)
  | other {x : Json} (hint : ∀ n, IsInt64 n → x ≠ .ofInt n) (htext : ∀ s, x ≠ .string s) :
      Means e x (-1)

variable {e : CodeEnum} {s : String} {x : Json} {m n : Int}

/-! ## Texts -/

/-- A text is read as an integer just if it is the numeral of one that fits. -/
theorem intOfBits?_eq_some_iff : Numeral.intOfBits? 64 (trim s) = some n ↔ Spells s n := by
  rw [Numeral.intOfBits?, Numeral.signed?_eq_some_iff, Spells, isInt64_iff]

/-- A text is not read as an integer just if it is no numeral of one that fits. -/
theorem intOfBits?_eq_none_iff :
    Numeral.intOfBits? 64 (trim s) = none ↔ ∀ n, ¬ Spells s n := by
  simp only [Option.eq_none_iff_forall_ne_some, ne_eq, intOfBits?_eq_some_iff]

/-- A text is the numeral of one integer at most. -/
theorem Spells.unique (hm : Spells s m) (hn : Spells s n) : m = n :=
  Option.some.inj ((intOfBits?_eq_some_iff.mpr hm).symm.trans (intOfBits?_eq_some_iff.mpr hn))

/-- A text names a variant just if its plain form is the name, up to letter case. -/
theorem names_iff {v : String × Int} : Names s v ↔ eqFolded v.1 (plainName s) = true := by
  rw [Names, plainName, trim, String.toList_ofList]

/-- The code that is read from a text that is no numeral. -/
theorem codeOfText?_eq (h : ∀ n, ¬ Spells s n) : e.codeOfText? s = e.codeOfName? s := by
  rw [codeOfText?, intOfBits?_eq_none_iff.mpr h]
  rfl

/-- The code that is read from a numeral. -/
theorem codeOfText?_of_spells (h : Spells s n) : e.codeOfText? s = some n := by
  rw [codeOfText?, intOfBits?_eq_some_iff.mpr h]
  rfl

/-! ## One code for each value -/

/-- Every value means the code that is read from it. -/
theorem means_codeOfJson (e : CodeEnum) (x : Json) : e.Means x (e.codeOfJson x) := by
  cases x with
  | number i =>
    show e.Means (.number i) ((i.toIntOfBits? 64).getD unreadable)
    cases hread : i.toIntOfBits? 64 with
    | some n =>
      cases i with
      | float x => cases hread
      | int i =>
        obtain ⟨hfits, hn⟩ := Option.ite_none_right_eq_some.mp hread
        cases hn
        exact .integer (isInt64_iff.mpr hfits)
    | none =>
      refine .other (fun n hn heq ↦ ?_) (fun _ heq ↦ by cases heq)
      obtain rfl : i = .int n := Json.number.inj heq
      rw [JsonNumber.toIntOfBits?, if_pos (isInt64_iff.mp hn)] at hread
      cases hread
  | string s =>
    show e.Means (.string s) ((e.codeOfText? s).getD unreadable)
    by_cases hspells : ∃ n, Spells s n
    · obtain ⟨n, hn⟩ := hspells
      rw [codeOfText?_of_spells hn]
      exact .numeral hn
    · rw [not_exists] at hspells
      rw [codeOfText?_eq hspells, codeOfName?]
      cases hfound : e.variants.find? fun v ↦ eqFolded v.1 (plainName s) with
      | some v =>
        have hnamed := List.find?_some hfound
        exact .name hspells (List.mem_of_find?_eq_some hfound) (names_iff.mpr hnamed)
      | none =>
        refine .noName hspells fun v hv hnames ↦ ?_
        exact List.find?_eq_none.mp hfound v hv (names_iff.mp hnames)
  | null | bool | array | object =>
    exact .other (fun _ _ heq ↦ by cases heq) (fun _ heq ↦ by cases heq)

/-- No two variants have one name, up to letter case. -/
def HasDistinctNames (e : CodeEnum) : Prop :=
  ∀ v ∈ e.variants, ∀ w ∈ e.variants, eqFolded v.1 w.1 = true → v = w

instance (e : CodeEnum) : Decidable e.HasDistinctNames :=
  inferInstanceAs (Decidable (∀ v ∈ e.variants, ∀ w ∈ e.variants, _))

/-- A text names one variant at most. -/
theorem HasDistinctNames.unique (he : e.HasDistinctNames) {v w : String × Int}
    (hv : v ∈ e.variants) (hw : w ∈ e.variants) (hvs : Names s v) (hws : Names s w) : v = w := by
  unfold Names at hvs hws
  rw [eqFolded_iff] at hvs hws
  exact he v hv w hw (eqFolded_iff.mpr (hvs.trans hws.symm))

/-- A value means one code at most. -/
theorem Means.unique (he : e.HasDistinctNames) (hm : e.Means x m) (hn : e.Means x n) : m = n := by
  cases hm with
  | integer h =>
    cases hn with
    | integer _ => rfl
    | other hint _ => exact absurd rfl (hint _ h)
  | numeral h =>
    cases hn with
    | numeral h' => exact h.unique h'
    | name hs _ _ | noName hs _ => exact absurd h (hs _)
    | other _ htext => exact absurd rfl (htext _)
  | name hs hv h =>
    cases hn with
    | numeral h' => exact absurd h' (hs _)
    | name _ hw h' => rw [he.unique hv hw h h']
    | noName _ hnone => exact absurd h (hnone _ hv)
    | other _ htext => exact absurd rfl (htext _)
  | noName hs hnone =>
    cases hn with
    | numeral h' => exact absurd h' (hs _)
    | name _ hv h' => exact absurd h' (hnone _ hv)
    | noName _ _ => rfl
    | other _ htext => exact absurd rfl (htext _)
  | other hint htext =>
    cases hn with
    | integer h => exact absurd rfl (hint _ h)
    | numeral _ | name _ _ _ | noName _ _ => exact absurd rfl (htext _)
    | other _ _ => rfl

/-! ## The enumerations of the server -/

/-- In every enumeration all codes fit, no two variants have one name, and no two have one code. -/
theorem wellFormed_of_mem_all : ∀ e ∈ all, e.fits = true ∧ e.HasDistinctNames ∧
    ∀ v ∈ e.variants, e.nameOf v.2 = v.1 := by
  decide +kernel

/-- Every JSON value is read as a code of an enumeration, and as just the one that it means: the
integer that it is or spells, if that fits; otherwise the code of the variant that it names, of
which there is one at most; and otherwise the code that stands for all that is not known. The code
is what is written for it, it is read back from that as itself, and the code of a variant is shown
by the name of that variant. -/
theorem means_iff_decode (he : e ∈ all) (x : Json) :
    ∃ n, (∀ m, e.Means x m ↔ m = n) ∧
      (Kind.code e).decode x = .ok (.code (some n)) ∧
      (Value.code (some n)).encode = .ofInt n ∧
      (Kind.code e).decode (Value.code (some n)).encode = .ok (.code (some n)) ∧
      (∀ v ∈ e.variants, n = v.2 → e.nameOf n = v.1) ∧
      ∀ s, ∀ v ∈ e.variants, ∀ w ∈ e.variants, Names s v → Names s w → v = w := by
  obtain ⟨hfits, hnames, hcodes⟩ := wellFormed_of_mem_all e he
  have hmeans := e.means_codeOfJson x
  refine ⟨e.codeOfJson x, fun m ↦ ⟨fun h ↦ h.unique hnames hmeans, fun h ↦ h ▸ hmeans⟩, rfl, rfl,
    ?_, fun v hv hcode ↦ hcode ▸ hcodes v hv, fun s v hv w hw ↦ hnames.unique hv hw⟩
  show Except.ok (Value.code (some (e.codeOfJson (.ofInt (e.codeOfJson x))))) = _
  rw [e.codeOfJson_codeOfJson hfits]

/-- The kinds of metered usage: a name with blanks, underscores and small letters, and the numeral
of an integer that no variant has for its code. -/
theorem means_iff_decode_usageType : usageType ∈ all ∧
    (Kind.code usageType).decode (.string " running_VM\n") = .ok (.code (some 1)) ∧
    usageType.nameOf 1 = "RunningVm" ∧
    (Kind.code usageType).decode (.string " +0026 ") = .ok (.code (some 26)) := by
  have hmem : usageType ∈ all := by decide
  have hnumeral : ∀ n, ¬ Spells " running_VM\n" n := intOfBits?_eq_none_iff.mp (by decide)
  have hname : usageType.Means (.string " running_VM\n") 1 :=
    .name (v := ("RunningVm", 1)) hnumeral (by decide) rfl
  have hspells : Spells " +0026 " 26 := intOfBits?_eq_some_iff.mp (by decide)
  refine ⟨hmem, ?_⟩
  obtain ⟨n, hmeans, hread, -, -, hshown, -⟩ := means_iff_decode hmem (.string " running_VM\n")
  obtain rfl : 1 = n := (hmeans 1).mp hname
  obtain ⟨m, hmeans', hread', -⟩ := means_iff_decode hmem (.string " +0026 ")
  obtain rfl : 26 = m := (hmeans' 26).mp (.numeral hspells)
  exact ⟨hread, hshown ("RunningVm", 1) (by decide) rfl, hread'⟩

end CodeEnum

end CloudControl.Schema
