import CloudControl.Text.Blank
import CloudControl.Text.Numeral

/-!
# Decimal numerals are read back as they were written

A padded numeral is a run of digits whose value is its number, and takes the width that it was
given if the number fits. `natOfBits?_eq_some_iff` says which texts are read as a natural number:
the numerals of those that have few enough bits, so that what is written for one of these is read
back (`natOfBits?_ofNat`).

`intOfBits?_trim_eq_some_iff` says which texts are read as an integer when the blanks around them
do not count: those that a sign and digits make up, for an integer of few enough bits.
-/

namespace CloudControl.Text

/-- The range of a digit. -/
theorem isDigit_iff (c : Char) : isDigit c = true ↔ 48 ≤ c.toNat ∧ c.toNat ≤ 57 := by
  simp only [isDigit, Bool.and_eq_true, decide_eq_true_eq, Char.le_def, UInt32.le_iff_toNat_le]
  rfl

/-- A digit is no blank. -/
theorem isBlank_of_digit {c : Char} (h : isDigit c = true) : isBlank c = false := by
  rw [isDigit_iff] at h
  simp only [isBlank, Bool.or_eq_false_iff, Bool.and_eq_false_iff, decide_eq_false_iff_not,
    beq_eq_false_iff_ne]
  omega

namespace Numeral

/-- The value of a run of digits, as the core library reads it. -/
theorem valueFrom_eq_ofDigitChars (acc : Nat) (cs : List Char) :
    valueFrom acc cs = Nat.ofDigitChars 10 cs acc := rfl

/-- The characters of a padded numeral. -/
theorem toList_padded (width n : Nat) : (padded width n).toList =
    List.replicate (width - (Nat.toDigits 10 n).length) '0' ++ Nat.toDigits 10 n := by
  simp [padded]

/-- A padded numeral has the value that it was written for. -/
theorem valueFrom_padded (width n : Nat) : valueFrom 0 (padded width n).toList = n := by
  rw [toList_padded, valueFrom_eq_ofDigitChars, Nat.ofDigitChars_append,
    Nat.ofDigitChars_replicate_zero, Nat.mul_zero, Nat.ofDigitChars_ten_toDigits]

/-- A padded numeral is made of digits. -/
theorem isDigit_of_mem_padded {width n : Nat} {c : Char} (h : c ∈ (padded width n).toList) :
    isDigit c = true := by
  rw [toList_padded, List.mem_append] at h
  rcases h with h | h
  · rw [List.eq_of_mem_replicate h]
    rfl
  · have hdigit := Nat.isDigit_of_mem_toDigits (by decide) (by decide) h
    simpa [isDigit, Char.isDigit, Char.le_def] using hdigit

/-- A padded numeral takes at least its width. -/
theorem le_length_padded (width n : Nat) : width ≤ (padded width n).toList.length := by
  rw [toList_padded, List.length_append, List.length_replicate]
  omega

/-- A padded numeral that fits takes its width. -/
theorem length_padded {width n : Nat} (hwidth : 0 < width) (h : n < Nat.pow 10 width) :
    (padded width n).toList.length = width := by
  have hdigits := (Nat.length_toDigits_le_iff (by decide) hwidth).mpr h
  rw [toList_padded, List.length_append, List.length_replicate]
  omega

/-- A numeral is one that is filled up to no width. -/
theorem padded_zero (n : Nat) : padded 0 n = ofNat n := by
  rw [padded, Nat.zero_sub, List.replicate_zero, List.nil_append, ofNat]

/-- A numeral is a run of digits. -/
theorem isDigit_of_mem_ofNat {n : Nat} {c : Char} (h : c ∈ (ofNat n).toList) : isDigit c = true :=
  isDigit_of_mem_padded (padded_zero n ▸ h)

/-- The value of a numeral is its number. -/
theorem valueFrom_ofNat (n : Nat) : valueFrom 0 (ofNat n).toList = n := by
  rw [← padded_zero, valueFrom_padded]

/-- A number that is read in two's complement has few enough bits. -/
theorem bounds_of_intOfBits? {bits : Nat} {s : String} {i : Int}
    (h : intOfBits? bits s = some i) : minSigned bits ≤ i ∧ i ≤ maxSigned bits := by
  have hbounds := (Option.filter_eq_some_iff.mp h).2
  rw [Bool.and_eq_true, decide_eq_true_eq, decide_eq_true_eq] at hbounds
  exact hbounds

/-- A run of digits has a value if it is not empty. -/
theorem digits?_eq_some_iff {cs : List Char} {n : Nat} :
    digits? cs = some n ↔
      (cs ≠ [] ∧ ∀ c ∈ cs, isDigit c = true) ∧ Nat.ofDigitChars 10 cs 0 = n := by
  rw [← valueFrom_eq_ofDigitChars]
  cases cs with
  | nil => simp [digits?]
  | cons c rest => simp [digits?]

/-! ## Unsigned numerals -/

/-- Characters are the numeral of a natural number: digits, with or without a plus sign in front of
them. -/
inductive WritesNat : List Char → Nat → Prop where
  | digits {cs : List Char} (hne : cs ≠ []) (hdigits : ∀ c ∈ cs, isDigit c = true) :
      WritesNat cs (Nat.ofDigitChars 10 cs 0)
  | plus {cs : List Char} (hne : cs ≠ []) (hdigits : ∀ c ∈ cs, isDigit c = true) :
      WritesNat ('+' :: cs) (Nat.ofDigitChars 10 cs 0)

/-- An unsigned numeral is read just if it is one, and its number is not too great. -/
theorem unsigned?_eq_some_iff {max : Nat} {cs : List Char} {n : Nat} :
    unsigned? max cs = some n ↔ WritesNat cs n ∧ n ≤ max := by
  unfold unsigned?
  rw [Option.filter_eq_some_iff, decide_eq_true_eq]
  refine and_congr_left fun _ ↦ ⟨fun h ↦ ?_, fun h ↦ ?_⟩
  · split at h <;> obtain ⟨⟨hne, hdigits⟩, rfl⟩ := digits?_eq_some_iff.mp h
    · exact .plus hne hdigits
    · exact .digits hne hdigits
  · cases h with
    | plus hne hdigits => exact digits?_eq_some_iff.mpr ⟨⟨hne, hdigits⟩, rfl⟩
    | @digits cs hne hdigits =>
      -- The first digit is no sign.
      split
      · next rest => exact absurd (hdigits '+' List.mem_cons_self) (by decide)
      · exact digits?_eq_some_iff.mpr ⟨⟨hne, hdigits⟩, rfl⟩

/-- A text is read as a number of few enough bits just if it is the numeral of one. -/
theorem natOfBits?_eq_some_iff {bits n : Nat} {s : String} :
    natOfBits? bits s = some n ↔ WritesNat s.toList n ∧ n ≤ maxUnsigned bits :=
  unsigned?_eq_some_iff

/-- What is written for a number is its numeral. -/
theorem writesNat_ofNat (n : Nat) : WritesNat (ofNat n).toList n := by
  have hne : (ofNat n).toList ≠ [] := by
    rw [ofNat, String.toList_ofList]
    exact Nat.toDigits_ne_nil
  have hvalue : Nat.ofDigitChars 10 (ofNat n).toList 0 = n := valueFrom_ofNat n
  have hwrites := WritesNat.digits hne fun _ ↦ isDigit_of_mem_ofNat
  rw [hvalue] at hwrites
  exact hwrites

/-- A number that fits is read back from its numeral. -/
theorem natOfBits?_ofNat {bits n : Nat} (h : n ≤ maxUnsigned bits) :
    natOfBits? bits (ofNat n) = some n :=
  natOfBits?_eq_some_iff.mpr ⟨writesNat_ofNat n, h⟩

/-- A number that is read has few enough bits. -/
theorem le_of_natOfBits? {bits n : Nat} {s : String} (h : natOfBits? bits s = some n) :
    n ≤ maxUnsigned bits :=
  (natOfBits?_eq_some_iff.mp h).2

/-! ## Signed numerals between blanks -/

/-- Characters are the numeral of an integer: digits, with or without a sign in front of them. -/
inductive Writes : List Char → Int → Prop where
  | digits {cs : List Char} (hne : cs ≠ []) (hdigits : ∀ c ∈ cs, isDigit c = true) :
      Writes cs (Nat.ofDigitChars 10 cs 0)
  | plus {cs : List Char} (hne : cs ≠ []) (hdigits : ∀ c ∈ cs, isDigit c = true) :
      Writes ('+' :: cs) (Nat.ofDigitChars 10 cs 0)
  | minus {cs : List Char} (hne : cs ≠ []) (hdigits : ∀ c ∈ cs, isDigit c = true) :
      Writes ('-' :: cs) (-(Nat.ofDigitChars 10 cs 0 : Int))

/-- A numeral holds no blanks. -/
theorem Writes.not_blank {cs : List Char} {i : Int} (h : Writes cs i) {c : Char} (hc : c ∈ cs) :
    isBlank c = false := by
  cases h with
  | digits _ hdigits => exact isBlank_of_digit (hdigits c hc)
  | plus _ hdigits | minus _ hdigits =>
    rcases List.mem_cons.mp hc with rfl | hc
    · decide
    · exact isBlank_of_digit (hdigits c hc)

/-- A signed numeral is read just if it is one, and its integer is in the range. -/
theorem signed?_eq_some_iff {min max : Int} {cs : List Char} {i : Int} :
    signed? min max cs = some i ↔ Writes cs i ∧ min ≤ i ∧ i ≤ max := by
  unfold signed?
  rw [Option.filter_eq_some_iff, Bool.and_eq_true, decide_eq_true_eq, decide_eq_true_eq]
  refine and_congr_left fun _ ↦ ⟨fun h ↦ ?_, fun h ↦ ?_⟩
  · split at h <;> obtain ⟨_, hread, rfl⟩ := Option.map_eq_some_iff.mp h <;>
      obtain ⟨n, hn, hcast⟩ := Option.bind_eq_some_iff.mp hread <;>
      obtain rfl := Option.some.inj hcast <;>
      obtain ⟨⟨hne, hdigits⟩, rfl⟩ := digits?_eq_some_iff.mp hn
    · exact .minus hne hdigits
    · exact .plus hne hdigits
    · exact .digits hne hdigits
  · cases h with
    | plus hne hdigits | minus hne hdigits =>
      simp only [digits?_eq_some_iff.mpr ⟨⟨hne, hdigits⟩, rfl⟩]
      rfl
    | @digits cs hne hdigits =>
      have hread := digits?_eq_some_iff.mpr ⟨⟨hne, hdigits⟩, rfl⟩
      -- The first digit is no sign.
      split
      · next rest => exact absurd (hdigits '-' List.mem_cons_self) (by decide)
      · next rest => exact absurd (hdigits '+' List.mem_cons_self) (by decide)
      · rw [hread]
        rfl

end Numeral

/-- What is left of a list between the blanks that are dropped at both ends. -/
theorem exists_eq_append_trimList (cs : List Char) :
    ∃ front back, cs = front ++ trimList cs ++ back ∧ ∀ c ∈ front ++ back, isBlank c = true := by
  let rest := trimStart cs
  refine ⟨cs.takeWhile isBlank, (rest.reverse.takeWhile isBlank).reverse, ?_, fun c hc ↦ ?_⟩
  · have hback : trimList cs ++ (rest.reverse.takeWhile isBlank).reverse = rest := by
      show (rest.reverse.dropWhile isBlank).reverse ++ _ = rest
      rw [← List.reverse_append, List.takeWhile_append_dropWhile, List.reverse_reverse]
    rw [List.append_assoc, hback]
    exact (List.takeWhile_append_dropWhile).symm
  · rcases List.mem_append.mp hc with hc | hc
    · exact List.all_eq_true.mp List.all_takeWhile c hc
    · exact List.all_eq_true.mp List.all_takeWhile c (List.mem_reverse.mp hc)

/-- Blanks around a list without blanks are dropped. -/
theorem trimList_between {front cs back : List Char}
    (hblank : ∀ c ∈ front ++ back, isBlank c = true) (hne : cs ≠ [])
    (hcs : ∀ c ∈ cs, isBlank c = false) : trimList (front ++ cs ++ back) = cs := by
  obtain ⟨hfront, hback⟩ := List.forall_mem_append.mp hblank
  have hstart : trimStart (front ++ cs ++ back) = cs ++ back := by
    rw [trimStart, List.append_assoc, List.dropWhile_append_of_pos hfront]
    obtain ⟨c, rest, rfl⟩ := List.exists_cons_of_ne_nil hne
    exact trimStart_cons_of_not_blank (hcs c List.mem_cons_self)
  have hend : trimStart (cs ++ back).reverse = cs.reverse := by
    rw [List.reverse_append, trimStart, List.dropWhile_append_of_pos
      fun c hc ↦ hback c (List.mem_reverse.mp hc)]
    exact trimStart_of_head fun c hc ↦ hcs c (List.mem_reverse.mp (List.mem_of_head? hc))
  rw [trimList, hstart, hend, List.reverse_reverse]

/-- A text is read as an integer without the blanks around it just if the rest of it is a numeral,
and its integer has few enough bits. -/
theorem intOfBits?_trim_eq_some_iff {bits : Nat} {s : String} {i : Int} :
    Numeral.intOfBits? bits (trim s) = some i ↔
      (∃ front numeral back, s.toList = front ++ numeral ++ back ∧
        (∀ c ∈ front ++ back, isBlank c = true) ∧ Numeral.Writes numeral i) ∧
      Numeral.minSigned bits ≤ i ∧ i ≤ Numeral.maxSigned bits := by
  rw [Numeral.intOfBits?, Numeral.signed?_eq_some_iff, trim, String.toList_ofList]
  refine and_congr_left fun _ ↦ ⟨fun h ↦ ?_, ?_⟩
  · obtain ⟨front, back, hs, hblank⟩ := exists_eq_append_trimList s.toList
    exact ⟨front, _, back, hs, hblank, h⟩
  · rintro ⟨front, numeral, back, hs, hblank, h⟩
    have hne : numeral ≠ [] := by
      cases h with
      | digits hne _ => exact hne
      | plus _ _ | minus _ _ => exact List.cons_ne_nil _ _
    rw [hs, trimList_between hblank hne fun c ↦ h.not_blank]
    exact h

end CloudControl.Text
