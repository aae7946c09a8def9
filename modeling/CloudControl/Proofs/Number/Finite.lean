import CloudControl.Json.Number
import Mathlib.Algebra.Order.Field.Power
import Mathlib.Tactic.FieldSimp
import Mathlib.Tactic.Positivity
import Mathlib.Tactic.Ring

/-!
# Numbers that are read are finite

A numeral is read as a finite number or not at all (`Json.Numeral.isFinite_of_toNumber?`). Only the
scaling by a power of ten can leave the range of the floating-point numbers. Upwards it is checked;
downwards it starts from a significand of 64 bits, and every quotient on the way is at most two to
the power of 64 (`Binary64.IsSmall`), since no power of ten is less than one.
-/

namespace CloudControl

namespace Binary64

/-! ## Rounding -/

/-- A quotient that is at most a whole number is at most that number when it is rounded. -/
theorem roundDiv_le {num den k : Nat} (hden : 0 < den) (h : num ≤ k * den) :
    roundDiv num den ≤ k := by
  have hquotient : num / den ≤ k := Nat.div_le_of_le_mul (Nat.mul_comm k den ▸ h)
  have hdivision := Nat.div_add_mod num den
  rcases Nat.lt_or_eq_of_le hquotient with hless | hequal
  · simp only [roundDiv]
    split
    · omega
    · split <;> omega
  · -- The number itself leaves nothing over.
    rw [hequal, Nat.mul_comm den k] at hdivision
    have hrest : num % den = 0 := by omega
    have hexact : 2 * (num % den) < den := by omega
    simp only [roundDiv, if_pos hexact]
    exact hquotient

/-- What it means to be below a power of two. -/
theorem belowPower_iff {num den : Nat} {e : Int} :
    belowPower num den e = true ↔ (num : ℚ) < den * 2 ^ e := by
  unfold belowPower
  split
  · next h =>
    obtain ⟨n, rfl⟩ := Int.eq_ofNat_of_zero_le h
    rw [decide_eq_true_eq, ← Nat.cast_lt (α := ℚ)]
    push_cast [Nat.pow_eq, Int.toNat_natCast, zpow_natCast]
    rfl
  · next h =>
    obtain ⟨n, rfl⟩ : ∃ n : Nat, e = -(n : Int) := ⟨(-e).toNat, by omega⟩
    have hpower : (0 : ℚ) < 2 ^ n := by positivity
    rw [decide_eq_true_eq, ← Nat.cast_lt (α := ℚ), zpow_neg, zpow_natCast, ← div_eq_mul_inv,
      lt_div_iff₀ hpower, neg_neg, Int.toNat_natCast]
    push_cast [Nat.pow_eq]
    rfl

/-- The powers of two around a positive natural number. -/
theorem pow_log2_bounds {n : Nat} (h : 0 < n) :
    (2 : ℚ) ^ (n.log2 : Int) ≤ n ∧ (n : ℚ) < 2 ^ ((n.log2 : Int) + 1) := by
  have hlow : 2 ^ n.log2 ≤ n := Nat.log2_self_le (Nat.ne_of_gt h)
  have hhigh : n < 2 ^ (n.log2 + 1) := Nat.lt_log2_self
  constructor
  · rw [zpow_natCast]
    exact_mod_cast hlow
  · rw [show (n.log2 : Int) + 1 = ((n.log2 + 1 : Nat) : Int) by push_cast; rfl, zpow_natCast]
    exact_mod_cast hhigh

/-- The last place that a quotient keeps: 53 binary digits reach down to it, and it is not far
below the quotient. -/
theorem lastPlace_bounds {num den : Nat} (hnum : 0 < num) (hden : 0 < den)
    (h : num ≤ 2 ^ 64 * den) : lastPlace num den ≤ 12 ∧
      (num : ℚ) ≤ den * 2 ^ (lastPlace num den + 53) := by
  obtain ⟨hnumLow, hnumHigh⟩ := pow_log2_bounds hnum
  obtain ⟨hdenLow, hdenHigh⟩ := pow_log2_bounds hden
  have hpositive : (0 : ℚ) < den := by exact_mod_cast hden
  -- The quotient lies between two to the power of `top` and of one more.
  obtain ⟨top, htop, hlow, hhigh⟩ : ∃ top : Int, lastPlace num den = max (top - 52) (-1074) ∧
      (den : ℚ) * 2 ^ top ≤ num ∧ (num : ℚ) < den * 2 ^ (top + 1) := by
    by_cases hbelow : belowPower num den ((num.log2 : Int) - den.log2) = true
    · refine ⟨(num.log2 : Int) - den.log2 - 1, by rw [lastPlace, if_pos hbelow], ?_, ?_⟩
      · calc (den : ℚ) * 2 ^ ((num.log2 : Int) - den.log2 - 1)
            ≤ 2 ^ ((den.log2 : Int) + 1) * 2 ^ ((num.log2 : Int) - den.log2 - 1) := by gcongr
          _ = 2 ^ (num.log2 : Int) := by rw [← zpow_add₀ two_ne_zero]; congr 1; ring
          _ ≤ num := hnumLow
      · rw [sub_add_cancel]
        exact belowPower_iff.mp hbelow
    · refine ⟨(num.log2 : Int) - den.log2, by rw [lastPlace, if_neg hbelow], ?_, ?_⟩
      · exact not_lt.mp (mt belowPower_iff.mpr hbelow)
      · calc (num : ℚ) < 2 ^ ((num.log2 : Int) + 1) := hnumHigh
          _ = 2 ^ (den.log2 : Int) * 2 ^ ((num.log2 : Int) - den.log2 + 1) := by
            rw [← zpow_add₀ two_ne_zero]; congr 1; ring
          _ ≤ den * 2 ^ ((num.log2 : Int) - den.log2 + 1) := by gcongr
  have hbound : (den : ℚ) * 2 ^ top ≤ den * 2 ^ (64 : Int) := by
    refine hlow.trans ?_
    rw [mul_comm (den : ℚ)]
    exact_mod_cast h
  have htop64 : top ≤ 64 :=
    (zpow_le_zpow_iff_right₀ one_lt_two).mp (le_of_mul_le_mul_left hbound hpositive)
  refine ⟨by omega, hhigh.le.trans (mul_le_mul_of_nonneg_left ?_ hpositive.le)⟩
  exact zpow_le_zpow_right₀ one_le_two (by omega)

/-- A quotient in units of its last place is at most a power of two if it is so itself. -/
theorem roundedAt_le {num den : Nat} (hden : 0 < den) {q : Int} {k : Nat}
    (h : (num : ℚ) ≤ den * 2 ^ (q + k)) :
    (if 0 ≤ q then roundDiv num (den * Nat.pow 2 q.toNat)
      else roundDiv (num * Nat.pow 2 (-q).toNat) den) ≤ 2 ^ k := by
  rw [zpow_add₀ two_ne_zero, zpow_natCast] at h
  split
  · next hq =>
    obtain ⟨n, rfl⟩ := Int.eq_ofNat_of_zero_le hq
    refine roundDiv_le (Nat.mul_pos hden (Nat.pow_pos two_pos)) ?_
    rw [zpow_natCast] at h
    have hcast : num ≤ den * (2 ^ n * 2 ^ k) := by exact_mod_cast h
    calc num ≤ den * (2 ^ n * 2 ^ k) := hcast
      _ = 2 ^ k * (den * Nat.pow 2 n) := by rw [Nat.pow_eq]; ring
  · next hq =>
    obtain ⟨n, rfl⟩ : ∃ n : Nat, q = -(n : Int) := ⟨(-q).toNat, by omega⟩
    refine roundDiv_le hden ?_
    have hpower : (0 : ℚ) < 2 ^ n := by positivity
    rw [zpow_neg, zpow_natCast] at h
    have hscaled : (num : ℚ) * 2 ^ n ≤ 2 ^ k * den := by
      calc (num : ℚ) * 2 ^ n ≤ den * ((2 ^ n)⁻¹ * 2 ^ k) * 2 ^ n := by gcongr
        _ = 2 ^ k * den := by field_simp
    rw [neg_neg, Int.toNat_natCast]
    exact_mod_cast hscaled

/-! ## Small numbers -/

/-- The number is not negative, and at most two to the power of 64. -/
def IsSmall (x : Binary64) : Prop :=
  x.bits.toNat ≤ 1087 * 2 ^ 52

/-- A small number is finite. -/
theorem IsSmall.isFinite {x : Binary64} (h : x.IsSmall) : x.isFinite = true := by
  have hfield : x.exponentField ≤ 1087 := by
    have hdivision : x.bits.toNat / Nat.pow 2 52 ≤ 1087 :=
      Nat.div_le_of_le_mul (by rw [Nat.mul_comm]; exact h)
    exact (Nat.mod_le _ _).trans hdivision
  rw [Binary64.isFinite, bne_iff_ne]
  omega

/-- A small number is not negative. -/
theorem IsSmall.isNegative {x : Binary64} (h : x.IsSmall) : x.isNegative = false := by
  have hsign : x.bits.toNat / Nat.pow 2 63 = 0 :=
    Nat.div_eq_of_lt (h.trans_lt (by decide))
  rw [Binary64.isNegative, hsign]
  rfl

/-- The denominator of a number is positive. -/
theorem toRatio_snd_pos (x : Binary64) : 0 < x.toRatio.2 := by
  unfold toRatio
  split
  · exact Nat.one_pos
  · exact Nat.pow_pos two_pos

/-- A small number is at most two to the power of 64. -/
theorem IsSmall.toRatio_le {x : Binary64} (h : x.IsSmall) :
    x.toRatio.1 ≤ 2 ^ 64 * x.toRatio.2 := by
  obtain ⟨hfield, hsignificand⟩ : x.exponentField ≤ 1087 ∧
      x.significand ≤ 2 ^ 53 ∧ (x.exponentField = 1087 → x.significand = 2 ^ 52) := by
    have hbits : x.bits.toNat ≤ 1087 * 4503599627370496 := h
    have hfield : x.exponentField = x.bits.toNat / 4503599627370496 % 2048 := rfl
    have hfraction : x.fraction = x.bits.toNat % 4503599627370496 := rfl
    have hone : Nat.pow 2 52 = 4503599627370496 := rfl
    refine ⟨by omega, ?_, fun hlast ↦ ?_⟩
    · rw [significand]
      split <;> omega
    · rw [significand, if_neg (by omega)]
      omega
  obtain ⟨hmost, hlast⟩ := hsignificand
  unfold toRatio
  split
  · next hscale =>
    rw [ge_iff_le, scale] at hscale
    show x.significand * Nat.pow 2 (x.exponentField - 1 - 1074) ≤ 2 ^ 64 * 1
    rw [Nat.pow_eq]
    rcases Nat.lt_or_eq_of_le hfield with hless | hequal
    · calc x.significand * 2 ^ (x.exponentField - 1 - 1074) ≤ 2 ^ 53 * 2 ^ 11 :=
          Nat.mul_le_mul hmost (Nat.pow_le_pow_right two_pos (by omega))
        _ = 2 ^ 64 * 1 := rfl
    · rw [hlast hequal, hequal]
      exact Nat.le_refl _
  · calc x.significand ≤ 2 ^ 53 := hmost
      _ ≤ 2 ^ 64 * Nat.pow 2 (1074 - x.scale) :=
        (Nat.le_mul_of_pos_right _ (Nat.pow_pos two_pos)).trans' (by decide)

/-- The bits of 53 binary digits above a last place, of which there is one less at the highest
place. -/
theorem magnitude_le {q : Int} {m : Nat} (hq : q ≤ 12) (hm : m ≤ 2 ^ 53)
    (hhighest : q = 12 → m ≤ 2 ^ 52) :
    (q + 1074).toNat * Nat.pow 2 52 + m ≤ 1087 * 2 ^ 52 := by
  have hdouble : 2 ^ 53 = 2 * 2 ^ 52 := rfl
  rw [hdouble] at hm
  rw [Nat.pow_eq]
  generalize 2 ^ 52 = unit at hm hhighest
  by_cases hlast : q = 12
  · have hplaces : (q + 1074).toNat = 1086 := by omega
    have hmost := hhighest hlast
    rw [hplaces]
    omega
  · have hplaces : (q + 1074).toNat ≤ 1085 := by omega
    have hproduct := Nat.mul_le_mul_right unit hplaces
    omega

/-- A quotient that is at most two to the power of 64 is rounded to a small number. -/
theorem isSmall_ofRatio {num den : Nat} (hden : 0 < den) (h : num ≤ 2 ^ 64 * den) :
    (ofRatio false num den).IsSmall := by
  by_cases hnum : num = 0
  · rw [hnum]
    exact Nat.zero_le _
  have hzero : (num = 0 || den = 0) = false := by
    simp [hnum, Nat.ne_of_gt hden]
  obtain ⟨hlast, hreach⟩ := lastPlace_bounds (Nat.pos_of_ne_zero hnum) hden h
  rw [ofRatio, hzero]
  simp only [Bool.false_eq_true, if_false]
  generalize hplace : lastPlace num den = q at hlast hreach
  have hrounded := roundedAt_le hden (k := 53) (by exact_mod_cast hreach)
  -- At the highest place there is one binary digit less.
  have hhighest : q = 12 → (if 0 ≤ q then roundDiv num (den * Nat.pow 2 q.toNat)
      else roundDiv (num * Nat.pow 2 (-q).toNat) den) ≤ 2 ^ 52 := by
    rintro rfl
    refine roundedAt_le hden ?_
    rw [mul_comm]
    exact_mod_cast h
  generalize (if 0 ≤ q then roundDiv num (den * Nat.pow 2 q.toNat)
      else roundDiv (num * Nat.pow 2 (-q).toNat) den) = m at hrounded hhighest
  have hmagnitude := magnitude_le hlast hrounded hhighest
  have hinfinity : infinityBits = 2047 * 2 ^ 52 := rfl
  show (UInt64.ofNat (0 + min _ infinityBits)).toNat ≤ _
  rw [min_eq_left (by rw [hinfinity]; omega), Nat.zero_add, UInt64.toNat_ofNat', Nat.mod_eq_of_lt]
  · exact hmagnitude
  · exact hmagnitude.trans_lt (by decide)

/-- A small number is divided by one that is not less than one. -/
theorem IsSmall.div {x y : Binary64} (hx : x.IsSmall) (hsign : y.isNegative = false)
    (hy : y.toRatio.2 ≤ y.toRatio.1) : (x.div y).IsSmall := by
  rw [Binary64.div, hx.isNegative, hsign]
  refine isSmall_ofRatio (Nat.mul_pos x.toRatio_snd_pos (y.toRatio_snd_pos.trans_le hy)) ?_
  calc x.toRatio.1 * y.toRatio.2 ≤ 2 ^ 64 * x.toRatio.2 * y.toRatio.1 :=
        Nat.mul_le_mul hx.toRatio_le hy
    _ = 2 ^ 64 * (x.toRatio.2 * y.toRatio.1) := Nat.mul_assoc _ _ _

/-- The other sign leaves a number finite. -/
theorem isFinite_neg {x : Binary64} (h : x.isFinite = true) : x.neg.isFinite = true := by
  have hfield : x.neg.exponentField = x.exponentField := by
    have hbits : x.bits.toNat < 18446744073709551616 := x.bits.toNat_lt
    show (UInt64.ofNat ((if (!x.isNegative) = true then 9223372036854775808 else 0) +
      x.bits.toNat % 9223372036854775808)).toNat / 4503599627370496 % 2048 =
        x.bits.toNat / 4503599627370496 % 2048
    rw [UInt64.toNat_ofNat']
    split <;> omega
  rw [isFinite, hfield]
  exact h

end Binary64

namespace Json

open Binary64

/-! ## Powers of ten -/

/-- No power of ten that a number holds is less than one. -/
theorem powerOfTen_bounds {n : Nat} (h : n ≤ maxPower) : (powerOfTen n).isNegative = false ∧
    (powerOfTen n).toRatio.2 ≤ (powerOfTen n).toRatio.1 := by
  have hall : ∀ n < maxPower + 1, (powerOfTen n).isNegative = false ∧
      (powerOfTen n).toRatio.2 ≤ (powerOfTen n).toRatio.1 := by decide +kernel
  exact hall n (Nat.lt_succ_of_le h)

/-- Scaling down leaves a small number small. -/
theorem isSmall_scaleDown {x : Binary64} (h : x.IsSmall) (power : Nat) :
    (scaleDown x power).IsSmall := by
  fun_induction scaleDown x power with
  | case1 x power hpower =>
    obtain ⟨hsign, hone⟩ := powerOfTen_bounds hpower
    exact h.div hsign hone
  | case2 => exact h
  | case3 x power _ _ ih =>
    obtain ⟨hsign, hone⟩ := powerOfTen_bounds (Nat.le_refl maxPower)
    exact ih (h.div hsign hone)

/-- A small number is scaled to a finite one. -/
theorem isFinite_of_scale? {x y : Binary64} (h : x.IsSmall) {power : Int}
    (hscale : scale? x power = some y) : y.isFinite = true := by
  unfold scale? at hscale
  split at hscale
  · cases hscale
    exact (isSmall_scaleDown h _).isFinite
  · split at hscale
    · exact (Option.filter_eq_some_iff.mp hscale).2
    · split at hscale <;> cases hscale
      exact h.isFinite

/-! ## Numerals -/

/-- The significand that digits fill has 64 bits. -/
theorem absorb_le {significand : Nat} (h : significand ≤ Text.Numeral.maxUnsigned 64)
    (digits : List Char) : (absorb significand digits).1 ≤ Text.Numeral.maxUnsigned 64 := by
  fun_induction absorb significand digits with
  | case1 => exact h
  | case2 significand c rest next hnext ih => exact ih hnext
  | case3 => exact h

/-- A numeral is read as a finite floating-point number. -/
theorem Numeral.isFinite_of_toFloat? {n : Numeral} {x : Binary64} (h : n.toFloat? = some x) :
    x.isFinite = true := by
  have hsignificand : (absorb (absorb 0 n.whole).1 n.fraction).1 ≤ Text.Numeral.maxUnsigned 64 :=
    absorb_le (absorb_le (Nat.zero_le _) _) _
  have hsmall : (Binary64.ofNat (absorb (absorb 0 n.whole).1 n.fraction).1).IsSmall :=
    isSmall_ofRatio Nat.one_pos (hsignificand.trans (by decide))
  obtain ⟨y, hy, rfl⟩ := Option.map_eq_some_iff.mp h
  have hfinite : y.isFinite = true := by
    split at hy
    · exact isFinite_of_scale? hsmall hy
    · dsimp only at hy
      split at hy
      · split at hy
        · cases hy
        · cases hy
          rfl
      · exact isFinite_of_scale? hsmall hy
  split
  · exact isFinite_neg hfinite
  · exact hfinite

/-- A floating-point number that is read is finite. -/
theorem Numeral.isFinite_of_toNumber? {n : Numeral} {x : Binary64}
    (h : n.toNumber? = some (.float x)) : x.isFinite = true := by
  have hfloat : n.toFloat?.map JsonNumber.float = some (.float x) → x.isFinite = true := by
    intro hmap
    obtain ⟨y, hy, heq⟩ := Option.map_eq_some_iff.mp hmap
    cases heq
    exact isFinite_of_toFloat? hy
  unfold Numeral.toNumber? at h
  dsimp only at h
  split at h
  · split at h
    · cases h
    · split at h
      · cases h
      · exact hfloat h
  · exact hfloat h

end Json

end CloudControl
