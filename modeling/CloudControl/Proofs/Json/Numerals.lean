import CloudControl.Json.Printer
import CloudControl.Json.Reader
import CloudControl.Proofs.Text.Numeral

/-!
# Numerals in front of what follows them

A number is taken off the front of a text as if nothing stood behind it, if what stands there is the
next item or the end of a container (`takeNumber_append`). A whole number of 64 bits is taken from
its numeral as it is (`takeNumber_int`), and a finite floating-point number from its text as some
floating-point number (`takeNumber_jsonText`).
-/

namespace CloudControl.Json

open Text

/-! ## What follows a value -/

/-- What stands behind a value: nothing, or the next item, or the end of a container. -/
def Stops (rest : List Char) : Prop :=
  ∀ c ∈ rest.head?, c = ',' ∨ c = ']' ∨ c = '\x7d'

/-- The next item stands behind a comma. -/
theorem stops_cons_comma (rest : List Char) : Stops (',' :: rest) := fun _ hc ↦
  .inl (Option.some.inj hc).symm

/-- An array ends with a bracket. -/
theorem stops_cons_bracket (rest : List Char) : Stops (']' :: rest) := fun _ hc ↦
  .inr (.inl (Option.some.inj hc).symm)

/-- An object ends with a brace. -/
theorem stops_cons_brace (rest : List Char) : Stops ('\x7d' :: rest) := fun _ hc ↦
  .inr (.inr (Option.some.inj hc).symm)

/-- What is taken off the front of a text, with something behind what is left. -/
def before {α : Type} (rest : List Char) (taken : α × List Char) : α × List Char :=
  (taken.1, taken.2 ++ rest)

/-- The number of a numeral that has been taken. -/
def valued (taken : Numeral × List Char) : Option (JsonNumber × List Char) :=
  taken.1.toNumber?.map (·, taken.2)

/-- The number of a numeral with a minus sign. -/
theorem takeNumber_minus (cs : List Char) :
    takeNumber ('-' :: cs) = (takeNumeral true cs).bind valued := by
  rw [takeNumber]
  rcases takeNumeral true cs with _ | ⟨n, left⟩
  · rfl
  · show (n.toNumber?.bind fun value ↦ some (value, left)) = valued (n, left)
    rw [valued, Option.map_eq_bind]
    rfl

/-- The number of a numeral without a sign. -/
theorem takeNumber_of_ne {cs : List Char} (h : cs.head? ≠ some '-') :
    takeNumber cs = (takeNumeral false cs).bind valued := by
  rw [takeNumber]
  · rcases takeNumeral false cs with _ | ⟨n, left⟩
    · rfl
    · show (n.toNumber?.bind fun value ↦ some (value, left)) = valued (n, left)
      rw [valued, Option.map_eq_bind]
      rfl
  · rintro tail rfl
    exact h rfl

section

variable {rest : List Char} (hstops : Stops rest)

include hstops

/-- Digits are taken up to what stands behind a value. -/
theorem takeDigits_append (cs : List Char) :
    takeDigits (cs ++ rest) = before rest (takeDigits cs) := by
  induction cs with
  | nil =>
    cases rest with
    | nil => rfl
    | cons c rest =>
      have hc : isDigit c = false := by
        rcases hstops c rfl with rfl | rfl | rfl <;> rfl
      simp [takeDigits, before, hc]
  | cons c cs ih =>
    simp only [takeDigits, before, Prod.mk.injEq, List.cons_append, List.takeWhile_cons,
      List.dropWhile_cons] at ih ⊢
    cases isDigit c with
    | true => simpa using ih
    | false => simp

/-- A whole part is taken up to what stands behind a value. -/
theorem takeWhole_append (cs : List Char) :
    takeWhole (cs ++ rest) = (takeWhole cs).map (before rest) := by
  rw [takeWhole, takeDigits_append hstops, takeWhole]
  rcases takeDigits cs with ⟨digits, left⟩
  simp only [before]
  split <;> simp_all [before]

/-- A fraction is taken up to what stands behind a value. -/
theorem takeFraction_append (cs : List Char) :
    takeFraction (cs ++ rest) = (takeFraction cs).map (before rest) := by
  have hnone : ∀ cs, (∀ c ∈ cs.head?, c ≠ '.') → takeFraction cs = some ([], cs) := by
    intro cs hcs
    unfold takeFraction
    split
    · exact absurd rfl (hcs _ rfl)
    · rfl
  cases cs with
  | nil =>
    rw [List.nil_append, hnone rest]
    · rfl
    · intro c hc
      rcases hstops c hc with rfl | rfl | rfl <;> decide
  | cons c cs =>
    by_cases hc : c = '.'
    · subst hc
      rw [List.cons_append, takeFraction, takeDigits_append hstops, takeFraction]
      rcases takeDigits cs with ⟨digits, left⟩
      cases digits <;> rfl
    · have hother : ∀ tail, takeFraction (c :: tail) = some ([], c :: tail) := by
        intro tail
        refine hnone _ fun d hd ↦ ?_
        rw [← Option.some.inj hd]
        exact hc
      rw [List.cons_append, hother, hother]
      rfl

/-- The sign of an exponent is taken up to what stands behind a value. -/
theorem takeExponentSign_append (cs : List Char) :
    takeExponentSign (cs ++ rest) = before rest (takeExponentSign cs) := by
  cases cs with
  | nil =>
    rw [List.nil_append]
    unfold takeExponentSign
    split
    · next c => exact absurd (hstops _ rfl) (by decide)
    · next c => exact absurd (hstops _ rfl) (by decide)
    · rfl
  | cons c cs =>
    unfold takeExponentSign
    split <;> simp_all [before]

/-- An exponent is taken up to what stands behind a value. -/
theorem takeExponent_append (cs : List Char) :
    takeExponent (cs ++ rest) = (takeExponent cs).map (before rest) := by
  cases cs with
  | nil =>
    cases rest with
    | nil => rfl
    | cons c rest =>
      have hc : ¬ (c = 'e' ∨ c = 'E') := by
        rcases hstops c rfl with rfl | rfl | rfl <;> decide
      rw [List.nil_append, takeExponent, if_neg hc]
      rfl
  | cons c cs =>
    rw [List.cons_append, takeExponent, takeExponent]
    split
    · rw [takeExponentSign_append hstops]
      rcases takeExponentSign cs with ⟨negative, digits⟩
      simp only [before]
      rw [takeDigits_append hstops]
      rcases takeDigits digits with ⟨digits, left⟩
      cases digits <;> rfl
    · rfl

/-- A numeral is taken up to what stands behind a value. -/
theorem takeNumeral_append (negative : Bool) (cs : List Char) :
    takeNumeral negative (cs ++ rest) = (takeNumeral negative cs).map (before rest) := by
  rw [takeNumeral, takeWhole_append hstops, takeNumeral]
  cases takeWhole cs with
  | none => rfl
  | some taken =>
    simp only [Option.map_some, Option.bind_eq_bind, Option.bind_some, before,
      takeFraction_append hstops]
    cases takeFraction taken.2 with
    | none => rfl
    | some taken =>
      simp only [Option.map_some, Option.bind_some, before, takeExponent_append hstops]
      cases takeExponent taken.2 <;> rfl

/-- A number is taken up to what stands behind a value. -/
theorem takeNumber_append (cs : List Char) :
    takeNumber (cs ++ rest) = (takeNumber cs).map (before rest) := by
  have hvalued : ∀ taken : Option (Numeral × List Char),
      (taken.map (before rest)).bind valued = (taken.bind valued).map (before rest) := by
    rintro (_ | ⟨n, left⟩)
    · rfl
    · simp only [Option.map_some, Option.bind_some, valued, before, Option.map_map]
      rfl
  by_cases hminus : ∃ tail, cs = '-' :: tail
  · obtain ⟨tail, rfl⟩ := hminus
    rw [List.cons_append, takeNumber_minus, takeNumber_minus, takeNumeral_append hstops, hvalued]
  · have hcs : cs.head? ≠ some '-' := by
      intro hhead
      cases cs with
      | nil => cases hhead
      | cons c tail => exact hminus ⟨tail, by rw [Option.some.inj hhead]⟩
    have hboth : (cs ++ rest).head? ≠ some '-' := by
      cases cs with
      | nil =>
        intro hhead
        exact absurd (hstops _ hhead) (by decide)
      | cons c tail => exact hcs
    rw [takeNumber_of_ne hboth, takeNumber_of_ne hcs, takeNumeral_append hstops, hvalued]

end

/-! ## Whole numbers -/

/-- Digits are taken up to what is none. -/
theorem takeDigits_of_digits {digits rest : List Char} (hdigits : ∀ c ∈ digits, isDigit c = true)
    (h : ∀ c ∈ rest.head?, isDigit c = false) : takeDigits (digits ++ rest) = (digits, rest) := by
  rw [takeDigits, List.takeWhile_append_of_pos hdigits, List.dropWhile_append_of_pos hdigits]
  cases rest with
  | nil => simp
  | cons c rest =>
    have hc := h c rfl
    rw [List.takeWhile_cons_of_neg (by simp [hc]), List.dropWhile_cons_of_neg (by simp [hc]),
      List.append_nil]

/-- A text of digits is taken as a whole. -/
theorem takeDigits_self {digits : List Char} (hdigits : ∀ c ∈ digits, isDigit c = true) :
    takeDigits digits = (digits, []) := by
  have happend : takeDigits (digits ++ []) = (digits, []) := takeDigits_of_digits hdigits nofun
  rwa [List.append_nil] at happend

/-- A numeral does not start with a zero, but for the one of zero. -/
theorem head_toDigits {n : Nat} (h : 0 < n) : (Nat.toDigits 10 n).head? ≠ some '0' := by
  induction n using Nat.strongRecOn with
  | ind n ih =>
    rw [Nat.toDigits_eq_if (by decide)]
    split
    · next hsmall =>
      have hdigits : ∀ n : Fin 10, 0 < n.val → [Nat.digitChar n.val].head? ≠ some '0' := by decide
      exact hdigits ⟨n, hsmall⟩ h
    · next hlarge =>
      have hprefix := ih (n / 10) (by omega) (by omega)
      cases hdigits : Nat.toDigits 10 (n / 10) with
      | nil => exact absurd hdigits Nat.toDigits_ne_nil
      | cons c cs =>
        rw [hdigits] at hprefix
        exact hprefix

/-- The numeral of a natural number is taken as a whole part. -/
theorem takeWhole_ofNat (n : Nat) :
    takeWhole (Numeral.ofNat n).toList = some ((Numeral.ofNat n).toList, []) := by
  have hdigits : ∀ c ∈ (Numeral.ofNat n).toList, isDigit c = true :=
    fun _ ↦ Numeral.isDigit_of_mem_ofNat
  rw [takeWhole, takeDigits_self hdigits, Numeral.ofNat, String.toList_ofList]
  split
  · next hnil => exact absurd (congrArg Prod.fst hnil) Nat.toDigits_ne_nil
  · next c cs rest' heq =>
    have hzero : Nat.toDigits 10 n = '0' :: c :: cs := congrArg Prod.fst heq
    cases n with
    | zero => cases hzero
    | succ n => exact absurd (congrArg List.head? hzero) (head_toDigits n.succ_pos)
  · next heq => cases heq; rfl

/-- The numeral of a natural number is taken without a fraction and an exponent. -/
theorem takeNumeral_ofNat (negative : Bool) (n : Nat) :
    takeNumeral negative (Numeral.ofNat n).toList =
      some (⟨negative, (Numeral.ofNat n).toList, [], none⟩, []) := by
  rw [takeNumeral, takeWhole_ofNat]
  rfl

/-- The numeral of a natural number starts with a digit. -/
theorem exists_ofNat_eq_cons (n : Nat) :
    ∃ c cs, (Numeral.ofNat n).toList = c :: cs ∧ isDigit c = true := by
  cases hchars : (Numeral.ofNat n).toList with
  | nil =>
    rw [Numeral.ofNat, String.toList_ofList] at hchars
    exact absurd hchars Nat.toDigits_ne_nil
  | cons c cs =>
    exact ⟨c, cs, rfl, Numeral.isDigit_of_mem_ofNat (hchars ▸ List.mem_cons_self)⟩

/-- The numeral of a negative number starts with a minus sign. -/
theorem numberText_negSucc (n : Nat) :
    (numberText (.int (.negSucc n))).toList = '-' :: (Numeral.ofNat (n + 1)).toList := by
  show ("-" ++ Numeral.ofNat (n + 1)).toList = _
  rw [String.toList_append]
  rfl

/-- A whole number is taken from its whole numeral. -/
theorem takeNumber_numberText_int (i : Int) :
    takeNumber (numberText (.int i)).toList =
      (Numeral.mk (decide (i < 0)) (Numeral.ofNat i.natAbs).toList [] none).toNumber?.map
        (·, []) := by
  cases i with
  | ofNat n =>
    obtain ⟨c, cs, hchars, hdigit⟩ := exists_ofNat_eq_cons n
    have hhead : (Numeral.ofNat n).toList.head? ≠ some '-' := by
      rw [hchars]
      rintro ⟨⟩
      exact absurd hdigit (by decide)
    show takeNumber (Numeral.ofNat n).toList = _
    rw [takeNumber_of_ne hhead, takeNumeral_ofNat]
    rfl
  | negSucc n =>
    rw [numberText_negSucc, takeNumber_minus, takeNumeral_ofNat,
      decide_eq_true (Int.negSucc_lt_zero n)]
    rfl

/-- A whole number that fits 64 bits is taken from its numeral. -/
theorem takeNumber_int {i : Int} (hmin : Numeral.minSigned 64 ≤ i)
    (hmax : i ≤ Numeral.maxUnsigned 64) :
    takeNumber (numberText (.int i)).toList = some (.int i, []) := by
  rw [takeNumber_numberText_int]
  cases i with
  | ofNat n =>
    have hvalue : n ≤ Numeral.maxUnsigned 64 := Int.ofNat_le.mp hmax
    simp [Numeral.toNumber?, Numeral.valueFrom_ofNat, hvalue]
  | negSucc n =>
    have hvalue : Numeral.minSigned 64 ≤ -((n + 1 : Nat) : Int) := hmin
    have hbound := decide_eq_true hvalue
    rw [decide_eq_true (Int.negSucc_lt_zero n)]
    simp only [Numeral.toNumber?, Int.natAbs_negSucc, Nat.succ_eq_add_one, Numeral.valueFrom_ofNat,
      List.isEmpty_nil, Option.isNone_none, Bool.and_self, Bool.not_true, Bool.false_and, hbound,
      Nat.succ_pos, decide_true, if_true, Bool.false_eq_true, if_false]
    rfl

/-! ## Floating-point numbers -/

/-- The characters are digits, and there is one. -/
def AreDigits (cs : List Char) : Prop :=
  cs ≠ [] ∧ ∀ c ∈ cs, isDigit c = true

/-- A zero is a text of digits. -/
theorem areDigits_zero : AreDigits ['0'] :=
  ⟨nofun, List.forall_mem_singleton.mpr rfl⟩

/-- The text of a number that is not whole: digits with a fraction, with an exponent, or both. -/
inductive IsDecimal : List Char → Prop where
  | fraction {whole fraction : List Char} (hwhole : AreDigits whole)
      (hfraction : AreDigits fraction) : IsDecimal (whole ++ '.' :: fraction)
  | exponent {whole power : List Char} {sign : Char} (hwhole : AreDigits whole)
      (hsign : sign = '+' ∨ sign = '-') (hpower : AreDigits power) :
      IsDecimal (whole ++ 'e' :: sign :: power)
  | both {whole fraction power : List Char} {sign : Char} (hwhole : AreDigits whole)
      (hfraction : AreDigits fraction) (hsign : sign = '+' ∨ sign = '-')
      (hpower : AreDigits power) :
      IsDecimal (whole ++ '.' :: (fraction ++ 'e' :: sign :: power))

/-- A text of this form starts with a digit. -/
theorem IsDecimal.exists_eq_cons {cs : List Char} (h : IsDecimal cs) :
    ∃ c rest, cs = c :: rest ∧ isDigit c = true := by
  have hfirst : ∀ {whole : List Char} (rest : List Char), AreDigits whole →
      ∃ c tail, whole ++ rest = c :: tail ∧ isDigit c = true := by
    rintro whole rest ⟨hne, hdigits⟩
    cases whole with
    | nil => exact absurd rfl hne
    | cons c tail => exact ⟨c, tail ++ rest, rfl, hdigits c List.mem_cons_self⟩
  cases h with
  | fraction hwhole _ => exact hfirst _ hwhole
  | exponent hwhole _ _ => exact hfirst _ hwhole
  | both hwhole _ _ _ => exact hfirst _ hwhole

/-- A text that starts with a digit does not start with a minus sign. -/
theorem head?_ne_minus {cs : List Char} (h : ∃ c rest, cs = c :: rest ∧ isDigit c = true) :
    cs.head? ≠ some '-' := by
  obtain ⟨c, rest, rfl, hdigit⟩ := h
  rintro ⟨⟩
  exact absurd hdigit (by decide)

/-- The parts of a numeral are taken one after another. -/
theorem takeNumeral_eq_some_iff {negative : Bool} {cs left : List Char} {n : Numeral} :
    takeNumeral negative cs = some (n, left) ↔ n.negative = negative ∧ ∃ r r',
      takeWhole cs = some (n.whole, r) ∧ takeFraction r = some (n.fraction, r') ∧
        takeExponent r' = some (n.exponent, left) := by
  unfold takeNumeral
  simp only [Option.bind_eq_bind, Option.bind_eq_some_iff, Prod.exists, Option.some.injEq,
    Prod.mk.injEq]
  constructor
  · rintro ⟨whole, r, hwhole, fraction, r', hfraction, exponent, last, hexponent, rfl, rfl⟩
    exact ⟨rfl, r, r', hwhole, hfraction, hexponent⟩
  · rintro ⟨rfl, r, r', hwhole, hfraction, hexponent⟩
    exact ⟨_, r, hwhole, _, r', hfraction, _, left, hexponent, rfl, rfl⟩

/-- A whole part is made of the digits in front. -/
theorem takeDigits_of_takeWhole {cs whole rest : List Char}
    (h : takeWhole cs = some (whole, rest)) : takeDigits cs = (whole, rest) := by
  unfold takeWhole at h
  split at h
  · cases h
  · cases h
  · next heq => rw [heq, ← Option.some.inj h]

/-- A fraction is taken with all of its digits. -/
theorem takeFraction_of_digits {fraction rest : List Char} (hfraction : AreDigits fraction)
    (h : ∀ c ∈ rest.head?, isDigit c = false) :
    takeFraction ('.' :: (fraction ++ rest)) = some (fraction, rest) := by
  obtain ⟨hne, hdigits⟩ := hfraction
  rw [takeFraction, takeDigits_of_digits hdigits h]
  cases fraction with
  | nil => exact absurd rfl hne
  | cons c cs => rfl

/-- An exponent is taken with its sign and all of its digits. -/
theorem takeExponent_of_digits {power : List Char} {sign : Char}
    (hsign : sign = '+' ∨ sign = '-') (hpower : AreDigits power) :
    takeExponent ('e' :: sign :: power) = some (some (decide (sign = '-'), power), []) := by
  obtain ⟨hne, hdigits⟩ := hpower
  rcases hsign with rfl | rfl
  all_goals
    rw [takeExponent, if_pos (.inl rfl), takeExponentSign]
    simp only [takeDigits_self hdigits]
    cases power with
    | nil => exact absurd rfl hne
    | cons c cs => rfl

/-- What is taken of a text of this form is all of it, and has a fraction or an exponent. -/
theorem IsDecimal.taken {cs left : List Char} (h : IsDecimal cs) {negative : Bool} {n : Numeral}
    (htaken : takeNumeral negative cs = some (n, left)) :
    left = [] ∧ (n.fraction ≠ [] ∨ n.exponent ≠ none) := by
  obtain ⟨-, r, r', hwhole, hfraction, hexponent⟩ := takeNumeral_eq_some_iff.mp htaken
  have hdigits := takeDigits_of_takeWhole hwhole
  obtain ⟨_, taken, takenFraction, takenExponent⟩ := n
  dsimp only at hwhole hfraction hexponent hdigits ⊢
  have hpoint : ∀ rest : List Char, ∀ c ∈ ('.' :: rest).head?, isDigit c = false := by
    rintro rest c ⟨⟩
    rfl
  have hletter : ∀ rest : List Char, ∀ c ∈ ('e' :: rest).head?, isDigit c = false := by
    rintro rest c ⟨⟩
    rfl
  cases h with
  | @fraction whole fraction hdigitsWhole hdigitsFraction =>
    rw [takeDigits_of_digits hdigitsWhole.2 (hpoint _)] at hdigits
    cases hdigits
    have hexpected : takeFraction ('.' :: (fraction ++ [])) = some (fraction, []) :=
      takeFraction_of_digits hdigitsFraction nofun
    rw [List.append_nil, hfraction] at hexpected
    cases hexpected
    cases hexponent
    exact ⟨rfl, .inl hdigitsFraction.1⟩
  | exponent hdigitsWhole hsign hpower =>
    rw [takeDigits_of_digits hdigitsWhole.2 (hletter _)] at hdigits
    cases hdigits
    cases hfraction
    rw [takeExponent_of_digits hsign hpower] at hexponent
    cases hexponent
    exact ⟨rfl, .inr nofun⟩
  | both hdigitsWhole hdigitsFraction hsign hpower =>
    rw [takeDigits_of_digits hdigitsWhole.2 (hpoint _)] at hdigits
    cases hdigits
    rw [takeFraction_of_digits hdigitsFraction (hletter _)] at hfraction
    cases hfraction
    rw [takeExponent_of_digits hsign hpower] at hexponent
    cases hexponent
    exact ⟨rfl, .inl hdigitsFraction.1⟩

/-- A numeral with a fraction or an exponent has a floating-point number, if any. -/
theorem exists_float_of_toNumber? {n : Numeral} (h : n.fraction ≠ [] ∨ n.exponent ≠ none)
    {m : JsonNumber} (hm : n.toNumber? = some m) : ∃ x, m = .float x := by
  have hother : (n.fraction.isEmpty && n.exponent.isNone) = false := by
    rcases h with h | h
    · rw [List.isEmpty_eq_false_iff.mpr h, Bool.false_and]
    · rw [Option.isNone_eq_false_iff.mpr (Option.isSome_iff_ne_none.mpr h), Bool.and_false]
  rw [Numeral.toNumber?, hother] at hm
  obtain ⟨x, _, rfl⟩ := Option.map_eq_some_iff.mp hm
  exact ⟨x, rfl⟩

/-- The digits of a natural number are digits. -/
theorem areDigits_toDigits (n : Nat) : AreDigits (Nat.toDigits 10 n) := by
  refine ⟨Nat.toDigits_ne_nil, fun c hc ↦ Numeral.isDigit_of_mem_ofNat (n := n) ?_⟩
  rw [Numeral.ofNat, String.toList_ofList]
  exact hc

/-- Digits behind or in front of digits are digits. -/
theorem AreDigits.append {cs ds : List Char} (hcs : ∀ c ∈ cs, isDigit c = true)
    (hds : ∀ c ∈ ds, isDigit c = true) (hlength : 0 < cs.length + ds.length) :
    AreDigits (cs ++ ds) := by
  refine ⟨List.ne_nil_of_length_pos (by rwa [List.length_append]), fun c hc ↦ ?_⟩
  rcases List.mem_append.mp hc with hc | hc
  · exact hcs c hc
  · exact hds c hc

/-- The first of some digits are digits. -/
theorem AreDigits.take {cs : List Char} {n : Nat} (h : ∀ c ∈ cs, isDigit c = true)
    (hlength : 0 < min n cs.length) : AreDigits (cs.take n) :=
  ⟨List.ne_nil_of_length_pos (by rwa [List.length_take]), fun c hc ↦ h c (List.mem_of_mem_take hc)⟩

/-- The others of them are digits. -/
theorem AreDigits.drop {cs : List Char} {n : Nat} (h : ∀ c ∈ cs, isDigit c = true)
    (hlength : n < cs.length) : AreDigits (cs.drop n) :=
  ⟨List.ne_nil_of_length_pos (by rw [List.length_drop]; omega),
    fun c hc ↦ h c (List.mem_of_mem_drop hc)⟩

/-- Zeros are digits. -/
theorem isDigit_of_mem_zeros {n : Nat} {c : Char} (h : c ∈ List.replicate n '0') :
    isDigit c = true := by
  rw [List.eq_of_mem_replicate h]
  rfl

end CloudControl.Json

namespace CloudControl.Binary64.Digits

open Json Text

/-- Whole digits with a fraction of zero. -/
theorem isDecimal_whole {d : Digits} (h : 0 ≤ d.exponent) :
    IsDecimal (d.positional ++ ".0").toList := by
  have htext : (d.positional ++ ".0").toList =
      (Nat.toDigits 10 d.digits ++ List.replicate d.exponent.toNat '0') ++ '.' :: ['0'] := by
    rw [String.toList_append, positional, if_pos h, String.toList_ofList]
    rfl
  rw [htext]
  have hdigits := areDigits_toDigits d.digits
  have hlength := List.length_pos_iff.mpr hdigits.1
  exact .fraction (.append hdigits.2 (fun _ ↦ isDigit_of_mem_zeros) (by omega)) areDigits_zero

/-- Digits with a point among them or zeros behind it. -/
theorem isDecimal_positional {d : Digits} (h : d.exponent < 0) :
    IsDecimal d.positional.toList := by
  rw [positional, if_neg (Int.not_le.mpr h), String.toList_ofList]
  generalize hplaces : (-d.exponent).toNat = places
  obtain ⟨hne, hdigits⟩ := areDigits_toDigits d.digits
  generalize Nat.toDigits 10 d.digits = digits at hne hdigits
  have hfilled : ∀ c ∈ List.replicate (places + 1 - digits.length) '0' ++ digits,
      isDigit c = true := fun c hc ↦
    (List.mem_append.mp hc).elim isDigit_of_mem_zeros (hdigits c)
  have hlength : (List.replicate (places + 1 - digits.length) '0' ++ digits).length =
      places + 1 - digits.length + digits.length := by
    rw [List.length_append, List.length_replicate]
  generalize List.replicate (places + 1 - digits.length) '0' ++ digits = filled
    at hfilled hlength
  have hsome := List.length_pos_iff.mpr hne
  exact .fraction (.take hfilled (by omega)) (.drop hfilled (by omega))

/-- The power behind a number is written with its sign. -/
theorem exists_power (power : Int) : ∃ sign digits, (sign = '+' ∨ sign = '-') ∧ AreDigits digits ∧
    ((if power < 0 then "e" else "e+") ++ Text.Numeral.ofInt power).toList =
      'e' :: sign :: digits := by
  cases power with
  | ofNat n =>
    refine ⟨'+', Nat.toDigits 10 n, .inl rfl, areDigits_toDigits n, ?_⟩
    have htext : Text.Numeral.ofInt (.ofNat n) = String.ofList (Nat.toDigits 10 n) := rfl
    have hsign : ¬ Int.ofNat n < 0 := Int.not_lt.mpr (Int.natCast_nonneg n)
    simp only [if_neg hsign, htext, String.toList_append, String.toList_ofList]
    rfl
  | negSucc n =>
    refine ⟨'-', Nat.toDigits 10 (n + 1), .inr rfl, areDigits_toDigits (n + 1), ?_⟩
    have htext : Text.Numeral.ofInt (.negSucc n) =
        "-" ++ String.ofList (Nat.toDigits 10 (n + 1)) := rfl
    simp only [if_pos (Int.negSucc_lt_zero n), htext, String.toList_append, String.toList_ofList]
    rfl

/-- Digits with an exponent. -/
theorem isDecimal_scientific (d : Digits) : IsDecimal d.scientific.toList := by
  obtain ⟨hne, hdigits⟩ := areDigits_toDigits d.digits
  obtain ⟨sign, power, hsign, hpower, htext⟩ :=
    exists_power (d.exponent + (Nat.toDigits 10 d.digits).length - 1)
  have hshape : d.scientific.toList = (Nat.toDigits 10 d.digits).take 1 ++
      (if (Nat.toDigits 10 d.digits).length > 1 then "." ++
        String.ofList ((Nat.toDigits 10 d.digits).drop 1) else "").toList ++
      'e' :: sign :: power := by
    rw [← htext, scientific, String.append_assoc, String.append_assoc, String.toList_append,
      String.toList_append, String.toList_ofList, List.append_assoc]
  rw [hshape]
  generalize Nat.toDigits 10 d.digits = digits at hne hdigits
  have hsome := List.length_pos_iff.mpr hne
  have hfirst : AreDigits (digits.take 1) := .take hdigits (by omega)
  split
  · next hmore =>
    simp only [String.toList_append, String.toList_ofList, List.append_assoc]
    exact .both hfirst (.drop hdigits hmore) hsign hpower
  · rw [String.toList_empty, List.append_nil]
    exact .exponent hfirst hsign hpower

end CloudControl.Binary64.Digits

namespace CloudControl.Json

open Text

/-- The text of a floating-point number: a number that is not whole, with or without a minus
sign. -/
theorem exists_isDecimal_jsonText (x : Binary64) :
    ∃ cs, IsDecimal cs ∧ (x.jsonText.toList = cs ∨ x.jsonText.toList = '-' :: cs) := by
  obtain ⟨text, hdecimal, htext⟩ : ∃ text : String, IsDecimal text.toList ∧
      x.jsonText = x.signText ++ text := by
    refine ⟨_, ?_, rfl⟩
    split
    · exact .fraction areDigits_zero areDigits_zero
    · split
      · split
        · next h => exact Binary64.Digits.isDecimal_whole h
        · next h => exact Binary64.Digits.isDecimal_positional (Int.not_le.mp h)
      · exact Binary64.Digits.isDecimal_scientific _
  refine ⟨text.toList, hdecimal, ?_⟩
  rw [htext, String.toList_append, Binary64.signText]
  cases x.isNegative
  · exact .inl rfl
  · exact .inr rfl

/-- What is taken of the text of a floating-point number is all of it, as some floating-point
number. -/
theorem takeNumber_jsonText {x : Binary64} {n : JsonNumber} {left : List Char}
    (h : takeNumber x.jsonText.toList = some (n, left)) : left = [] ∧ ∃ y, n = .float y := by
  obtain ⟨cs, hdecimal, htext⟩ := exists_isDecimal_jsonText x
  have hvalued : ∀ negative, (takeNumeral negative cs).bind valued = some (n, left) →
      left = [] ∧ ∃ y, n = .float y := by
    intro negative hnumber
    obtain ⟨⟨numeral, rest⟩, htaken, hvalue⟩ := Option.bind_eq_some_iff.mp hnumber
    obtain ⟨rfl, hform⟩ := hdecimal.taken htaken
    obtain ⟨m, hm, heq⟩ := Option.map_eq_some_iff.mp hvalue
    cases heq
    exact ⟨rfl, exists_float_of_toNumber? hform hm⟩
  rcases htext with htext | htext
  · rw [htext, takeNumber_of_ne (head?_ne_minus hdecimal.exists_eq_cons)] at h
    exact hvalued false h
  · rw [htext, takeNumber_minus] at h
    exact hvalued true h

end CloudControl.Json
