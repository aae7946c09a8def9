import CloudControl.Calendar.Reader
import CloudControl.Proofs.Calendar.Date
import CloudControl.Proofs.Text.Numeral

/-!
# Timestamps are read back as they were written

`lenient?_written` follows the reader over the written form of a timestamp: each number is read
off the front and leaves what follows it. The written form has no fraction of a second, so the
timestamp that comes back has none. Whatever is read in any of the notations can be written and
read again (`isSupported_of_parse?`, `parse?_text`).
-/

namespace CloudControl

open Text

namespace Calendar

/-- The text does not go on with a digit. -/
def EndsNumber (cs : List Char) : Prop :=
  ∀ c ∈ cs.head?, isDigit c = false

/-- A number ends before a character other than a digit. -/
theorem endsNumber_cons {c : Char} (h : isDigit c = false) (rest : List Char) :
    EndsNumber (c :: rest) := by
  intro d hd
  rw [List.head?_cons, Option.mem_some_iff] at hd
  exact hd ▸ h

/-- Of the digits at the front those are taken that may be, if what follows them is no digit or not
looked at. -/
theorem takeWhile_take_append {most : Nat} {digits rest : List Char}
    (hdigits : ∀ c ∈ digits, isDigit c = true) (hend : most ≤ digits.length ∨ EndsNumber rest) :
    ((digits ++ rest).take most).takeWhile isDigit = digits.take most := by
  rw [List.take_append,
    List.takeWhile_append_of_pos fun c hc ↦ hdigits c (List.mem_of_mem_take hc)]
  rcases hend with hfull | hend
  · simp [Nat.sub_eq_zero_of_le hfull]
  · cases rest with
    | nil => simp
    | cons c rest =>
      have hc : isDigit c = false := hend c rfl
      cases most - digits.length with
      | zero => simp
      | succ k => simp [hc]

/-- Digits are taken off the front, if they are not too many and the number ends after them. -/
theorem number_append {least most : Nat} {digits rest : List Char}
    (hdigits : ∀ c ∈ digits, isDigit c = true) (hleast : least ≤ digits.length)
    (hmost : digits.length ≤ most) (hend : digits.length = most ∨ EndsNumber rest) :
    number least most (digits ++ rest) = some (Numeral.valueFrom 0 digits, rest) := by
  have htaken : ((digits ++ rest).take most).takeWhile isDigit = digits := by
    rw [takeWhile_take_append hdigits (hend.imp_left fun hfull ↦ Nat.le_of_eq hfull.symm),
      List.take_of_length_le hmost]
  simp only [number, htaken]
  rw [if_neg (by omega), List.drop_left]

/-- A padded numeral is taken off the front, if it has the greatest width or the number ends
after it. -/
theorem number_padded {least most width n : Nat} {rest : List Char} (hleast : least ≤ width)
    (hmost : (Numeral.padded width n).toList.length ≤ most)
    (hend : (Numeral.padded width n).toList.length = most ∨ EndsNumber rest) :
    number least most ((Numeral.padded width n).toList ++ rest) = some (n, rest) := by
  rw [number_append (fun c hc ↦ Numeral.isDigit_of_mem_padded hc)
    (Nat.le_trans hleast (Numeral.le_length_padded width n)) hmost hend, Numeral.valueFrom_padded]

/-- A padded numeral starts with a digit. -/
theorem exists_padded_eq_cons {width : Nat} (hwidth : 0 < width) (n : Nat) :
    ∃ c cs, (Numeral.padded width n).toList = c :: cs ∧ isDigit c = true := by
  cases hcs : (Numeral.padded width n).toList with
  | nil =>
    have hlength := Numeral.le_length_padded width n
    rw [hcs, List.length_nil] at hlength
    omega
  | cons c cs => exact ⟨c, cs, rfl, Numeral.isDigit_of_mem_padded (hcs ▸ List.mem_cons_self)⟩

/-- No blank stands in front of a padded numeral. -/
theorem trimStart_padded {width : Nat} (hwidth : 0 < width) (n : Nat) (rest : List Char) :
    trimStart ((Numeral.padded width n).toList ++ rest) =
      (Numeral.padded width n).toList ++ rest := by
  obtain ⟨c, cs, hcs, hc⟩ := exists_padded_eq_cons hwidth n
  rw [hcs]
  exact trimStart_cons_of_not_blank (isBlank_of_digit hc)

/-- A numeral of two digits is taken off the front. -/
theorem number_padded_two {n : Nat} (h : n < 100) (least : Nat) (hleast : least ≤ 2)
    (rest : List Char) :
    number least 2 ((Numeral.padded 2 n).toList ++ rest) = some (n, rest) := by
  have hlength : (Numeral.padded 2 n).toList.length = 2 := Numeral.length_padded (by decide) h
  exact number_padded hleast (Nat.le_of_eq hlength) (.inl hlength)

/-- A numeral of two digits is taken off the front. -/
theorem shortNumber_padded {n : Nat} (h : n < 100) (rest : List Char) :
    shortNumber ((Numeral.padded 2 n).toList ++ rest) = some (n, rest) := by
  rw [shortNumber, trimStart_padded (by decide), number_padded_two h 1 (by decide)]

/-- A year without a sign is taken off the front, if the number ends after it. -/
theorem year_padded {n : Nat} (h : n < 10000) {rest : List Char} (hend : EndsNumber rest) :
    year ((Numeral.padded 4 n).toList ++ rest) = some ((n : Int), rest) := by
  have hlength : (Numeral.padded 4 n).toList.length = 4 := Numeral.length_padded (by decide) h
  have hnumber : number 1 4 ((Numeral.padded 4 n).toList ++ rest) = some (n, rest) :=
    number_padded (by decide) (Nat.le_of_eq hlength) (.inr hend)
  obtain ⟨c, cs, hcs, hc⟩ := exists_padded_eq_cons (show 0 < 4 by decide) n
  rw [year, trimStart_padded (by decide)]
  -- The reader looks for a sign first, and a padded numeral starts with a digit.
  split
  · next heq =>
    rw [hcs, List.cons_append, List.cons.injEq] at heq
    rw [heq.1] at hc
    exact absurd hc (by decide)
  · next heq =>
    rw [hcs, List.cons_append, List.cons.injEq] at heq
    rw [heq.1] at hc
    exact absurd hc (by decide)
  · rw [hnumber]
    rfl

/-- A year after a minus sign. -/
theorem year_minus (cs : List Char) :
    year ('-' :: cs) = (number 1 cs.length cs).map fun (n, rest) ↦ (-(n : Int), rest) := by
  simp only [year, trimStart_cons_of_not_blank (show isBlank '-' = false by decide)]

/-- A year after a plus sign. -/
theorem year_plus (cs : List Char) :
    year ('+' :: cs) = (number 1 cs.length cs).map fun (n, rest) ↦ ((n : Int), rest) := by
  simp only [year, trimStart_cons_of_not_blank (show isBlank '+' = false by decide)]

/-- A year is taken off the front, if the number ends after it. A year that four digits do not
hold carries a sign and may take any number of digits. -/
theorem year_yearText (y : Int) {rest : List Char} (hend : EndsNumber rest) :
    year ((Date.yearText y).toList ++ rest) = some (y, rest) := by
  have hsigned : number 1 ((Numeral.padded 4 y.natAbs).toList ++ rest).length
      ((Numeral.padded 4 y.natAbs).toList ++ rest) = some (y.natAbs, rest) :=
    number_padded (by decide) (by simp) (.inr hend)
  unfold Date.yearText
  split
  · next hfour =>
    simp only [Bool.and_eq_true, decide_eq_true_eq] at hfour
    rw [year_padded (by omega) hend, Int.toNat_of_nonneg hfour.1]
  · next hfour =>
    rw [String.toList_append, List.append_assoc]
    split
    · next hneg =>
      rw [show "-".toList = ['-'] from rfl, List.singleton_append, year_minus, hsigned,
        Option.map_some, Option.some.injEq, Prod.mk.injEq]
      exact ⟨by omega, rfl⟩
    · next hneg =>
      rw [show "+".toList = ['+'] from rfl, List.singleton_append, year_plus, hsigned,
        Option.map_some, Option.some.injEq, Prod.mk.injEq]
      exact ⟨by omega, rfl⟩

/-- No blank starts a written year. -/
theorem isBlank_of_head_yearText {y : Int} {rest : List Char} {c : Char}
    (h : c ∈ ((Date.yearText y).toList ++ rest).head?) : isBlank c = false := by
  unfold Date.yearText at h
  split at h
  · obtain ⟨d, ds, hcs, hd⟩ := exists_padded_eq_cons (show 0 < 4 by decide) y.toNat
    rw [hcs, List.cons_append, List.head?_cons, Option.mem_some_iff] at h
    exact h ▸ isBlank_of_digit hd
  · rw [String.toList_append, List.append_assoc] at h
    split at h
    · rw [show "-".toList = ['-'] from rfl, List.singleton_append, List.head?_cons,
        Option.mem_some_iff] at h
      exact h ▸ rfl
    · rw [show "+".toList = ['+'] from rfl, List.singleton_append, List.head?_cons,
        Option.mem_some_iff] at h
      exact h ▸ rfl

/-- No blank ends a padded numeral. -/
theorem isBlank_of_getLast_padded {width n : Nat} (hwidth : 0 < width) {cs : List Char} {c : Char}
    (h : c ∈ (cs ++ (Numeral.padded width n).toList).getLast?) : isBlank c = false := by
  obtain ⟨d, ds, hds, _⟩ := exists_padded_eq_cons hwidth n
  have hlast : (Numeral.padded width n).toList.getLast? = some c := by
    rw [List.getLast?_append, hds, List.getLast?_cons, Option.some_or] at h
    rw [hds, List.getLast?_cons]
    exact h
  exact isBlank_of_digit (Numeral.isDigit_of_mem_padded (List.mem_of_getLast? hlast))

/-- No divider stands in front of a padded numeral. -/
theorem skipDividers_padded {width : Nat} (hwidth : 0 < width) (n : Nat) :
    skipDividers (Numeral.padded width n).toList = some (Numeral.padded width n).toList := by
  obtain ⟨c, cs, hcs, hc⟩ := exists_padded_eq_cons hwidth n
  have hcolon : (c == ':') = false := by
    rw [beq_eq_false_iff_ne]
    rintro rfl
    exact absurd hc (by decide)
  simp [skipDividers, hcs, hcolon, isBlank_of_digit hc]

/-- A colon is skipped. -/
theorem skipDividers_colon (cs : List Char) : skipDividers (':' :: cs) = skipDividers cs := by
  simp [skipDividers]

/-- Hours and minutes of two digits are read behind the sign of an offset, if what stands between
them is taken. -/
theorem offset_padded {divide : List Char → Option (List Char)} {cs rest : List Char}
    {sign : Int} {hours minutes : Nat}
    (hsign : offsetSign cs = some (sign, (Numeral.padded 2 hours).toList ++ rest))
    (hdivide : divide rest = some (Numeral.padded 2 minutes).toList) (hhours : hours < 100)
    (hminutes : minutes ≤ 59) :
    offset divide cs = some (sign * (hours * 3600 + minutes * 60), []) := by
  have hlast := number_padded_two (show minutes < 100 by omega) 2 (by decide) []
  rw [List.append_nil] at hlast
  rw [offset]
  simp only [Option.bind_eq_bind, hsign, Option.bind_some,
    number_padded_two hhours 2 (by decide), hdivide, hlast, if_pos hminutes]

/-- An offset that is read is one of whole minutes. -/
theorem offset_emod {divide : List Char → Option (List Char)} {cs rest : List Char} {o : Int}
    (h : offset divide cs = some (o, rest)) : o % 60 = 0 := by
  simp only [offset, Option.bind_eq_bind, Option.bind_eq_some_iff] at h
  obtain ⟨⟨sign, _⟩, _, ⟨hours, _⟩, _, _, _, ⟨minutes, _⟩, _, h⟩ := h
  split at h
  · cases h
    exact Int.emod_eq_zero_of_dvd (Int.dvd_mul_of_dvd_right (by omega))
  · cases h

/-- An offset of the Internet profile is one of whole minutes. -/
theorem internetOffset_emod {cs rest : List Char} {o : Int}
    (h : internetOffset cs = some (o, rest)) : o % 60 = 0 := by
  unfold internetOffset at h
  split at h
  · cases h
    rfl
  · cases h
    rfl
  · exact offset_emod h

/-- A text is taken off the front of itself. -/
theorem literal_append (s rest : List Char) : literal s (s ++ rest) = some rest := by
  induction s with
  | nil => rfl
  | cons c s ih =>
    rw [literal, List.cons_append, List.foldlM_cons, char, if_pos rfl]
    exact ih

end Calendar

namespace Timestamp

/-! ## Offsets -/

/-- A sign, hours and minutes of two digits, and what divides them. -/
def spelledOffset (divider : List Char) (offset : Int) : List Char :=
  (if offset < 0 then '-' else '+') :: ((Numeral.padded 2 (offset.natAbs / 3600)).toList ++
    (divider ++ (Numeral.padded 2 (offset.natAbs / 60 % 60)).toList))

/-- No blank stands in front of an offset. -/
theorem trimStart_spelledOffset (divider : List Char) (o : Int) :
    trimStart (spelledOffset divider o) = spelledOffset divider o := by
  have hsign : isBlank (if o < 0 then '-' else '+') = false := by
    split <;> decide
  exact trimStart_cons_of_not_blank hsign

/-- An offset of whole minutes is read, if what divides its hours and minutes is taken. -/
theorem offset_spelledOffset {divide : List Char → Option (List Char)} {divider : List Char}
    {o : Int} (hdivide : ∀ n, divide (divider ++ (Numeral.padded 2 n).toList) =
      some (Numeral.padded 2 n).toList) (hrange : o.natAbs < 86400) (hminutes : o % 60 = 0) :
    Calendar.offset divide (spelledOffset divider o) = some (o, []) := by
  have hparts : ((o.natAbs / 3600 : Nat) : Int) * 3600 + (o.natAbs / 60 % 60 : Nat) * 60 =
      o.natAbs := by
    omega
  have hread : ∀ {cs : List Char} {sign : Int}, Calendar.offsetSign cs = some (sign,
      (Numeral.padded 2 (o.natAbs / 3600)).toList ++
        (divider ++ (Numeral.padded 2 (o.natAbs / 60 % 60)).toList)) →
      Calendar.offset divide cs = some (sign * o.natAbs, []) := by
    intro cs sign hsign
    rw [Calendar.offset_padded hsign (hdivide _) (by omega) (by omega), hparts]
  unfold spelledOffset
  split
  all_goals
    rw [hread rfl, Option.some.injEq, Prod.mk.injEq]
    exact ⟨by omega, rfl⟩

/-- The written form of an offset of whole minutes is its spelling without a colon. -/
theorem toList_offsetText {o : Int} (hminutes : o % 60 = 0) :
    (offsetText o).toList = spelledOffset [] o := by
  have hhours : (o.natAbs + 30) / 60 / 60 = o.natAbs / 3600 := by omega
  have hrest : (o.natAbs + 30) / 60 % 60 = o.natAbs / 60 % 60 := by omega
  simp only [offsetText, String.toList_append, hhours, hrest, spelledOffset, List.nil_append,
    List.append_assoc]
  split
  · rw [show "-".toList = ['-'] from rfl, List.singleton_append]
  · rw [show "+".toList = ['+'] from rfl, List.singleton_append]

/-- An offset of whole minutes is read back. -/
theorem offset_offsetText {o : Int} (hrange : o.natAbs < 86400) (hminutes : o % 60 = 0) :
    Calendar.offset Calendar.skipDividers (trimStart (offsetText o).toList) = some (o, []) := by
  have hskip : ∀ n, Calendar.skipDividers ([] ++ (Numeral.padded 2 n).toList) =
      some (Numeral.padded 2 n).toList := by
    intro n
    rw [List.nil_append, Calendar.skipDividers_padded (by decide)]
  rw [toList_offsetText hminutes, trimStart_spelledOffset,
    offset_spelledOffset hskip hrange hminutes]

/-! ## The written form -/

/-- The timestamp at the start of its second. -/
def withoutFraction (t : Timestamp) : Timestamp :=
  { t with nanos := 0 }

/-- The point in time of a timestamp at the start of its second. -/
theorem instant_withoutFraction (t : Timestamp) : t.withoutFraction.instant =
    ⟨t.unix, if t.second = 60 then Instant.nanosPerSecond else 0⟩ := by
  rw [instant, show t.withoutFraction.nanos = 0 from rfl, Nat.zero_add]
  rfl

/-- The written form of the time of day and the offset. -/
def clockText (t : Timestamp) : List Char :=
  (Numeral.padded 2 t.hour).toList ++ ':' :: ((Numeral.padded 2 t.minute).toList ++
    ':' :: ((Numeral.padded 2 t.second).toList ++ (offsetText t.offset).toList))

/-- The time of day alone. -/
def timeText (t : Timestamp) : List Char :=
  (Numeral.padded 2 t.hour).toList ++ ':' :: ((Numeral.padded 2 t.minute).toList ++
    ':' :: (Numeral.padded 2 t.second).toList)

/-- The offset is written behind the time of day. -/
theorem clockText_eq (t : Timestamp) :
    t.clockText = t.timeText ++ (offsetText t.offset).toList := by
  simp [clockText, timeText]

/-- The written form of a date. -/
theorem toList_dateText (d : Date) : d.text.toList =
    (Date.yearText d.year).toList ++ '-' :: ((Numeral.padded 2 d.month).toList ++
      '-' :: (Numeral.padded 2 d.day).toList) := by
  simp [Date.text]

/-- The written form of a timestamp is a date, a divider, and the time of day. -/
theorem toList_text (t : Timestamp) :
    t.text.toList = t.date.text.toList ++ (['T'] ++ t.clockText) := by
  simp [text, clockText]

variable {t : Timestamp}

/-- What a supported timestamp says about its numbers. -/
theorem isSupported_bounds (h : t.isSupported = true) :
    t.date.month < 100 ∧ t.date.day < 100 ∧ t.hour < 100 ∧ t.minute < 100 ∧ t.second < 100 ∧
      t.offset.natAbs < 86400 := by
  simp only [isSupported, Date.isSupported, hasValidTime, Bool.and_eq_true,
    decide_eq_true_eq] at h
  obtain ⟨⟨⟨⟨⟨⟨hdate, -⟩, -⟩, htime⟩, hoffset⟩, -⟩, -⟩ := h
  have hbounds := Date.bounds_of_isValid hdate
  omega

/-- A divider that is missing behind the date is an error. -/
theorem lenient?_of_divider (h : t.isSupported = true) {divider rest : List Char}
    (hdivider : Calendar.literal divider rest = none) :
    Calendar.lenient? divider (t.date.text.toList ++ rest) = none := by
  obtain ⟨hmonth, hday, -⟩ := isSupported_bounds h
  simp only [toList_dateText, Calendar.lenient?, List.append_assoc, List.cons_append,
    Option.bind_eq_bind, Option.bind_some,
    Calendar.year_yearText _ (Calendar.endsNumber_cons (show isDigit '-' = false by decide) _),
    Calendar.char, if_true, Calendar.shortNumber_padded hmonth, Calendar.shortNumber_padded hday,
    hdivider, Option.bind_none]

/-- Behind the date, the divider and the time of day, the offset is what is left to be read. -/
theorem lenient?_clock (h : t.isSupported = true) (divider zone : List Char) :
    Calendar.lenient? divider (t.date.text.toList ++ (divider ++ (t.timeText ++ zone))) =
      (Calendar.offset Calendar.skipDividers (trimStart zone)).bind fun (o, rest) ↦
        if rest.isEmpty then validate? { t.withoutFraction with offset := o } else none := by
  obtain ⟨hmonth, hday, hhour, hminute, hsecond, -⟩ := isSupported_bounds h
  simp only [toList_dateText, Calendar.lenient?, timeText, List.append_assoc, List.cons_append,
    Option.bind_eq_bind, Option.bind_some,
    Calendar.year_yearText _ (Calendar.endsNumber_cons (show isDigit '-' = false by decide) _),
    Calendar.char, if_true, Calendar.shortNumber_padded hmonth, Calendar.shortNumber_padded hday,
    Calendar.literal_append, Calendar.shortNumber_padded hhour,
    Calendar.shortNumber_padded hminute, Calendar.shortNumber_padded hsecond, withoutFraction]

/-- A timestamp is read back from its written form, with any divider between date and time. The
fraction of its second is lost. -/
theorem lenient?_written (h : t.isSupported = true) (hoffset : t.offset % 60 = 0)
    (divider : List Char) :
    Calendar.lenient? divider (t.date.text.toList ++ (divider ++ t.clockText)) =
      some t.withoutFraction := by
  obtain ⟨-, -, -, -, -, hrange⟩ := isSupported_bounds h
  rw [clockText_eq, lenient?_clock h, offset_offsetText hrange hoffset]
  exact if_pos h

/-- A supported timestamp with an offset of whole minutes is read back from its written form up to
the fraction of its second. -/
theorem ofText?_text (h : t.isSupported = true) (hoffset : t.offset % 60 = 0) :
    ofText? t.text = some t.withoutFraction := by
  rw [ofText?, toList_text, lenient?_written h hoffset]

/-! ## All notations -/

/-- A timestamp that is read in a lenient notation is supported, with an offset of whole
minutes. -/
theorem isSupported_of_lenient? {divider cs : List Char}
    (h : Calendar.lenient? divider cs = some t) : t.isSupported = true ∧ t.offset % 60 = 0 := by
  -- The offset is the last part, after eleven others.
  iterate 11 obtain ⟨_, _, h⟩ := Option.bind_eq_some_iff.mp h
  obtain ⟨⟨o, _⟩, hoffset, h⟩ := Option.bind_eq_some_iff.mp h
  obtain ⟨rfl, hsupported⟩ := eq_of_validate? (Option.ite_none_right_eq_some.mp h).2
  exact ⟨hsupported, Calendar.offset_emod hoffset⟩

/-- A timestamp that is read in the Internet profile is supported, with an offset of whole
minutes. -/
theorem isSupported_of_internet? {cs : List Char} (h : Calendar.internet? cs = some t) :
    t.isSupported = true ∧ t.offset % 60 = 0 := by
  -- The offset is the last part, after twelve others.
  iterate 12 obtain ⟨_, _, h⟩ := Option.bind_eq_some_iff.mp h
  obtain ⟨⟨o, _⟩, hoffset, h⟩ := Option.bind_eq_some_iff.mp h
  obtain ⟨rfl, hsupported⟩ := eq_of_validate? (Option.ite_none_right_eq_some.mp h).2
  exact ⟨hsupported, Calendar.internetOffset_emod hoffset⟩

/-- A timestamp that is read is supported, with an offset of whole minutes. -/
theorem isSupported_of_parse? {s : String} (h : parse? s = some t) :
    t.isSupported = true ∧ t.offset % 60 = 0 := by
  simp only [parse?, Option.orElse_eq_orElse, Option.orElse_eq_or, Option.or_eq_some_iff] at h
  rcases h with h | ⟨_, h | ⟨_, h⟩⟩
  · exact isSupported_of_lenient? h
  · exact isSupported_of_lenient? h
  · exact isSupported_of_internet? h

/-- No blank stands at either end of a written form. -/
theorem trimList_text (t : Timestamp) : trimList t.text.toList = t.text.toList := by
  refine trimList_of_ends (fun c hc ↦ ?_) fun c hc ↦ ?_
  · rw [toList_text, toList_dateText, List.append_assoc] at hc
    exact Calendar.isBlank_of_head_yearText hc
  · simp only [text, offsetText, String.toList_append, ← List.append_assoc] at hc
    exact Calendar.isBlank_of_getLast_padded (by decide) hc

/-- A supported timestamp with an offset of whole minutes is read back from its written form, by
the reader of all notations, up to the fraction of its second. -/
theorem parse?_text (h : t.isSupported = true) (hoffset : t.offset % 60 = 0) :
    parse? t.text = some t.withoutFraction := by
  have hread : Calendar.lenient? ['T'] t.text.toList = some t.withoutFraction :=
    ofText?_text h hoffset
  rw [parse?, trimList_text]
  simp only [hread]
  rfl

end Timestamp

end CloudControl
