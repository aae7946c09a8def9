import CloudControl.Proofs.Calendar.Reader

/-!
# The notations of a timestamp

A date, a time of day and an offset are spelled in three notations: the written form, the same
with the `T` in quotes, and the Internet profile (`Timestamp.Spells`). The readers are tried one
after the other, and where a text is taken by more than one of them they agree, so that each
spelling is read as the timestamp that it spells. `Timestamp.notations_agree` says so, and that
whatever is read, in these notations or in what the readers allow besides, has a written form that
is read as the same second and written as itself.
-/

namespace CloudControl

open Text

namespace Timestamp

/-! ## Spellings -/

/-- What every notation can spell: a date that exists in a year of four digits, a time of day
before midnight, and an offset of whole minutes that is less than a day. -/
structure IsSpellable (t : Timestamp) : Prop where
  date : t.date.isValid = true
  year : 0 ≤ t.date.year ∧ t.date.year ≤ 9999
  time : t.hour ≤ 23 ∧ t.minute ≤ 59 ∧ t.second ≤ 59
  offset : t.offset.natAbs < 86400 ∧ t.offset % 60 = 0

/-- A year of four digits, a month and a day of two. -/
def spelledDate (d : Date) : List Char :=
  (Numeral.padded 4 d.year.toNat).toList ++ '-' :: ((Numeral.padded 2 d.month).toList ++
    '-' :: (Numeral.padded 2 d.day).toList)

/-- The first spelling of a timestamp: its date, the letter `T`, its time of day, and its offset
without a colon. -/
def spelled (t : Timestamp) : List Char :=
  spelledDate t.date ++ 'T' :: (t.timeText ++ spelledOffset [] t.offset)

/-- Characters are a fraction of a second, of which nine digits count. -/
inductive SpellsFraction : List Char → Nat → Prop where
  | none : SpellsFraction [] 0
  | digits {digits : List Char} {nanos : Nat} (hne : digits ≠ [])
      (hdigits : ∀ c ∈ digits, isDigit c = true)
      (hnanos : Nat.ofDigitChars 10 ((digits ++ List.replicate 9 '0').take 9) 0 = nanos) :
      SpellsFraction ('.' :: digits) nanos

/-- Characters are an offset in the Internet profile. -/
inductive SpellsZone : List Char → Int → Prop where
  | utc : SpellsZone ['Z'] 0
  | divided (offset : Int) : SpellsZone (spelledOffset [':'] offset) offset

/-- Characters spell a timestamp in one of the three notations. -/
inductive Spells (t : Timestamp) : List Char → Prop where
  | written (h : t.nanos = 0) : Spells t t.spelled
  | quoted (h : t.nanos = 0) : Spells t
      (spelledDate t.date ++ '\'' :: 'T' :: '\'' :: (t.timeText ++ spelledOffset [] t.offset))
  | internet {fraction zone : List Char} (hfraction : SpellsFraction fraction t.nanos)
      (hzone : SpellsZone zone t.offset) :
      Spells t (spelledDate t.date ++ 'T' :: (t.timeText ++ (fraction ++ zone)))

/-! ## No spelling holds a blank -/

/-- A numeral holds no blank. -/
theorem not_blank_padded (width n : Nat) : ∀ c ∈ (Numeral.padded width n).toList,
    isBlank c = false :=
  fun _ hc ↦ isBlank_of_digit (Numeral.isDigit_of_mem_padded hc)

/-- A date and a time of day hold no blank. -/
theorem not_blank_clock (t : Timestamp) : (∀ c ∈ spelledDate t.date, isBlank c = false) ∧
    ∀ c ∈ t.timeText, isBlank c = false := by
  have hyear := not_blank_padded 4 t.date.year.toNat
  have htwo := not_blank_padded 2
  have hsigns : isBlank '-' = false ∧ isBlank ':' = false := by decide
  constructor
  · simp only [spelledDate, List.forall_mem_append, List.forall_mem_cons]
    exact ⟨hyear, hsigns.1, htwo _, hsigns.1, htwo _⟩
  · simp only [timeText, List.forall_mem_append, List.forall_mem_cons]
    exact ⟨htwo _, hsigns.2, htwo _, hsigns.2, htwo _⟩

/-- An offset holds no blank. -/
theorem not_blank_spelledOffset {divider : List Char} (h : ∀ c ∈ divider, isBlank c = false)
    (offset : Int) : ∀ c ∈ spelledOffset divider offset, isBlank c = false := by
  have hsign : isBlank (if offset < 0 then '-' else '+') = false := by
    split <;> decide
  simp only [spelledOffset, List.forall_mem_append, List.forall_mem_cons]
  exact ⟨hsign, not_blank_padded 2 _, h, not_blank_padded 2 _⟩

/-- A fraction holds no blank. -/
theorem SpellsFraction.not_blank {cs : List Char} {nanos : Nat} (h : SpellsFraction cs nanos) :
    ∀ c ∈ cs, isBlank c = false := by
  cases h with
  | none => exact fun c hc ↦ absurd hc List.not_mem_nil
  | digits _ hdigits _ =>
    exact List.forall_mem_cons.mpr ⟨by decide, fun c hc ↦ isBlank_of_digit (hdigits c hc)⟩

/-- An offset in the Internet profile holds no blank. -/
theorem SpellsZone.not_blank {cs : List Char} {offset : Int} (h : SpellsZone cs offset) :
    ∀ c ∈ cs, isBlank c = false := by
  cases h with
  | utc => exact List.forall_mem_singleton.mpr rfl
  | divided => exact not_blank_spelledOffset (List.forall_mem_singleton.mpr rfl) offset

/-- A spelling holds no blank, and something else. -/
theorem Spells.not_blank {t : Timestamp} {cs : List Char} (h : t.Spells cs) :
    cs ≠ [] ∧ ∀ c ∈ cs, isBlank c = false := by
  obtain ⟨hdate, htime⟩ := t.not_blank_clock
  have hoffset := not_blank_spelledOffset (List.forall_mem_nil fun c ↦ isBlank c = false) t.offset
  have hsigns : isBlank 'T' = false ∧ isBlank '\'' = false := by decide
  cases h with
  | written _ =>
    refine ⟨by simp [spelled], ?_⟩
    simp only [spelled, List.forall_mem_append, List.forall_mem_cons]
    exact ⟨hdate, hsigns.1, htime, hoffset⟩
  | quoted _ =>
    refine ⟨by simp, ?_⟩
    simp only [List.forall_mem_append, List.forall_mem_cons]
    exact ⟨hdate, hsigns.2, hsigns.1, hsigns.2, htime, hoffset⟩
  | internet hfraction hzone =>
    refine ⟨by simp, ?_⟩
    simp only [List.forall_mem_append, List.forall_mem_cons]
    exact ⟨hdate, hsigns.1, htime, hfraction.not_blank, hzone.not_blank⟩

/-! ## The parts are read -/

section

open Calendar

/-- An offset in the Internet profile starts with a sign or a letter. -/
theorem SpellsZone.exists_cons {cs : List Char} {o : Int} (h : SpellsZone cs o) :
    ∃ c rest, cs = c :: rest ∧ isDigit c = false ∧ c ≠ '.' := by
  cases h with
  | utc => exact ⟨'Z', [], rfl, by decide, by decide⟩
  | divided =>
    refine ⟨_, _, rfl, ?_⟩
    split <;> decide

/-- An offset in the Internet profile is read. -/
theorem SpellsZone.internetOffset_eq {cs : List Char} {o : Int} (h : SpellsZone cs o)
    (hrange : o.natAbs < 86400) (hminutes : o % 60 = 0) : internetOffset cs = some (o, []) := by
  cases h with
  | utc => rfl
  | divided =>
    have hread : Calendar.offset (char ':') (spelledOffset [':'] o) = some (o, []) :=
      offset_spelledOffset (fun _ ↦ rfl) hrange hminutes
    rw [← hread]
    unfold spelledOffset
    split <;> rfl

/-- A fraction is read, and leaves the offset behind it. -/
theorem SpellsFraction.fraction_eq {cs zone : List Char} {nanos : Nat} {o : Int}
    (h : SpellsFraction cs nanos) (hzone : SpellsZone zone o) :
    fraction (cs ++ zone) = some (nanos, zone) := by
  obtain ⟨c, rest, rfl, hdigit, hpoint⟩ := hzone.exists_cons
  cases h with
  | none =>
    rw [List.nil_append, fraction]
    rintro rest heq
    exact absurd (List.cons.inj heq).1 hpoint
  | @digits digits _ hne hdigits hnanos =>
    have hends := endsNumber_cons hdigit rest
    have htaken : ((digits ++ c :: rest).take 9).takeWhile isDigit = digits.take 9 :=
      takeWhile_take_append hdigits (.inr hends)
    have hleast : ¬ (digits.take 9).length < 1 := by
      rw [List.length_take]
      have hlength := List.length_pos_iff.mpr hne
      omega
    have hrest : (digits ++ c :: rest).dropWhile isDigit = c :: rest := by
      rw [List.dropWhile_append_of_pos hdigits, List.dropWhile_cons_of_neg (by rw [hdigit]; decide)]
    -- Filling up with zeros is multiplying with a power of ten.
    have hfilled : Numeral.valueFrom 0 (digits.take 9) * Nat.pow 10 (9 - (digits.take 9).length) =
        nanos := by
      rw [← hnanos, List.take_append, List.take_replicate, Nat.ofDigitChars_append,
        Nat.ofDigitChars_replicate_zero, Numeral.valueFrom_eq_ofDigitChars, Nat.mul_comm]
      congr 2
      rw [List.length_take]
      omega
    simp only [List.cons_append, fraction, number, htaken, if_neg hleast, Option.bind_eq_bind,
      Option.bind_some, hfilled, hrest]

/-- What is spelled is a timestamp that can be written and read. -/
theorem IsSpellable.isSupported {t : Timestamp} (h : t.IsSpellable) : t.isSupported = true := by
  obtain ⟨hdate, hyear, htime, hoffset, -⟩ := h
  obtain ⟨hmin, hmax⟩ := Date.toDays_range hdate hyear
  have hseconds : t.unix / Instant.secondsPerDay = t.unix / 86400 := rfl
  have hunix : t.unix = t.date.toDays * 86400 + t.hour * 3600 + t.minute * 60 +
      (min t.second 59 : Nat) - t.offset := by
    simp [unix, Instant.secondsPerDay]
  have hreach : Date.minYear ≤ t.date.year ∧ t.date.year ≤ Date.maxYear := by
    unfold Date.minYear Date.maxYear
    omega
  simp only [Timestamp.isSupported, Date.isSupported, hdate, hasValidTime, hseconds,
    Bool.true_and, Bool.and_eq_true, decide_eq_true_eq]
  omega

/-- The offset of a spelling has no more than two digits of hours. -/
theorem IsSpellable.offset_le {t : Timestamp} (h : t.IsSpellable) : t.offset.natAbs ≤ 86340 := by
  have hoffset := h.offset
  omega

/-- The written form of a date with a year of four digits is its spelling. -/
theorem IsSpellable.toList_dateText {t : Timestamp} (h : t.IsSpellable) :
    t.date.text.toList = spelledDate t.date := by
  have hyear : (decide (0 ≤ t.date.year) && decide (t.date.year ≤ 9999)) = true := by
    simpa using h.year
  rw [Timestamp.toList_dateText, Date.yearText, if_pos hyear, spelledDate]

/-- The written form of a timestamp is its first spelling. -/
theorem IsSpellable.toList_text {t : Timestamp} (h : t.IsSpellable) :
    t.text.toList = t.spelled := by
  rw [Timestamp.toList_text, h.toList_dateText, clockText_eq, toList_offsetText h.offset.2,
    List.singleton_append, spelled]

/-- The Internet profile is read. -/
theorem internet?_spelled {t : Timestamp} (h : t.IsSpellable) {cs zone : List Char}
    (hfraction : SpellsFraction cs t.nanos) (hzone : SpellsZone zone t.offset) :
    internet? (spelledDate t.date ++ 'T' :: (t.timeText ++ (cs ++ zone))) = some t := by
  have hyear := h.year
  obtain ⟨hmonth, hday, hhour, hminute, hsecond, -⟩ := isSupported_bounds h.isSupported
  have hfour : (Numeral.padded 4 t.date.year.toNat).toList.length = 4 :=
    Numeral.length_padded (by decide) (show t.date.year.toNat < 10000 by omega)
  have hchar : ∀ c rest, char c (c :: rest) = some rest := fun _ _ ↦ if_pos rfl
  have hdivider : ∀ rest, internetDivider ('T' :: rest) = some rest := fun _ ↦ rfl
  have hnumber : ∀ {n}, n < 100 → ∀ rest,
      number 2 2 ((Numeral.padded 2 n).toList ++ rest) = some (n, rest) :=
    fun hn rest ↦ number_padded_two hn 2 (Nat.le_refl 2) rest
  simp only [spelledDate, timeText, List.append_assoc, List.cons_append]
  rw [internet?, Option.bind_eq_bind]
  -- Each part is read off the front of what the part before it has left.
  refine Option.bind_eq_some_iff.mpr
    ⟨_, number_padded (Nat.le_refl 4) (Nat.le_of_eq hfour) (.inl hfour), ?_⟩
  refine Option.bind_eq_some_iff.mpr ⟨_, hchar '-' _, ?_⟩
  refine Option.bind_eq_some_iff.mpr ⟨_, hnumber hmonth _, ?_⟩
  refine Option.bind_eq_some_iff.mpr ⟨_, hchar '-' _, ?_⟩
  refine Option.bind_eq_some_iff.mpr ⟨_, hnumber hday _, ?_⟩
  refine Option.bind_eq_some_iff.mpr ⟨_, hdivider _, ?_⟩
  refine Option.bind_eq_some_iff.mpr ⟨_, hnumber hhour _, ?_⟩
  refine Option.bind_eq_some_iff.mpr ⟨_, hchar ':' _, ?_⟩
  refine Option.bind_eq_some_iff.mpr ⟨_, hnumber hminute _, ?_⟩
  refine Option.bind_eq_some_iff.mpr ⟨_, hchar ':' _, ?_⟩
  refine Option.bind_eq_some_iff.mpr ⟨_, hnumber hsecond _, ?_⟩
  refine Option.bind_eq_some_iff.mpr ⟨_, hfraction.fraction_eq hzone, ?_⟩
  refine Option.bind_eq_some_iff.mpr ⟨_, hzone.internetOffset_eq h.offset.1 h.offset.2, ?_⟩
  have hrange : ([] : List Char).isEmpty && decide (t.offset.natAbs ≤ 86340) := by
    simpa using h.offset_le
  refine (if_pos hrange).trans ?_
  rw [Int.toNat_of_nonneg hyear.1]
  exact if_pos h.isSupported

/-! ## The readers agree -/

/-- A fraction is empty or starts with a point. -/
theorem SpellsFraction.eq_nil_or {cs : List Char} {nanos : Nat} (h : SpellsFraction cs nanos) :
    (cs = [] ∧ nanos = 0) ∨ ∃ rest, cs = '.' :: rest := by
  cases h with
  | none => exact .inl ⟨rfl, rfl⟩
  | digits => exact .inr ⟨_, rfl⟩

/-- An offset in the Internet profile is a letter or has a colon. -/
theorem SpellsZone.eq_or {cs : List Char} {o : Int} (h : SpellsZone cs o) :
    cs = ['Z'] ∨ cs = spelledOffset [':'] o := by
  cases h with
  | utc => exact .inl rfl
  | divided => exact .inr rfl

/-- A timestamp at the start of its second has no fraction. -/
theorem withoutFraction_eq {t : Timestamp} (h : t.nanos = 0) : t.withoutFraction = t := by
  rw [withoutFraction, ← h]

/-- The time of day is followed by the sign of an offset, or the first reader refuses it. -/
theorem lenient?_of_offsetSign {t : Timestamp} (h : t.isSupported = true) {c : Char}
    {rest : List Char} (hblank : isBlank c = false) (hsign : offsetSign (c :: rest) = none)
    (divider : List Char) :
    lenient? divider (t.date.text.toList ++ (divider ++ (t.timeText ++ c :: rest))) = none := by
  rw [lenient?_clock h, trimStart_cons_of_not_blank hblank, Calendar.offset, hsign]
  rfl

/-- The first reader takes a text of the Internet profile as the timestamp that it spells, or not
at all. -/
theorem lenient?_internet {t : Timestamp} (h : t.IsSpellable) {cs zone : List Char}
    (hfraction : SpellsFraction cs t.nanos) (hzone : SpellsZone zone t.offset) :
    lenient? ['T'] (t.date.text.toList ++ (['T'] ++ (t.timeText ++ (cs ++ zone)))) = some t ∨
      lenient? ['T'] (t.date.text.toList ++ (['T'] ++ (t.timeText ++ (cs ++ zone)))) = none := by
  rcases hfraction.eq_nil_or with ⟨rfl, hnanos⟩ | ⟨rest, rfl⟩
  · rcases hzone.eq_or with rfl | rfl
    · exact .inr (lenient?_of_offsetSign h.isSupported (by decide) rfl _)
    · refine .inl ?_
      have hskip : ∀ n, skipDividers ([':'] ++ (Numeral.padded 2 n).toList) =
          some (Numeral.padded 2 n).toList := by
        intro n
        rw [List.singleton_append, skipDividers_colon, skipDividers_padded (by decide)]
      have hoffset := offset_spelledOffset hskip h.offset.1 h.offset.2
      rw [lenient?_clock h.isSupported, List.nil_append, trimStart_spelledOffset, hoffset,
        Option.bind_some]
      change validate? t.withoutFraction = some t
      rw [withoutFraction_eq hnanos]
      exact if_pos h.isSupported
  · exact .inr (lenient?_of_offsetSign h.isSupported (by decide) rfl _)

/-- The readers, one after the other, take a spelling as what it spells. -/
theorem Spells.read {t : Timestamp} (h : t.IsSpellable) {cs : List Char} (hcs : t.Spells cs) :
    (lenient? ['T'] cs).or ((lenient? ['\'', 'T', '\''] cs).or (internet? cs)) = some t := by
  have hdate := h.toList_dateText
  have hclock : t.clockText = t.timeText ++ spelledOffset [] t.offset := by
    rw [clockText_eq, toList_offsetText h.offset.2]
  cases hcs with
  | written hnanos =>
    have hread := lenient?_written h.isSupported h.offset.2 ['T']
    rw [hdate, hclock, withoutFraction_eq hnanos, List.singleton_append] at hread
    rw [spelled, hread, Option.some_or]
  | quoted hnanos =>
    have hnone :
        lenient? ['T'] (t.date.text.toList ++ (['\'', 'T', '\''] ++ t.clockText)) = none :=
      lenient?_of_divider h.isSupported rfl
    have hread := lenient?_written h.isSupported h.offset.2 ['\'', 'T', '\'']
    rw [hdate, hclock] at hnone hread
    rw [withoutFraction_eq hnanos] at hread
    simp only [List.cons_append, List.nil_append] at hnone hread
    rw [hnone, hread, Option.none_or, Option.some_or]
  | internet hfraction hzone =>
    have hfirst := lenient?_internet h hfraction hzone
    rw [hdate, List.singleton_append] at hfirst
    rcases hfirst with hread | hnone
    · rw [hread, Option.some_or]
    · have hquoted : ∀ rest,
          lenient? ['\'', 'T', '\''] (spelledDate t.date ++ 'T' :: rest) = none :=
        fun rest ↦ hdate ▸ lenient?_of_divider h.isSupported rfl
      rw [hnone, hquoted, internet?_spelled h hfraction hzone, Option.none_or, Option.none_or]

end

/-- In each of the three notations, with blanks around it, a spelling is read as exactly the local
time and the offset that it spells, and the timestamp is written as its first spelling. Whatever
text is read, in these notations or another way, the timestamp has a written form that is read as
the same second with the same offset, and that is written as itself. -/
theorem notations_agree :
    (∀ t : Timestamp, t.IsSpellable → ∀ (s : String) (front cs back : List Char),
      s.toList = front ++ cs ++ back → (∀ c ∈ front ++ back, isBlank c = true) → t.Spells cs →
        parse? s = some t ∧ t.text = String.ofList t.spelled) ∧
    ∀ (s : String) (t : Timestamp), parse? s = some t →
      ∃ u, parse? t.text = some u ∧ u.unix = t.unix ∧ u.second = t.second ∧
        u.offset = t.offset ∧ u.text = t.text := by
  refine ⟨fun t ht s front cs back hs hblank hcs ↦ ⟨?_, ?_⟩, fun s t h ↦ ?_⟩
  · obtain ⟨hne, hnot⟩ := hcs.not_blank
    simp only [parse?, hs, trimList_between hblank hne hnot, Option.orElse_eq_orElse,
      Option.orElse_eq_or]
    exact hcs.read ht
  · rw [← ht.toList_text, String.ofList_toList]
  · obtain ⟨hsupported, hoffset⟩ := isSupported_of_parse? h
    exact ⟨t.withoutFraction, parse?_text hsupported hoffset, rfl, rfl, rfl, rfl⟩

/-- The last second of a leap day with a fraction and blanks around it, and a text that only the
first reader takes, with a long year, a leap second and blanks in its offset. -/
theorem notations_agree_leap_day :
    parse? " 2024-02-29T23:59:59.25-05:30" = some ⟨⟨2024, 2, 29⟩, 23, 59, 59, 250000000, -19800⟩ ∧
      text ⟨⟨2024, 2, 29⟩, 23, 59, 59, 250000000, -19800⟩ = "2024-02-29T23:59:59-0530" ∧
      ∃ t u, parse? "+12345-6-7T8:9:60-00 : 30" = some t ∧ t.text = "+12345-06-07T08:09:60-0030" ∧
        parse? t.text = some u ∧ u.unix = t.unix ∧ u.offset = -1800 ∧ u.text = t.text := by
  have hspellable : IsSpellable ⟨⟨2024, 2, 29⟩, 23, 59, 59, 250000000, -19800⟩ :=
    ⟨by decide, by decide, by decide, by decide⟩
  have hfraction : SpellsFraction ['.', '2', '5'] 250000000 :=
    .digits (List.cons_ne_nil _ _)
      (List.forall_mem_cons.mpr ⟨rfl, List.forall_mem_singleton.mpr rfl⟩) rfl
  have hzone := SpellsZone.divided (-19800)
  obtain ⟨hread, hwritten⟩ := notations_agree.1 _ hspellable " 2024-02-29T23:59:59.25-05:30" [' '] _
    [] (by decide +kernel) (List.forall_mem_singleton.mpr rfl) (.internet hfraction hzone)
  have hlenient : parse? "+12345-6-7T8:9:60-00 : 30" =
      some ⟨⟨12345, 6, 7⟩, 8, 9, 60, 0, -1800⟩ := by
    decide +kernel
  obtain ⟨u, hagain, hunix, -, hoffset, htext⟩ := notations_agree.2 _ _ hlenient
  rw [hwritten]
  exact ⟨hread, by decide +kernel, _, u, hlenient, by decide +kernel, hagain, hunix, hoffset, htext⟩

end Timestamp

end CloudControl
