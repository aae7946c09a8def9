import CloudControl.Calendar.Date

/-!
# Days and dates

`Date.ofDays` numbers the days of an era of 400 years from its first of March. An era has four
centuries, a century 25 groups of four years, and a group four years, and each of these ends with
the leap day that makes it longer. `EraDay` is that reading of a day, and every computation of
`ofDays` is one of its numbers. From it follow `toDays_ofDays`, that no day is lost, and
`isValid_ofDays`, that every day is a date that exists.
-/

namespace CloudControl.Date

/-- A day of an era, counted from its first of March: the century, the group of four years in it,
the year in the group, and the day in the year. Only the last year of a group has the day 365,
and the last group of a century has it only at the end of the era. -/
structure EraDay (n century group year day : Int) : Prop where
  sum : n = 36524 * century + 1461 * group + 365 * year + day
  century_range : 0 ≤ century ∧ century ≤ 3
  group_range : 0 ≤ group ∧ group ≤ 24
  year_range : 0 ≤ year ∧ year ≤ 3
  day_range : 0 ≤ day ∧
    (day ≤ 364 ∨ (day = 365 ∧ year = 3 ∧ (group ≤ 23 ∨ century = 3)))

/-- Every day of an era can be read so. -/
theorem exists_eraDay {n : Int} (hlow : 0 ≤ n) (hhigh : n < 146097) :
    ∃ century group year day, EraDay n century group year day := by
  -- The last century of an era and the last year of a group are a day longer than the others, so
  -- the quotients are cut off at them.
  obtain ⟨c, hc, hcn, hcn'⟩ : ∃ c, (0 ≤ c ∧ c ≤ 3) ∧ 36524 * c ≤ n ∧
      (n < 36524 * (c + 1) ∨ c = 3) :=
    ⟨min (n / 36524) 3, by omega⟩
  obtain ⟨g, hg, hgn, hgn'⟩ : ∃ g, (0 ≤ g ∧ g ≤ 24) ∧ 36524 * c + 1461 * g ≤ n ∧
      n < 36524 * c + 1461 * (g + 1) :=
    ⟨(n - 36524 * c) / 1461, by omega⟩
  obtain ⟨y, hy, hyn, hyn'⟩ : ∃ y, (0 ≤ y ∧ y ≤ 3) ∧ 36524 * c + 1461 * g + 365 * y ≤ n ∧
      (n < 36524 * c + 1461 * g + 365 * (y + 1) ∨ y = 3) :=
    ⟨min ((n - 36524 * c - 1461 * g) / 365) 3, by omega⟩
  exact ⟨c, g, y, n - (36524 * c + 1461 * g + 365 * y), by omega, hc, hg, hy, by omega⟩

namespace EraDay

variable {n c g y d : Int}

/-- The century, as `ofDays` computes it. -/
theorem century_eq (h : EraDay n c g y d) : n / 36524 - n / 146096 = c := by
  obtain ⟨hsum, hc, hg, hy, hd⟩ := h
  have hlow : 36524 * c ≤ n := by omega
  have hhigh : n < 36524 * (c + 1) ∨ (c = 3 ∧ n = 146096) := by omega
  rcases hhigh with hhigh | ⟨rfl, rfl⟩
  · have hquotient : n / 36524 = c := by omega
    have hlast : n / 146096 = 0 := by omega
    omega
  · rfl

/-- The year of the era, as `ofDays` computes it. -/
theorem yearOfEra_eq (h : EraDay n c g y d) :
    (n - n / 1460 + n / 36524 - n / 146096) / 365 = 100 * c + 4 * g + y := by
  have hcentury := h.century_eq
  obtain ⟨hsum, hc, hg, hy, hd⟩ := h
  have hcases : c = 0 ∨ c = 1 ∨ c = 2 ∨ c = 3 := by omega
  rcases hcases with rfl | rfl | rfl | rfl <;> omega

/-- The leap days before a year of the era. -/
theorem leapDays_eq (h : EraDay n c g y d) :
    (100 * c + 4 * g + y) / 4 = 25 * c + g ∧ (100 * c + 4 * g + y) / 100 = c := by
  obtain ⟨-, hc, hg, hy, -⟩ := h
  omega

/-- The day of the year, as `ofDays` computes it. -/
theorem dayOfYear_eq (h : EraDay n c g y d) :
    365 * (100 * c + 4 * g + y) + (100 * c + 4 * g + y) / 4 - (100 * c + 4 * g + y) / 100 =
      n - d := by
  obtain ⟨hfour, hhundred⟩ := h.leapDays_eq
  have hsum := h.sum
  omega

end EraDay

/-- The date of a day in the year that starts with the first of March. -/
def ofMarchDay (year day : Int) : Date :=
  let month := (5 * day + 2) / 153
  let dayOfMonth := day - (153 * month + 2) / 5 + 1
  if month < 10 then ⟨year, (month + 3).toNat, dayOfMonth.toNat⟩
  else ⟨year + 1, (month - 9).toNat, dayOfMonth.toNat⟩

/-- A date is found in two steps: its day in its era, and its month in its year. -/
theorem exists_ofDays (n : Int) :
    ∃ era m c g y d, n + 719468 = 146097 * era + m ∧ EraDay m c g y d ∧
      ofDays n = ofMarchDay (400 * era + (100 * c + 4 * g + y)) d := by
  obtain ⟨c, g, y, d, h⟩ :=
    exists_eraDay (n := n + 719468 - (n + 719468) / 146097 * 146097) (by omega) (by omega)
  refine ⟨(n + 719468) / 146097, _, c, g, y, d, by omega, h, ?_⟩
  have hd := h.day_range
  simp only [ofDays, h.yearOfEra_eq, h.dayOfYear_eq, Int.sub_sub_self, ofMarchDay]
  -- The first ten months belong to the year in which they are counted, the last two to the next.
  split
  · rw [if_neg (by omega)]
    simp only [mk.injEq, and_true]
    omega
  · rw [if_pos (by omega)]
    simp only [mk.injEq, and_true]
    omega

/-- A day of the year that starts in March is counted back from its date. -/
theorem toDays_ofMarchDay {year day : Int} (hlow : 0 ≤ day) (hhigh : day ≤ 365) :
    toDays (ofMarchDay year day) = year / 400 * 146097 + ((year - year / 400 * 400) * 365 +
      (year - year / 400 * 400) / 4 - (year - year / 400 * 400) / 100 + day) - 719468 := by
  unfold ofMarchDay
  simp only
  split
  · have hmonth : ¬ ((5 * day + 2) / 153 + 3).toNat ≤ 2 := by omega
    simp only [toDays, if_neg hmonth]
    omega
  · have hmonth : ((5 * day + 2) / 153 - 9).toNat ≤ 2 := by omega
    simp only [toDays, if_pos hmonth, Int.add_sub_cancel]
    omega

/-- The date of a day is the date of that day. -/
theorem toDays_ofDays (n : Int) : toDays (ofDays n) = n := by
  obtain ⟨era, m, c, g, y, d, hn, h, hdate⟩ := exists_ofDays n
  have hday := h.dayOfYear_eq
  obtain ⟨-, hc, hg, hy, hd⟩ := h
  have hera : (400 * era + (100 * c + 4 * g + y)) / 400 = era := by omega
  have hyear : 400 * era + (100 * c + 4 * g + y) - era * 400 = 100 * c + 4 * g + y := by omega
  rw [hdate, toDays_ofMarchDay hd.1 (by omega), hera, hyear]
  omega

/-- The date of a day of the year that starts in March exists, if the leap day of a year without
one is left out. Only the last month of this year, February, depends on the year. -/
theorem isValid_ofMarchDay {year day : Int} (hlow : 0 ≤ day) (hhigh : day ≤ 365)
    (hleap : day = 365 → isLeap (year + 1) = true) : (ofMarchDay year day).isValid = true := by
  unfold ofMarchDay
  simp only
  split
  · simp only [isValid, daysIn, Bool.and_eq_true, decide_eq_true_eq]
    rw [if_neg (by omega)]
    split <;> omega
  · simp only [isValid, daysIn, Bool.and_eq_true, decide_eq_true_eq]
    by_cases hlast : day = 365
    · rw [hleap hlast, if_pos (by omega), if_pos rfl]
      omega
    · split
      · split <;> omega
      · rw [if_neg (by omega)]
        omega

/-- Every day is a date that exists. -/
theorem isValid_ofDays (n : Int) : (ofDays n).isValid = true := by
  obtain ⟨era, m, c, g, y, d, hn, h, hdate⟩ := exists_ofDays n
  obtain ⟨-, hc, hg, hy, hd⟩ := h
  rw [hdate]
  refine isValid_ofMarchDay hd.1 (by omega) fun hday ↦ ?_
  simp only [isLeap, Bool.or_eq_true, Bool.and_eq_true, beq_iff_eq, bne_iff_ne]
  omega

/-- The first day within reach. -/
theorem minDays_eq : minDays = -96465292 := by decide

/-- The last day within reach. -/
theorem maxDays_eq : maxDays = 95026236 := by decide

/-- What a date that exists says about its month and its day. -/
theorem bounds_of_isValid {d : Date} (h : d.isValid = true) :
    1 ≤ d.month ∧ d.month ≤ 12 ∧ 1 ≤ d.day ∧ d.day ≤ 31 := by
  have hlength : daysIn d.year d.month ≤ 31 := by
    unfold daysIn
    repeat' split
    all_goals omega
  simp only [isValid, Bool.and_eq_true, decide_eq_true_eq] at h
  omega

/-- A date with a year of four digits is well within reach, so that an offset does not lead beyond
the first or the last day. -/
theorem toDays_range {d : Date} (hvalid : d.isValid = true)
    (hyear : 0 ≤ d.year ∧ d.year ≤ 9999) : minDays < d.toDays ∧ d.toDays < maxDays := by
  have hbounds := bounds_of_isValid hvalid
  rw [minDays_eq, maxDays_eq]
  simp only [toDays]
  split <;> omega

/-- The years of the days within reach are within reach. The first and the last of them are cut
at the turn of the year, in the middle of a year that starts in March. -/
theorem year_range_ofDays {n : Int} (hlow : minDays ≤ n) (hhigh : n ≤ maxDays) :
    minYear ≤ (ofDays n).year ∧ (ofDays n).year ≤ maxYear := by
  obtain ⟨era, m, c, g, y, d, hn, h, hdate⟩ := exists_ofDays n
  obtain ⟨hsum, hc, hg, hy, hd⟩ := h
  rw [minDays_eq] at hlow
  rw [maxDays_eq] at hhigh
  have hera : -656 ≤ era ∧ era ≤ 655 := by omega
  have hfirst : -262144 ≤ 400 * era + (100 * c + 4 * g + y) := by
    by_cases he : era = -656
    · have hcentury : 2 ≤ c := by omega
      omega
    · omega
  have hlast : 400 * era + (100 * c + 4 * g + y) ≤ 262142 := by
    by_cases he : era = 655
    · have hcentury : c ≤ 1 := by omega
      omega
    · omega
  rw [hdate, ofMarchDay, minYear, maxYear]
  split
  · have hnotFirst : 400 * era + (100 * c + 4 * g + y) ≠ -262144 := by
      intro heq
      have hparts : era = -656 ∧ c = 2 ∧ g = 14 ∧ y = 0 := by omega
      omega
    simp only
    omega
  · have hnotLast : 400 * era + (100 * c + 4 * g + y) ≠ 262142 := by
      intro heq
      have hparts : era = 655 ∧ c = 1 ∧ g = 10 ∧ y = 2 := by omega
      omega
    simp only
    omega

/-- The days within reach are dates within reach. -/
theorem isSupported_ofDays {n : Int} (hlow : minDays ≤ n) (hhigh : n ≤ maxDays) :
    (ofDays n).isSupported = true := by
  obtain ⟨hmin, hmax⟩ := year_range_ofDays hlow hhigh
  simp only [isSupported, isValid_ofDays, Bool.true_and, Bool.and_eq_true, decide_eq_true_eq]
  exact ⟨hmin, hmax⟩

end CloudControl.Date
