import CloudControl.Proofs.Calendar.Date
import CloudControl.Proofs.Calendar.Reader

/-!
# Instants and their written form

An instant is written as a civil date and time in universal time, which leaves out the fraction
of the second. `ofText?_instant` says that the written form is read as the instant cut down to
its whole second.
-/

namespace CloudControl

namespace Instant

/-- The instant cut down to the whole second that a clock shows. A leap second at the end of a
minute shows as second 60; one that was put in elsewhere shows as the second that comes next. -/
def wholeSecond (t : Instant) : Instant :=
  if t.nanos < nanosPerSecond then ⟨t.seconds, 0⟩
  else if t.seconds % 60 = 59 then ⟨t.seconds, nanosPerSecond⟩
  else ⟨t.seconds + 1, 0⟩

variable {t : Instant}

/-- The day of an instant is counted back from its date. -/
theorem toDays_toTimestamp (t : Instant) :
    t.toTimestamp.date.toDays = t.seconds / secondsPerDay :=
  Date.toDays_ofDays _

/-- The time of day of an instant. -/
theorem clock_toTimestamp (t : Instant) :
    (t.toTimestamp.hour : Int) * 3600 + t.toTimestamp.minute * 60 + (t.toTimestamp.second : Int) =
        t.seconds % 86400 + t.nanos / 1000000000 ∧
      t.toTimestamp.hour ≤ 23 ∧ t.toTimestamp.minute ≤ 59 ∧
      (t.toTimestamp.second : Int) = t.seconds % 60 + t.nanos / 1000000000 := by
  simp only [toTimestamp, secondsPerDay, nanosPerSecond]
  omega

/-- What a supported instant says about its numbers. -/
theorem isSupported_bounds (h : t.isSupported = true) :
    t.nanos < 2000000000 ∧ Date.minDays ≤ t.seconds / secondsPerDay ∧
      t.seconds / secondsPerDay ≤ Date.maxDays := by
  simp only [isSupported, Bool.and_eq_true, decide_eq_true_eq] at h
  exact ⟨h.1.1, h.1.2, h.2⟩

/-- A supported instant is written as a supported timestamp. -/
theorem isSupported_toTimestamp (h : t.isSupported = true) : t.toTimestamp.isSupported = true := by
  obtain ⟨hnanos, hmin, hmax⟩ := isSupported_bounds h
  obtain ⟨hclock, hhour, hminute, hsecond⟩ := clock_toTimestamp t
  have hdate : t.toTimestamp.date.isSupported = true := Date.isSupported_ofDays hmin hmax
  have hday : t.toTimestamp.unix / secondsPerDay = t.seconds / secondsPerDay := by
    rw [Timestamp.unix, toDays_toTimestamp, show t.toTimestamp.offset = 0 from rfl]
    simp only [secondsPerDay]
    omega
  simp only [Timestamp.isSupported, hdate, hday, Timestamp.hasValidTime, Bool.true_and,
    Bool.and_eq_true, decide_eq_true_eq, show t.toTimestamp.offset = 0 from rfl]
  exact ⟨⟨⟨⟨⟨hhour, hminute⟩, by omega⟩, by decide⟩, hmin⟩, hmax⟩

/-- The written form of an instant names its whole second. -/
theorem instant_toTimestamp (h : t.isSupported = true) :
    t.toTimestamp.withoutFraction.instant = t.wholeSecond := by
  obtain ⟨hnanos, -, -⟩ := isSupported_bounds h
  obtain ⟨hclock, -, -, hsecond⟩ := clock_toTimestamp t
  have hunix : t.toTimestamp.unix =
      t.seconds + t.nanos / 1000000000 - (t.toTimestamp.second - min t.toTimestamp.second 59) := by
    rw [Timestamp.unix, toDays_toTimestamp, show t.toTimestamp.offset = 0 from rfl]
    simp only [secondsPerDay]
    omega
  rw [Timestamp.instant_withoutFraction, hunix, wholeSecond]
  -- A second that was put in is read back as one only at the end of a minute.
  by_cases hleap : t.nanos < nanosPerSecond
  · have hnone : t.nanos < 1000000000 := hleap
    rw [if_pos hleap, if_neg (by omega), mk.injEq]
    exact ⟨by omega, rfl⟩
  · have hone : ¬ t.nanos < 1000000000 := hleap
    rw [if_neg hleap]
    by_cases hlast : t.seconds % 60 = 59
    · rw [if_pos hlast, if_pos (by omega), mk.injEq]
      exact ⟨by omega, rfl⟩
    · rw [if_neg hlast, if_neg (by omega), mk.injEq]
      exact ⟨by omega, rfl⟩

/-- The written form of a supported instant is read as the instant cut down to its whole
second. -/
theorem ofText?_instant (h : t.isSupported = true) :
    (Timestamp.ofText? t.toTimestamp.text).map Timestamp.instant = some t.wholeSecond := by
  rw [Timestamp.ofText?_text (isSupported_toTimestamp h) rfl, Option.map_some,
    instant_toTimestamp h]

end Instant

end CloudControl
