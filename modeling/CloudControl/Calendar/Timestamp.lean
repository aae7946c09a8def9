import CloudControl.Calendar.Date

/-!
# Timestamps

A timestamp is a civil date and time of day with an offset from universal time. The second may
be 60, which is a leap second: it counts as the second 59 with a further thousand million
nanoseconds, both in the instant and in the order of instants. An instant is a number of
seconds since the start of 1970 in universal time, with nanoseconds.
-/

namespace CloudControl

/-- A point in time; the nanoseconds reach a thousand million within a leap second. -/
structure Instant where
  seconds : Int
  nanos : Nat
  deriving DecidableEq

/-- A span of time in nanoseconds, which may go backwards. -/
structure Duration where
  nanos : Int
  deriving DecidableEq

/-- A civil date and time of day, with the seconds that it is ahead of universal time. -/
structure Timestamp where
  date : Date
  hour : Nat
  minute : Nat
  second : Nat
  nanos : Nat
  offset : Int
  deriving DecidableEq

/-- The nanoseconds of one second. -/
def Instant.nanosPerSecond : Nat := 1000000000

namespace Duration

/-- The span of a number of seconds. -/
def ofSeconds (seconds : Int) : Duration := ⟨seconds * Instant.nanosPerSecond⟩

/-- Where a span of time may be given, a number stands for so many seconds. -/
instance : Coe (Option Int) (Option Duration) := ⟨Option.map ofSeconds⟩

end Duration

namespace Instant

/-- The seconds of one day. -/
def secondsPerDay : Int := 86400

/-- The first instant is later than the second. -/
def after (a b : Instant) : Bool :=
  b.seconds < a.seconds || (a.seconds == b.seconds && b.nanos < a.nanos)

/-- The instant of a number of seconds and of nanoseconds, which may be negative or reach beyond
a second. -/
def ofParts (seconds nanos : Int) : Instant :=
  ⟨seconds + nanos / nanosPerSecond, (nanos % nanosPerSecond).toNat⟩

/-- Moves an instant by a span of time. A move that leaves a leap second takes it for the second
next to it on the side that the move goes to. -/
def add (t : Instant) (d : Duration) : Instant :=
  let seconds := d.nanos.tdiv nanosPerSecond
  let nanos := t.nanos + d.nanos.tmod nanosPerSecond
  if t.nanos < nanosPerSecond then ofParts (t.seconds + seconds) nanos
  else if 0 < seconds || 2 * nanosPerSecond ≤ nanos then
    ofParts (t.seconds + seconds) (nanos - nanosPerSecond)
  else if seconds < 0 then ofParts (t.seconds + 1 + seconds) (nanos - nanosPerSecond)
  else ⟨t.seconds, nanos.toNat⟩

/-- The instant lies on a day within reach, and at most one second was put in after the second
that it counts. -/
def isSupported (t : Instant) : Bool :=
  t.nanos < 2 * nanosPerSecond && Date.minDays ≤ t.seconds / secondsPerDay &&
    t.seconds / secondsPerDay ≤ Date.maxDays

/-- The civil date and time of an instant in universal time. -/
def toTimestamp (t : Instant) : Timestamp :=
  let days := t.seconds / secondsPerDay
  let rest := (t.seconds % secondsPerDay).toNat
  { date := Date.ofDays days
    hour := rest / 3600
    minute := rest / 60 % 60
    second := rest % 60 + t.nanos / nanosPerSecond
    nanos := t.nanos % nanosPerSecond
    offset := 0 }

end Instant

namespace Timestamp

/-- The seconds since the start of 1970 in universal time. -/
def unix (t : Timestamp) : Int :=
  t.date.toDays * Instant.secondsPerDay + t.hour * 3600 + t.minute * 60 + min t.second 59 - t.offset

/-- The point in time. -/
def instant (t : Timestamp) : Instant :=
  ⟨t.unix, t.nanos + (if t.second = 60 then Instant.nanosPerSecond else 0)⟩

/-- The text of an offset: a sign, two digits of hours and two of minutes. -/
def offsetText (offset : Int) : String :=
  let minutes := (offset.natAbs + 30) / 60
  (if offset < 0 then "-" else "+") ++ Text.Numeral.padded 2 (minutes / 60) ++
    Text.Numeral.padded 2 (minutes % 60)

/-- The text of a timestamp, as in `2026-03-01T12:00:00+0000`. -/
def text (t : Timestamp) : String :=
  t.date.text ++ "T" ++ Text.Numeral.padded 2 t.hour ++ ":" ++ Text.Numeral.padded 2 t.minute ++
    ":" ++ Text.Numeral.padded 2 t.second ++ offsetText t.offset

/-- The text of a timestamp with the colon in the offset that the Internet profile of dates
and times asks for, and with the fraction of the second when there is one. -/
def internetText (t : Timestamp) : String :=
  let minutes := (t.offset.natAbs + 30) / 60
  t.date.text ++ "T" ++ Text.Numeral.padded 2 t.hour ++ ":" ++ Text.Numeral.padded 2 t.minute ++
    ":" ++ Text.Numeral.padded 2 t.second ++ fractionText t.nanos ++
    (if t.offset < 0 then "-" else "+") ++ Text.Numeral.padded 2 (minutes / 60) ++ ":" ++
    Text.Numeral.padded 2 (minutes % 60)
where
  /-- Three, six or nine digits, as few as are exact. -/
  fractionText (nanos : Nat) : String :=
    if nanos = 0 then ""
    else if nanos % 1000000 = 0 then "." ++ Text.Numeral.padded 3 (nanos / 1000000)
    else if nanos % 1000 = 0 then "." ++ Text.Numeral.padded 6 (nanos / 1000)
    else "." ++ Text.Numeral.padded 9 nanos

/-- The time of day exists. -/
def hasValidTime (t : Timestamp) : Bool :=
  t.hour ≤ 23 && t.minute ≤ 59 && t.second ≤ 60

/-- The date and the time of day exist, the offset is less than a day, and the day in universal
time is within reach. -/
def isSupported (t : Timestamp) : Bool :=
  let day := t.unix / Instant.secondsPerDay
  t.date.isSupported && t.hasValidTime && t.offset.natAbs < 86400 &&
    Date.minDays ≤ day && day ≤ Date.maxDays

/-- Keeps a timestamp that is supported. -/
def validate? (t : Timestamp) : Option Timestamp :=
  if t.isSupported then some t else none

/-- A validated timestamp is the timestamp itself. -/
theorem eq_of_validate? {t u : Timestamp} (h : t.validate? = some u) :
    u = t ∧ t.isSupported = true := by
  unfold validate? at h
  split at h
  · next hs => exact ⟨(Option.some.inj h).symm, hs⟩
  · cases h

end Timestamp

end CloudControl
