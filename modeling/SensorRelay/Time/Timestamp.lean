import SensorRelay.Time.Calendar

/-!
# Timestamps

A `WallClock` is a date and a time of day in years 1 to 9999 to the microsecond, held as the
microseconds since the start of year 1. A `Timestamp` is a wall clock with or without an
offset from UTC; one without is naive and taken as UTC when it has to name an instant.
-/

namespace SensorRelay

/-- The microseconds of a day. -/
def microsPerDay : Nat := 86400000000

/-- The microseconds of years 1 to 9999. -/
def wallLimit : Nat := 315537897600000000

/-- A date and time of day without a zone. -/
structure WallClock where
  micros : Nat
  isLt : micros < wallLimit
deriving DecidableEq

namespace WallClock

/-- The wall clock this many microseconds after the start of year 1. -/
def ofMicros? (n : Int) : Option WallClock :=
  if h : n.toNat < wallLimit then if 0 ≤ n then some ⟨n.toNat, h⟩ else none else none

/-- The date. -/
def date (w : WallClock) : Date := Date.ofDayNumber (w.micros / microsPerDay)

/-- The microseconds since midnight. -/
def timeOfDay (w : WallClock) : Nat := w.micros % microsPerDay

def hour (w : WallClock) : Nat := w.timeOfDay / 3600000000
def minute (w : WallClock) : Nat := w.timeOfDay / 60000000 % 60
def second (w : WallClock) : Nat := w.timeOfDay / 1000000 % 60
def microsecond (w : WallClock) : Nat := w.timeOfDay % 1000000

/-- The wall clock on day `day` at the given time, if there is one. -/
def ofDay? (day hour minute second microsecond : Nat) : Option WallClock :=
  if hour ≤ 23 ∧ minute ≤ 59 ∧ second ≤ 59 ∧ microsecond ≤ 999999 then
    ofMicros? (day * microsPerDay + hour * 3600000000 + minute * 60000000 + second * 1000000
      + microsecond : Nat)
  else none

/-- The wall clock with the given fields, if there is one. -/
def ofFields? (date : Date) (hour minute second microsecond : Nat) : Option WallClock :=
  if date.isValid then ofDay? date.dayNumber hour minute second microsecond else none

end WallClock

/-- A distance from UTC, in microseconds, shorter than a day. -/
structure UtcOffset where
  micros : Int
  bounded : -86400000000 < micros ∧ micros < 86400000000
deriving DecidableEq

namespace UtcOffset

/-- No distance. -/
def utc : UtcOffset := ⟨0, by decide⟩

/-- The offset of this many microseconds, if it is shorter than a day. -/
def ofMicros? (n : Int) : Option UtcOffset :=
  if h : -86400000000 < n ∧ n < 86400000000 then some ⟨n, h⟩ else none

end UtcOffset

/-- A wall clock with an offset from UTC or, when naive, without. -/
structure Timestamp where
  wall : WallClock
  offset : Option UtcOffset
deriving DecidableEq

namespace Timestamp

/-- Naive timestamps become UTC ones. -/
def asUtc (t : Timestamp) : Timestamp :=
  { t with offset := some (t.offset.getD UtcOffset.utc) }

/-- The instant, in microseconds since the start of year 1 in UTC. -/
def instant (t : Timestamp) : Int :=
  t.wall.micros - (t.offset.getD UtcOffset.utc).micros

/-- The UTC timestamp of an instant, if it falls in years 1 to 9999. -/
def ofInstant? (n : Int) : Option Timestamp :=
  (WallClock.ofMicros? n).map fun w => ⟨w, some UtcOffset.utc⟩

/-- January 1 of 1970 in UTC, as an instant. -/
def epoch : Int := 62135596800000000

end Timestamp
end SensorRelay
