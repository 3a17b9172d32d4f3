import TelemetrySpool.Text.Digits
import TelemetrySpool.Time.Date

/-!
# Instants

An instant counts seconds from the start of 1970 in UTC, and nanoseconds within the second. A leap
second is the sixtieth second of its minute: it shares the count of the second before it, and its
nanoseconds run on from one thousand million. Instants are written in two forms, both cut off at
milliseconds: the compact stamp of file names in UTC and the readable form of the console in
local time.
-/

namespace TelemetrySpool

/-- A moment in UTC. -/
structure Instant where
  /-- Seconds since the start of 1970. -/
  seconds : Int
  /-- Nanoseconds within the second, from one thousand million on during a leap second. -/
  nanos : Nat
  nanos_lt : nanos < 2000000000
  /-- Only the last second of a minute can hold a leap second. The type that chrono has for instants
  also holds leap nanoseconds in other seconds; such values are left out. -/
  leap_at_minute_end : 1000000000 ≤ nanos → seconds % 60 = 59
  deriving DecidableEq, Repr

namespace Instant

/-- The instant of a second and its nanoseconds, if there is one. -/
def of? (seconds : Int) (nanos : Nat) : Option Instant :=
  if h : nanos < 2000000000 ∧ (1000000000 ≤ nanos → seconds % 60 = 59) then
    some ⟨seconds, nanos, h.1, h.2⟩
  else none

/-- The start of 1970. -/
def epoch : Instant := ⟨0, 0, by omega, by omega⟩

/-- The instant that lies `nanos` nanoseconds after the start of 1970; never a leap second. -/
def ofNanos (nanos : Int) : Instant where
  seconds := nanos / 1000000000
  nanos := (nanos % 1000000000).toNat
  nanos_lt := by omega
  leap_at_minute_end := by omega

/-- Whole milliseconds since the start of 1970, a leap second counting on from the one before. -/
def millis (t : Instant) : Int := t.seconds * 1000 + (t.nanos / 1000000 : Nat)

/--
Moves an instant by milliseconds. Within a leap second the nanoseconds move; a step that leaves
it forwards starts from the second before it, and one that goes back by a second or more starts
from the second after it, so that a leap second takes no time of its own.
-/
def addMillis (t : Instant) (ms : Int) : Instant :=
  if t.nanos < 1000000000 then
    ofNanos (t.seconds * 1000000000 + t.nanos + ms * 1000000)
  else if 0 < ms.tdiv 1000 ∨ (0 < ms ∧ 2000000000 ≤ t.nanos + ms.tmod 1000 * 1000000) then
    ofNanos (t.seconds * 1000000000 + (t.nanos - 1000000000 : Nat) + ms * 1000000)
  else if ms.tdiv 1000 < 0 then
    ofNanos ((t.seconds + 1) * 1000000000 + (t.nanos - 1000000000 : Nat) + ms * 1000000)
  else
    (of? t.seconds (t.nanos + ms.tmod 1000 * 1000000).toNat).getD t

/-- The date of an instant. -/
def date (t : Instant) : Date := Date.ofDays (t.seconds / 86400)

/-- The second of the day, from 0. -/
def secondOfDay (t : Instant) : Nat := (t.seconds % 86400).toNat

/-- The second of the minute, 60 during a leap second. -/
def second (t : Instant) : Nat := t.secondOfDay % 60 + t.nanos / 1000000000

/-- The millisecond of the second. -/
def millisecond (t : Instant) : Nat := t.nanos / 1000000 % 1000

/-- A year: four digits from 0 to 9999, and otherwise a sign and four digits at least. -/
def yearText (year : Int) : List Char :=
  if 0 ≤ year ∧ year ≤ 9999 then Digits.padded 4 year.toNat
  else (if year < 0 then '-' else '+') :: Digits.padded 4 year.natAbs

/-- The stamp of file names: date, time and milliseconds, parted by underscores. -/
def stamp (t : Instant) : String :=
  let d := t.date
  String.ofList <|
    yearText d.year ++ Digits.padded 2 d.month ++ Digits.padded 2 d.day ++ '_' ::
    (Digits.padded 2 (t.secondOfDay / 3600) ++ Digits.padded 2 (t.secondOfDay / 60 % 60) ++
      Digits.padded 2 t.second ++ '_' :: Digits.padded 3 t.millisecond)

/-- An offset from UTC, given in seconds: its sign, and its hours and minutes to the nearest
minute. -/
def offsetText (offset : Int) : List Char :=
  let minutes := (offset.natAbs + 30) / 60
  (if offset < 0 then '-' else '+') ::
    (Digits.padded 2 (minutes / 60) ++ ':' :: Digits.padded 2 (minutes % 60))

/-- The readable form of the console, in a local time that is `offset` seconds ahead of UTC. -/
def readable (t : Instant) (offset : Int) : String :=
  let d := Date.ofDays ((t.seconds + offset) / 86400)
  let s := ((t.seconds + offset) % 86400).toNat
  String.ofList <|
    yearText d.year ++ '-' :: (Digits.padded 2 d.month ++ '-' :: (Digits.padded 2 d.day ++ 'T' ::
    (Digits.padded 2 (s / 3600) ++ ':' :: (Digits.padded 2 (s / 60 % 60) ++
      ':' :: (Digits.padded 2 (s % 60 + t.nanos / 1000000000) ++ '.' ::
        (Digits.padded 3 t.millisecond ++ offsetText offset))))))

end Instant

end TelemetrySpool
