import Fairweather.Calendar.Day

/-!
# Timestamps

A timestamp is a day, a second of the day and the nanoseconds within the second, without a time
zone. A leap second is kept as the second before it with a whole second more of nanoseconds, so
`23:59:60` is second 86399 with at least `10 ^ 9` nanoseconds. Leap seconds are at the end of a
minute by the clock, but any second can be kept with a second more.

Durations are whole nanoseconds. Leap seconds are not counted between other times, so subtracting
and adding are exact inverses only away from them:

* `since` is the plain difference of the three parts, corrected by one second where a leap second
  lies between the times of day;
* `shift?` counts from the second before a leap second when it moves out of it forwards, and from
  the second behind it when it moves out of it backwards; a shift that stays within the leap second
  changes the nanoseconds only.

Timestamps lie between the first and the last day of the calendar. A shift beyond them has no
result.
-/

namespace Fairweather

/-- A point of time on the calendar, without a time zone. -/
structure Timestamp where
  day : Int
  second : Nat
  nanosecond : Nat
  day_mem : Calendar.firstDay ≤ day ∧ day ≤ Calendar.lastDay
  second_lt : second < 86400
  nanosecond_lt : nanosecond < 2000000000
deriving DecidableEq

namespace Timestamp

/-- The timestamp lies within a leap second. -/
def isLeap (t : Timestamp) : Bool := 1000000000 ≤ t.nanosecond

/-- The nanoseconds since the first second of day 0, as if no second were longer than another. -/
def instant (t : Timestamp) : Int :=
  (t.day * 86400 + t.second) * 1000000000 + t.nanosecond

/-- The timestamp at an instant, if its day is one of the calendar. -/
def ofInstant? (n : Int) : Option Timestamp :=
  let day := n / 86400000000000
  if h : Calendar.firstDay ≤ day ∧ day ≤ Calendar.lastDay then
    some {
      day := day
      second := (n % 86400000000000 / 1000000000).toNat
      nanosecond := (n % 1000000000).toNat
      day_mem := h
      second_lt := by omega
      nanosecond_lt := by omega }
  else none

/-- The duration from `a` to `b`, in nanoseconds. -/
def since (b a : Timestamp) : Int :=
  let leap : Int :=
    if a.second < b.second ∧ a.isLeap then 1000000000
    else if b.second < a.second ∧ b.isLeap then -1000000000
    else 0
  b.instant - a.instant + leap

/-- The timestamp in the same second with other nanoseconds. -/
def withNanosecond (t : Timestamp) (nanosecond : Nat) (h : nanosecond < 2000000000) : Timestamp :=
  { t with
    nanosecond := nanosecond
    nanosecond_lt := h }

/-- The timestamp `duration` nanoseconds after `t`, if the calendar has it. -/
def shift? (t : Timestamp) (duration : Int) : Option Timestamp :=
  let seconds := duration.tdiv 1000000000
  let part := duration.tmod 1000000000
  if t.isLeap then
    if beyond : seconds > 0 ∨ (part > 0 ∧ 2000000000 ≤ t.nanosecond + part) then
      ofInstant? (t.instant - 1000000000 + duration)
    else if seconds < 0 then ofInstant? (t.instant + duration)
    else
      have := t.nanosecond_lt
      some (t.withNanosecond (t.nanosecond + part).toNat (by omega))
  else ofInstant? (t.instant + duration)

end Timestamp

end Fairweather
