import Fairweather.Calendar.Timestamp

/-!
# How timestamps are written

Year, month and day with hyphens, hours, minutes and seconds with colons. A year has at least four
digits, and a sign when it is not between 0 and 9999. A leap second is second 60. The fraction of
a second has 3, 6 or 9 digits, the fewest that are exact, and is left out when it is zero. Records
have a `T` between date and time, messages a space.
-/

namespace Fairweather

namespace Calendar

/-- A number with zeros in front up to a width. -/
def padded (width n : Nat) : List Char :=
  let digits := Nat.toDigits 10 n
  List.replicate (width - digits.length) '0' ++ digits

/-- A year: four digits at least, with a sign when it is not between 0 and 9999. -/
def yearChars (year : Int) : List Char :=
  match year with
  | .ofNat n => if n ≤ 9999 then padded 4 n else '+' :: padded 4 n
  | .negSucc n => '-' :: padded 4 (n + 1)

/-- The fraction of a second, with its point. -/
def fractionChars (nanosecond : Nat) : List Char :=
  if nanosecond = 0 then []
  else if nanosecond % 1000000 = 0 then '.' :: padded 3 (nanosecond / 1000000)
  else if nanosecond % 1000 = 0 then '.' :: padded 6 (nanosecond / 1000)
  else '.' :: padded 9 nanosecond

end Calendar

open Calendar

/-- A date with hyphens between its parts. -/
def Civil.chars (date : Civil) : List Char :=
  yearChars date.year ++ '-' :: padded 2 date.month ++ '-' :: padded 2 date.day

namespace Timestamp

/-- The time of day. -/
def timeChars (t : Timestamp) : List Char :=
  let second := t.second % 60 + t.nanosecond / 1000000000
  padded 2 (t.second / 3600) ++ ':' :: padded 2 (t.second / 60 % 60) ++ ':' :: padded 2 second ++
    fractionChars (t.nanosecond % 1000000000)

/-- Date and time with a character between them. -/
def chars (separator : Char) (t : Timestamp) : List Char :=
  (Civil.ofDay t.day).chars ++ separator :: t.timeChars

/-- The timestamp as records have it. -/
def text (t : Timestamp) : String := String.ofList (t.chars 'T')

/-- The timestamp as messages show it. -/
def spacedText (t : Timestamp) : String := String.ofList (t.chars ' ')

end Timestamp

end Fairweather
