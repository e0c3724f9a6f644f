import Fairweather.Calendar.Timestamp
import Fairweather.Text.Blank

/-!
# How timestamps are read

A format is a list of parts, read from left to right. Before a number any blanks are skipped. A
year has up to four digits, or a sign and any number of them; the other numbers have up to two
digits, and have to be in their range at once. Second 60 is a leap second, which any minute may
have. Whether the month has the day is asked when everything has been read.

Forecasts leave out the seconds or give them (`forecastFormats`); in a record (`recordFormat`) the
seconds are required, may have a fraction, and blanks may stand before every separator and at the
end.
-/

namespace Fairweather

/-- Why a text is no timestamp of a format. -/
inductive TimestampFault where
  | tooShort
  | invalid
  | outOfRange
  | trailing
deriving DecidableEq

def TimestampFault.message : TimestampFault → String
  | tooShort => "premature end of input"
  | invalid => "input contains invalid characters"
  | outOfRange => "input is out of range"
  | trailing => "trailing input"

namespace Calendar

/-- A part of a format. -/
inductive Part where
  | year
  | month
  | day
  | hour
  | minute
  | second
  | fraction
  | blanks
  | symbol (c : Char)
deriving DecidableEq

/-- The numbers that the parts of a format give. -/
structure Fields where
  year : Int
  month : Nat
  day : Nat
  hour : Nat
  minute : Nat
  second : Nat
  nanosecond : Nat
deriving DecidableEq

/-- What holds before a part has been read; the seconds keep it where a format has none. -/
def Fields.zero : Fields := ⟨0, 0, 0, 0, 0, 0, 0⟩

/-- The digits at the front of a text, at most `most` of them, and what follows them. -/
def readDigits (most : Nat) (text : List Char) :
    Except TimestampFault (List Char × List Char) :=
  match text with
  | [] => .error .tooShort
  | _ :: _ =>
    match (text.take most).takeWhile Char.isDigit with
    | [] => .error .invalid
    | digits => .ok (digits, text.drop digits.length)

/-- A number of at most `most` digits that lies between two bounds. -/
def readNumber (most least greatest : Nat) (text : List Char) :
    Except TimestampFault (Nat × List Char) := do
  let (digits, rest) ← readDigits most text
  let n := Nat.ofDigitChars 10 digits 0
  if least ≤ n ∧ n ≤ greatest then return (n, rest) else throw .outOfRange

/-- A year. The bounds are those of a 32-bit integer; the calendar is asked later. -/
def readYear (text : List Char) : Except TimestampFault (Int × List Char) :=
  match text with
  | '-' :: rest => (readNumber rest.length 0 2147483648 rest).map fun (n, rest) => (-n, rest)
  | '+' :: rest => (readNumber rest.length 0 2147483647 rest).map fun (n, rest) => (n, rest)
  | _ => (readNumber 4 0 9999 text).map fun (n, rest) => (n, rest)

/-- The fraction of a second, if a point comes next. Digits behind the ninth are skipped. -/
def readFraction (text : List Char) : Except TimestampFault (Nat × List Char) :=
  match text with
  | '.' :: rest => do
    let (digits, rest) ← readDigits 9 rest
    let nanosecond := Nat.ofDigitChars 10 digits 0 * Nat.pow 10 (9 - digits.length)
    return (nanosecond, rest.dropWhile Char.isDigit)
  | _ => return (0, text)

/-- One part of a format. -/
def Part.read (fields : Fields) (text : List Char) :
    Part → Except TimestampFault (Fields × List Char)
  | year => do
    let (n, rest) ← readYear (text.dropWhile isBlank)
    return ({ fields with year := n }, rest)
  | month => do
    let (n, rest) ← readNumber 2 1 12 (text.dropWhile isBlank)
    return ({ fields with month := n }, rest)
  | day => do
    let (n, rest) ← readNumber 2 1 31 (text.dropWhile isBlank)
    return ({ fields with day := n }, rest)
  | hour => do
    let (n, rest) ← readNumber 2 0 23 (text.dropWhile isBlank)
    return ({ fields with hour := n }, rest)
  | minute => do
    let (n, rest) ← readNumber 2 0 59 (text.dropWhile isBlank)
    return ({ fields with minute := n }, rest)
  | second => do
    let (n, rest) ← readNumber 2 0 60 (text.dropWhile isBlank)
    return ({ fields with second := n }, rest)
  | fraction => do
    let (n, rest) ← readFraction text
    return ({ fields with nanosecond := n }, rest)
  | blanks => return (fields, text.dropWhile isBlank)
  | symbol c =>
    match text with
    | [] => throw .tooShort
    | d :: rest => if c = d then return (fields, rest) else throw .invalid

/-- The parts of a format, one after the other, up to the end of the text. -/
def readParts : List Part → Fields → List Char → Except TimestampFault Fields
  | [], fields, [] => .ok fields
  | [], _, _ :: _ => .error .trailing
  | part :: parts, fields, text =>
    match part.read fields text with
    | .ok (fields, rest) => readParts parts fields rest
    | .error fault => .error fault

/-- The second of the day and the nanoseconds of a time; second 60 is a second longer than 59. -/
def Fields.time (fields : Fields) : Nat × Nat :=
  let minutes := fields.hour * 60 + fields.minute
  if fields.second = 60 then (minutes * 60 + 59, fields.nanosecond + 1000000000)
  else (minutes * 60 + fields.second, fields.nanosecond)

/-- The timestamp of a date and a time, if there is one. -/
def Fields.timestamp? (fields : Fields) : Option Timestamp :=
  match (Civil.mk fields.year fields.month fields.day).toDay? with
  | none => none
  | some day =>
    let (second, nanosecond) := fields.time
    if h : (firstDay ≤ day ∧ day ≤ lastDay) ∧ second < 86400 ∧ nanosecond < 2000000000 then
      some ⟨day, second, nanosecond, h.1, h.2.1, h.2.2⟩
    else none

/-- A text in a format. -/
def readTimestamp (format : List Part) (text : List Char) : Except TimestampFault Timestamp := do
  let fields ← readParts format .zero text
  match fields.timestamp? with
  | some t => return t
  | none => throw .outOfRange

/-- The two formats of forecasts: without seconds and with them. -/
def forecastFormats : List (List Part) :=
  let minutes : List Part :=
    [.year, .symbol '-', .month, .symbol '-', .day, .symbol 'T', .hour, .symbol ':', .minute]
  [minutes, minutes ++ [.symbol ':', .second]]

/-- The format of serialised records. -/
def recordFormat : List Part :=
  [.year, .blanks, .symbol '-', .month, .blanks, .symbol '-', .day, .blanks, .symbol 'T',
    .hour, .blanks, .symbol ':', .minute, .blanks, .symbol ':', .second, .fraction, .blanks]

end Calendar

namespace Timestamp

/-- The timestamp of a forecast's time, in the first format that it has. -/
def ofForecast? (text : String) : Option Timestamp :=
  Calendar.forecastFormats.findSome? fun format =>
    (Calendar.readTimestamp format text.toList).toOption

/-- The timestamp of a serialised record. -/
def ofRecord (text : String) : Except TimestampFault Timestamp :=
  Calendar.readTimestamp Calendar.recordFormat text.toList

end Timestamp

end Fairweather
