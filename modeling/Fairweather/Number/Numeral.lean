import Fairweather.Number.Decimal

/-!
# Numerals

A numeral of the expression language is an optional sign, digits with at most one point among or
around them, and an optional exponent: `35`, `-4`, `+2.5`, `.5`, `12.`, `2.5E-1`. `Numeral.scan`
takes the longest numeral at the front of a text. An exponent marker without digits behind it is
not part of the numeral and stays in the text.

`Binary64.ofText?` reads a whole text as a number; besides numerals it knows the words for
infinity and for what is not a number, in any case.
-/

namespace Fairweather

/-- A numeral as written, and the decimal that it denotes. -/
structure Numeral where
  text : List Char
  value : Decimal
deriving DecidableEq

namespace Numeral

/-- An optional sign, and whether it is the minus sign. -/
def scanSign : List Char → List Char × Bool × List Char
  | '+' :: rest => (['+'], false, rest)
  | '-' :: rest => (['-'], true, rest)
  | rest => ([], false, rest)

/-- The point and the digits behind it, if a point comes next. -/
def scanFraction : List Char → List Char × List Char × List Char
  | '.' :: rest => (['.'], rest.takeWhile Char.isDigit, rest.dropWhile Char.isDigit)
  | rest => ([], [], rest)

/-- An exponent with at least one digit, if one comes next. -/
def scanExponent : List Char → List Char × Int × List Char
  | [] => ([], 0, [])
  | marker :: rest =>
    let (sign, negative, tail) := scanSign rest
    let digits := tail.takeWhile Char.isDigit
    if (marker = 'e' ∨ marker = 'E') ∧ digits ≠ [] then
      let magnitude : Int := Nat.ofDigitChars 10 digits 0
      (marker :: sign ++ digits, if negative then -magnitude else magnitude,
        tail.dropWhile Char.isDigit)
    else ([], 0, marker :: rest)

/-- The longest numeral at the front of a text, and what follows it. -/
def scan (text : List Char) : Option (Numeral × List Char) :=
  let (sign, negative, afterSign) := scanSign text
  let whole := afterSign.takeWhile Char.isDigit
  let (point, fraction, afterFraction) := scanFraction (afterSign.dropWhile Char.isDigit)
  if whole = [] ∧ fraction = [] then none
  else
    let (exponent, power, rest) := scanExponent afterFraction
    some (⟨sign ++ whole ++ point ++ fraction ++ exponent,
      Decimal.ofDigits negative whole fraction power⟩, rest)

end Numeral

namespace Binary64

/-- The number that a whole text denotes: a numeral, or a word for infinity or for what is not a
number. -/
def ofText? (text : String) : Option Binary64 :=
  let (_, negative, word) := Numeral.scanSign text.toList
  let lowered := String.ofList (word.map Char.toLower)
  if lowered = "inf" ∨ lowered = "infinity" then some (infinity negative)
  else if lowered = "nan" then some .nan
  else match Numeral.scan text.toList with
    | some (numeral, []) => some numeral.value.toBinary64
    | _ => none

end Binary64

end Fairweather
