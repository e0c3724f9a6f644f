import Fairweather.Json.Fault
import Fairweather.Number.Scaling
import Fairweather.Text.Utf8

/-!
# Numbers in a JSON text

A number is an optional minus sign, digits without a zero in front, an optional fraction and an
optional exponent. `Number.scan` reads one from its first character on, up to where it stops being
a number: it may be complete, malformed, or cut off by the end of the text. Only a number that is
read tells the last two apart, and only then is its size looked at; a number that is skipped may be
as large as it likes.

**A number is read quickly, not exactly.** Its digits are put into 64 bits as far as they go there,
and what they make is scaled by a power of ten (`Number.held`, `Decimal.scaled`). The result is the
number nearest to what the text says, unless the digits are many or the power is great.
-/

namespace Fairweather

namespace Json

/-- How a number ends: where it may, at a symbol that it cannot have, or with the text. -/
inductive NumberEnd where
  | complete
  | malformed
  | cut
deriving DecidableEq

/-- The parts of a number as far as it goes. -/
structure Number where
  negative : Bool
  whole : List Char
  fraction : List Char
  exponent : Int
  /-- There is neither a fraction nor an exponent. -/
  integral : Bool
  ending : NumberEnd
deriving DecidableEq

namespace Number

/-- The digits at the front of a text, and what follows them. -/
def digits : List Symbol → List Char × List Symbol
  | some c :: rest =>
    if c.isDigit then
      let (more, rest) := digits rest
      (c :: more, rest)
    else ([], some c :: rest)
  | rest => ([], rest)

/-- How a number ends where a digit is missing. -/
def missingDigit : List Symbol → NumberEnd
  | [] => .cut
  | _ :: _ => .malformed

/-- The exponent, if one comes next, behind the other parts of a number. -/
def scanExponent (number : Number) : List Symbol → Number × List Symbol
  | [] => (number, [])
  | marker :: rest =>
    if marker = some 'e' ∨ marker = some 'E' then
      let (negative, tail) := match rest with
        | some '-' :: tail => (true, tail)
        | some '+' :: tail => (false, tail)
        | tail => (false, tail)
      match digits tail with
      | ([], tail) => ({ number with ending := missingDigit tail }, [])
      | (ds, tail) =>
        let magnitude : Int := Nat.ofDigitChars 10 ds 0
        ({ number with
            exponent := if negative then -magnitude else magnitude
            integral := false }, tail)
    else (number, marker :: rest)

/-- Fraction and exponent, if they come next, behind the whole part of a number. -/
def scanFraction (number : Number) : List Symbol → Number × List Symbol
  | some '.' :: rest =>
    match digits rest with
    | ([], tail) => ({ number with ending := missingDigit tail }, [])
    | (ds, tail) => scanExponent { number with fraction := ds, integral := false } tail
  | rest => scanExponent number rest

/-- A number with a sign and digits before the point. -/
def ofWhole (negative : Bool) (whole : List Char) : Number :=
  ⟨negative, whole, [], 0, true, .complete⟩

/-- The number at the front of a text that begins with a minus sign or a digit. -/
def scan (text : List Symbol) : Number × List Symbol :=
  let (negative, afterSign) := match text with
    | some '-' :: rest => (true, rest)
    | rest => (false, rest)
  match digits afterSign with
  | ([], rest) => ({ ofWhole negative [] with ending := missingDigit rest }, [])
  | (['0'], rest) => scanFraction (ofWhole negative ['0']) rest
  | ('0' :: _ :: _, _) => ({ ofWhole negative [] with ending := .malformed }, [])
  | (ds, rest) => scanFraction (ofWhole negative ds) rest

/-- A number that is skipped has to be complete. -/
def skip (number : Number) : Except Fault Unit :=
  match number.ending with
  | .complete => .ok ()
  | .malformed | .cut => .error .invalidNumber

/-- The decimal that a complete number denotes. -/
def value (number : Number) : Decimal :=
  Decimal.ofDigits number.negative number.whole number.fraction number.exponent

/-- Digits put behind those of a coefficient, one by one as long as 64 bits hold the result, and the
digits that are left. -/
def putDigits (coefficient : Nat) : List Char → Nat × List Char
  | [] => (coefficient, [])
  | d :: ds =>
    let longer := Nat.ofDigitChars 10 [d] coefficient
    if longer < Nat.pow 2 64 then putDigits longer ds else (coefficient, d :: ds)

/-- The decimal of the digits that 64 bits hold. A digit that is left before the point is a power of
ten; one that is left behind it makes no difference. -/
def held (number : Number) : Decimal :=
  let (coefficient, powers) := putDigits 0 number.whole
  let (coefficient, left) := putDigits coefficient number.fraction
  { negative := number.negative
    coefficient := coefficient
    exponent := number.exponent + powers.length - (number.fraction.length - left.length) }

/-- What a number is read as. -/
def toBinary64 (number : Number) : Except Fault Binary64 :=
  match number.ending with
  | .malformed => .error .invalidNumber
  | .cut => .error .endInValue
  | .complete =>
    let x := number.held.scaled
    if x.isFinite then .ok x else .error .numberOutOfRange

/-- A number that is read, as messages show it: a whole number is an integer as far as 64 bits
hold it, and zero with a minus sign is not. -/
def found (number : Number) : Except Fault Found := do
  let x ← number.toBinary64
  let magnitude := Nat.ofDigitChars 10 number.whole 0
  if number.integral ∧ ¬number.negative ∧ magnitude < Nat.pow 2 64 then
    return .integer magnitude
  else if number.integral ∧ number.negative ∧ 0 < magnitude ∧ magnitude ≤ Nat.pow 2 63 then
    return .integer (-magnitude)
  else return .float x

end Number

end Json

end Fairweather
