import Fairweather.Number.Binary64

/-!
# Decimal values and their nearest numbers

What a decimal literal denotes: a sign, a whole coefficient and a power of ten. `toBinary64` is
the number nearest to it. The quotient of units is exact, so the rounding is the only rounding;
two shortcuts answer at once where a power of ten is so far out that the quotient would be huge
and the answer is known: above `10 ^ 308` everything is infinite, and a coefficient that is small
against a negative power of ten is below half the smallest number.
-/

namespace Fairweather

/-- `coefficient * 10 ^ exponent`, with a sign of its own so that zero keeps it. -/
structure Decimal where
  negative : Bool
  coefficient : Nat
  exponent : Int
deriving DecidableEq

namespace Decimal

/-- The decimal of digits before and behind a point, times a power of ten. -/
def ofDigits (negative : Bool) (whole fraction : List Char) (exponent : Int) : Decimal where
  negative := negative
  coefficient := Nat.ofDigitChars 10 (whole ++ fraction) 0
  exponent := exponent - fraction.length

/-- The rank of the number nearest to the magnitude. -/
def rank (d : Decimal) : Nat :=
  match d.exponent with
  | .ofNat e =>
    if d.coefficient = 0 then 0
    else if 308 < e then Binary64.infinityRank
    else Binary64.nearestRank (d.coefficient * Nat.pow 10 e * Binary64.unitsInOne) 1
  | .negSucc e =>
    -- `8 ^ (e + 1)` already exceeds the coefficient's half units
    if d.coefficient.log2 + 1076 < 3 * (e + 1) then 0
    else Binary64.nearestRank (d.coefficient * Binary64.unitsInOne) (Nat.pow 10 (e + 1))

/-- The number nearest to the decimal; a half goes to the even rank. -/
def toBinary64 (d : Decimal) : Binary64 := Binary64.ofRank d.negative d.rank

end Decimal

end Fairweather
