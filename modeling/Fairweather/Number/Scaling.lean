import Fairweather.Number.Decimal

/-!
# Scaled decimals

The quick way from a decimal to a number. The coefficient is made a number first, and this is
multiplied or divided by a power of ten, which is a number as well. Each of these steps rounds. So
the result can miss the number nearest to the decimal, where one of the steps is not exact:
11.520000000000001 comes out as 11.52.

There are powers of ten up to `10 ^ 308`. What is divided by a greater one is divided by `10 ^ 308`
as often as that is contained in it.
-/

namespace Fairweather

namespace Binary64

/-- The rank nearest to a natural number. -/
def rankOfNat (n : Nat) : Nat := nearestRank (n * unitsInOne) 1

/-- The rank nearest to a product of finite ranks. -/
def mulRank (r s : Nat) : Nat := nearestRank (units r * units s) unitsInOne

/-- The rank nearest to a quotient of finite ranks. -/
def divRank (r s : Nat) : Nat := nearestRank (units r * unitsInOne) (units s)

/-- The greatest exponent whose power of ten is a finite number. -/
def maxTenPower : Nat := 308

/-- The rank nearest to a power of ten. -/
def tenRank (exponent : Nat) : Nat := rankOfNat (Nat.pow 10 exponent)

/-- A rank divided by a power of ten. -/
def divTenRank (rank places : Nat) : Nat :=
  if places ≤ maxTenPower then divRank rank (tenRank places)
  else if rank = 0 then 0
  else divTenRank (divRank rank (tenRank maxTenPower)) (places - maxTenPower)
termination_by places
decreasing_by
  simp only [maxTenPower] at *
  omega

/-- A rank multiplied by a power of ten; what there is no power for is infinite. -/
def mulTenRank (rank zeros : Nat) : Nat :=
  if zeros ≤ maxTenPower then mulRank rank (tenRank zeros)
  else if rank = 0 then 0
  else infinityRank

end Binary64

namespace Decimal

open Binary64

/-- The rank that scaling the coefficient leads to. -/
def scaledRank (d : Decimal) : Nat :=
  match d.exponent with
  | .ofNat e => mulTenRank (rankOfNat d.coefficient) e
  | .negSucc e => divTenRank (rankOfNat d.coefficient) (e + 1)

/-- The number that scaling the coefficient leads to. -/
def scaled (d : Decimal) : Binary64 := ofRank d.negative d.scaledRank

end Decimal

end Fairweather
