import Fairweather.Number.Decimal

/-!
# The shortest decimal of a number

The decimal that a positive number is written with is the one with the fewest digits among those
that read back as the number, and of these the nearest to it.

A decimal reads back as the number of a rank when it lies between the midpoints to the ranks
beside it; the midpoints themselves do so when the rank is even, since a half goes to the even
rank (`readsBack`). The grids of decimals are tried from coarse to fine. On each grid only the two
points around the number matter: where any point of a grid reads back, one of these two does. The
last grid, whose step is one unit, holds the number itself.
-/

namespace Fairweather

/-- Which of two equally near decimals is written. -/
inductive TieRule where
  | up
  | toEven
deriving DecidableEq

namespace Shortest

/-- A step of `10 ^ step` as a quotient: its denominator and its numerator. One of them is `1`. -/
def tenPower (step : Int) : Nat × Nat := (Nat.pow 10 (-step).toNat, Nat.pow 10 step.toNat)

/-- The decimal `coefficient * 10 ^ step` reads back as the number of `rank`. Both sides are
measured in half units. -/
def readsBack (rank : Nat) (coefficient : Nat) (step : Int) : Bool :=
  let (up, down) := tenPower step
  let lower := (Binary64.units (rank - 1) + Binary64.units rank) * up
  let upper := (Binary64.units rank + Binary64.units (rank + 1)) * up
  let point := 2 * coefficient * down * Binary64.unitsInOne
  if rank % 2 = 0 then lower ≤ point && point ≤ upper else lower < point && point < upper

/-- The coefficient on the grid of step `10 ^ step` that the number is written with, if a point
of this grid reads back. -/
def onGrid (tie : TieRule) (rank : Nat) (step : Int) : Option Nat :=
  let (up, down) := tenPower step
  let num := Binary64.units rank * up
  let den := down * Binary64.unitsInOne
  let below := num / den
  let above := below + 1
  match readsBack rank below step, readsBack rank above step with
  | false, false => none
  | true, false => some below
  | false, true => some above
  | true, true =>
    let excess := 2 * (num % den)
    if excess < den then some below
    else if den < excess then some above
    else match tie with
      | .up => some above
      | .toEven => some (below + below % 2)

/-- A unit is this many times `10 ^ -1074`. -/
def unitCoefficient : Nat := Nat.pow 5 1074

/-- The first grid with a point that reads back, from `step` down. -/
def search (tie : TieRule) (rank : Nat) : Nat → Int → Nat × Int
  | 0, _ => (Binary64.units rank * unitCoefficient, -1074)
  | tries + 1, step =>
    match onGrid tie rank step with
    | some coefficient => (coefficient, step)
    | none => search tie rank tries (step - 1)

/-- A step above every grid that can hold a decimal of the number: `30103 / 100000` exceeds the
decimal logarithm of two. -/
def coarsest (rank : Nat) : Int :=
  (((Binary64.units rank).log2 : Int) - 1073) * 30103 / 100000 + 2

end Shortest

/-- The coefficient and the power of ten of the shortest decimal of a positive rank. -/
def shortestDecimal (tie : TieRule) (rank : Nat) : Nat × Int :=
  let step := Shortest.coarsest rank
  Shortest.search tie rank (step + 1075).toNat step

end Fairweather
