/-!
# Binary64 numbers, without machine arithmetic

A measurement, a threshold or a coordinate is a double-precision number. This module holds the
numbers themselves, as mathematics: nothing here is machine arithmetic, so every operation can be
reasoned about.

**Ranks.** The non-negative numbers are counted upwards from zero: rank `0` is zero, rank `1` the
smallest positive number, and `infinityRank` is infinity. A number is a sign and a rank, or it is
not a number. Order is then the order of signed ranks (`signedRank`), and the two zeros are the
two signs of rank `0`.

**Units.** Every finite magnitude is a whole number of units of `2 ^ -1074` (`units`), so the
exact value of a number is a natural number, and the exact difference of two numbers an integer.

**Rounding.** `nearestRank num den` is the rank nearest to the quotient `num / den` of units, a
half going to the even rank. It finds the binade first (`shift`), rounds the quotient by the
binade's step, and counts the ranks below it; carrying into the next binade needs no case of its
own, because ranks run on.

Powers of natural numbers are written `Nat.pow`, so that no definition depends on which `^` is in
scope.
-/

namespace Fairweather

/-- The natural number nearest to `num / den`; a half goes to the even neighbour. -/
def nearestQuotient (num den : Nat) : Nat :=
  let quotient := num / den
  let excess := 2 * (num % den)
  if excess < den then quotient
  else if den < excess then quotient + 1
  else quotient + quotient % 2

namespace Binary64

/-- The rank of infinity: 2047 exponents, each with `2 ^ 52` fractions, lie below it. -/
def infinityRank : Nat := 2047 * Nat.pow 2 52

end Binary64

/-- A double-precision number: a sign and the rank of a magnitude, or not a number. -/
inductive Binary64 where
  | nan
  | signed (negative : Bool) (rank : Fin (Binary64.infinityRank + 1))
deriving DecidableEq

namespace Binary64

/-! ## Magnitudes -/

/-- The number one, in units of `2 ^ -1074`. -/
def unitsInOne : Nat := Nat.pow 2 1074

/-- The magnitude of a rank, in units of `2 ^ -1074`. At `infinityRank` it is where the next
binade would begin, which is the bound that rounding to infinity is measured against. -/
def units (rank : Nat) : Nat :=
  if rank < Nat.pow 2 52 then rank
  else (Nat.pow 2 52 + rank % Nat.pow 2 52) * Nat.pow 2 (rank / Nat.pow 2 52 - 1)

/-- The rank nearest to `num / den` units; ranks beyond the largest finite one are infinity. -/
def nearestRank (num den : Nat) : Nat :=
  let shift := (num / den).log2 - 52
  min infinityRank (shift * Nat.pow 2 52 + nearestQuotient num (den * Nat.pow 2 shift))

/-- The number with a sign and a rank; a rank beyond infinity's is infinity. -/
def ofRank (negative : Bool) (rank : Nat) : Binary64 :=
  .signed negative ⟨min rank infinityRank, by omega⟩

def zero : Binary64 := ofRank false 0

def infinity (negative : Bool) : Binary64 := ofRank negative infinityRank

/-- Neither infinite nor not a number. -/
def isFinite : Binary64 → Bool
  | .nan => false
  | .signed _ rank => rank.val < infinityRank

/-- The magnitude, without its sign. -/
def abs : Binary64 → Binary64
  | .nan => .nan
  | .signed _ rank => .signed false rank

/-! ## Order -/

/-- The place of a number in the order of all numbers; both zeros stand at `0`. -/
def signedRank : Binary64 → Option Int
  | .nan => none
  | .signed negative rank => some (if negative then -(rank.val : Int) else rank.val)

/-- `x` is below `y`. What is not a number is below and above nothing. -/
def lt (x y : Binary64) : Bool :=
  match x.signedRank, y.signedRank with
  | some a, some b => a < b
  | _, _ => false

/-- `x` is at most `y`. -/
def le (x y : Binary64) : Bool :=
  match x.signedRank, y.signedRank with
  | some a, some b => a ≤ b
  | _, _ => false

/-- `x` and `y` compare as equal: the two zeros do, and what is not a number never does. -/
def equals (x y : Binary64) : Bool :=
  match x.signedRank, y.signedRank with
  | some a, some b => a = b
  | _, _ => false

/-! ## Distance -/

/-- The exact value of a number in units, with its sign. -/
def signedUnits (negative : Bool) (rank : Nat) : Int :=
  if negative then -(units rank : Int) else units rank

/-- The distance between two numbers, rounded to the nearest number. Infinity is infinitely far
from everything but itself, and how far it is from itself is not a number. -/
def distance : Binary64 → Binary64 → Binary64
  | .signed s x, .signed t y =>
    if x.val = infinityRank then
      if y.val = infinityRank ∧ s = t then .nan else infinity false
    else if y.val = infinityRank then infinity false
    else ofRank false (nearestRank (signedUnits s x.val - signedUnits t y.val).natAbs 1)
  | _, _ => .nan

end Binary64

end Fairweather
