import Fairweather.Number.Shortest

/-!
# How numbers are written

Both layouts write the shortest decimal of a number. `Binary64.plain` is the layout of expressions
and messages: never an exponent, and no point where there is nothing behind it.
`Binary64.jsonChars` is the layout of serialised records: a number always shows a point or an
exponent, and positions run from `10 ^ -5` to `10 ^ 15`.
-/

namespace Fairweather

namespace Layout

/-- The digits of a coefficient times a power of ten, written out with a point where needed. -/
def positional (coefficient : Nat) (exponent : Int) : List Char :=
  let digits := Nat.toDigits 10 coefficient
  match exponent with
  | .ofNat zeros => digits ++ List.replicate zeros '0'
  | .negSucc n =>
    let places := n + 1
    let padded := List.replicate (places + 1 - digits.length) '0' ++ digits
    padded.take (padded.length - places) ++ '.' :: padded.drop (padded.length - places)

/-- The sign in front of a magnitude. -/
def sign (negative : Bool) : List Char := if negative then ['-'] else []

/-- A power of ten in scientific layout, always with its sign. -/
def power (exponent : Int) : List Char :=
  match exponent with
  | .ofNat n => 'e' :: '+' :: Nat.toDigits 10 n
  | .negSucc n => 'e' :: '-' :: Nat.toDigits 10 (n + 1)

/-- One digit before the point, the others behind it, and the power of ten of the first. -/
def scientific (coefficient : Nat) (exponent : Int) : List Char :=
  let digits := Nat.toDigits 10 coefficient
  let point := if digits.length = 1 then [] else ['.']
  digits.take 1 ++ point ++ digits.drop 1 ++ power (exponent + digits.length - 1)

/-- The layout of serialised records: positional for first digits from `10 ^ -5` to `10 ^ 15`. -/
def serialised (coefficient : Nat) (exponent : Int) : List Char :=
  let first := exponent + (Nat.toDigits 10 coefficient).length - 1
  if first < -5 || 15 < first then scientific coefficient exponent
  else if exponent < 0 then positional coefficient exponent
  else positional coefficient exponent ++ ['.', '0']

end Layout

namespace Binary64

/-- A finite magnitude of non-zero rank in a layout of its shortest decimal. -/
def layOut (tie : TieRule) (layout : Nat → Int → List Char) (rank : Nat) : List Char :=
  let (coefficient, exponent) := shortestDecimal tie rank
  layout coefficient exponent

/-- A number in an expression or a message: all its digits, no exponent. Of two equally near
decimals the upper is written. -/
def plainChars : Binary64 → List Char
  | .nan => ['N', 'a', 'N']
  | .signed negative rank =>
    Layout.sign negative ++
      if rank.val = infinityRank then ['i', 'n', 'f']
      else if rank.val = 0 then ['0']
      else layOut .up Layout.positional rank.val

/-- A number in a serialised record. What has no place in the format is `null`. Of two equally
near decimals the one with an even last digit is written. -/
def jsonChars : Binary64 → List Char
  | .nan => ['n', 'u', 'l', 'l']
  | .signed negative rank =>
    if rank.val = infinityRank then ['n', 'u', 'l', 'l']
    else Layout.sign negative ++
      if rank.val = 0 then ['0', '.', '0']
      else layOut .toEven Layout.serialised rank.val

/-- A number in an expression or a message. -/
def plain (x : Binary64) : String := String.ofList x.plainChars

end Binary64

end Fairweather
