import Fairweather.Number.Layout

/-!
# The tokens of an expression

An expression is a keyword and its operands: a comparison and a number, or a point. Tokens compare
as their numbers do, so a token that holds what is not a number differs from itself.
-/

namespace Fairweather

/-- How a measurement is compared with a threshold. -/
inductive Comparison where
  | greater
  | less
  | equal
deriving DecidableEq

namespace Comparison

/-- The character that a comparison is written with. -/
def symbol : Comparison → Char
  | greater => '>'
  | less => '<'
  | equal => '='

/-- The comparison that a character stands for. -/
def ofSymbol? (c : Char) : Option Comparison := [greater, less, equal].find? (·.symbol = c)

/-- The comparison holds of `x` and `y`, in this order. -/
def holds : Comparison → Binary64 → Binary64 → Bool
  | greater, x, y => y.lt x
  | less, x, y => x.lt y
  | equal, x, y => x.equals y

end Comparison

/-- A part of an expression that carries meaning. -/
inductive Token where
  | keyword (word : String)
  | comparison (c : Comparison)
  | number (x : Binary64)
  | point (latitude longitude : Binary64)
deriving DecidableEq

namespace Token

/-- The token as messages show it. -/
def text : Token → String
  | keyword word => word
  | comparison c => String.singleton c.symbol
  | number x => x.plain
  | point latitude longitude => latitude.plain ++ ", " ++ longitude.plain

/-- The tokens compare as equal, numbers by value. -/
def equals : Token → Token → Bool
  | keyword v, keyword w => v == w
  | comparison c, comparison d => c == d
  | number x, number y => x.equals y
  | point a b, point c d => a.equals c && b.equals d
  | _, _ => false

end Token

/-- The operands that are still to be taken, the next one first. -/
structure OperandStack where
  toList : List Token
deriving DecidableEq

namespace OperandStack

def empty : OperandStack := ⟨[]⟩

/-- Tokens in reading order: the first is taken first. -/
def ofList (tokens : List Token) : OperandStack := ⟨tokens⟩

/-- One more token, which is taken next. -/
def push (stack : OperandStack) (token : Token) : OperandStack := ⟨token :: stack.toList⟩

/-- The next token and the tokens behind it. -/
def pop? (stack : OperandStack) : Option (Token × OperandStack) :=
  match stack.toList with
  | [] => none
  | token :: rest => some (token, ⟨rest⟩)

@[simp] theorem pop?_empty : empty.pop? = none := rfl

@[simp] theorem pop?_push (stack : OperandStack) (token : Token) :
    (stack.push token).pop? = some (token, stack) := rfl

/-- The next token, which stays where it is. -/
def peek? (stack : OperandStack) : Option Token := stack.toList.head?

def isEmpty (stack : OperandStack) : Bool := stack.toList.isEmpty

def size (stack : OperandStack) : Nat := stack.toList.length

@[simp] theorem size_push (stack : OperandStack) (token : Token) :
    (stack.push token).size = stack.size + 1 := rfl

/-- Token by token, as tokens compare. -/
def equals (s t : OperandStack) : Bool :=
  s.size == t.size && (s.toList.zip t.toList).all fun (a, b) => a.equals b

/-- The next token first, with bars between the tokens. -/
def text (stack : OperandStack) : String :=
  "[" ++ " | ".intercalate (stack.toList.map Token.text) ++ "]"

end OperandStack

end Fairweather
