import Fairweather.Text.Blank

/-!
# Plan texts

A plan is a text with one expression to a line. Blanks around an expression do not count; blank
lines, and lines that begin with a number sign, are skipped.
-/

namespace Fairweather

namespace Plan

/-- The line holds an expression. -/
def isExpression (line : List Char) : Bool :=
  match line with
  | [] => false
  | c :: _ => c ≠ '#'

/-- The expressions of a plan, line by line. -/
def expressionChars (text : List Char) : List (List Char) :=
  ((Text.lines text).map Text.trim).filter isExpression

/-- The expressions of a plan, line by line. -/
def expressions (text : String) : List String :=
  (expressionChars text.toList).map String.ofList

end Plan

end Fairweather
