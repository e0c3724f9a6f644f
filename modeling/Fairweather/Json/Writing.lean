import Fairweather.Number.Layout

/-!
# Writing JSON

A document is what is to be written. `compact` writes it without blanks, `pretty` with one item or
member to a line, indented by two spaces for each bracket around it; a list or an object without
parts stays on its line.
-/

namespace Fairweather

namespace Json

/-- What is to be written. -/
inductive Document where
  | number (x : Binary64)
  | string (text : List Char)
  | list (items : List Document)
  | object (members : List (String × Document))

namespace Document

/-- A character within a written string. -/
def stringChar (c : Char) : List Char :=
  if c = '"' ∨ c = '\\' then ['\\', c]
  else if c = '\n' then ['\\', 'n']
  else if c = '\r' then ['\\', 'r']
  else if c = '\t' then ['\\', 't']
  else if c.toNat = 8 then ['\\', 'b']
  else if c.toNat = 12 then ['\\', 'f']
  else if c.toNat < 0x20 then
    ['\\', 'u', '0', '0', Nat.digitChar (c.toNat / 16), Nat.digitChar (c.toNat % 16)]
  else [c]

/-- A string in its quotes. -/
def stringChars (text : List Char) : List Char := '"' :: text.flatMap stringChar ++ ['"']

mutual

/-- The document on one line. -/
def compact : Document → List Char
  | number x => x.jsonChars
  | string text => stringChars text
  | list items => '[' :: compactItems true items
  | object members => '{' :: compactMembers true members

/-- The items and the closing bracket; a comma stands before each but the first. -/
def compactItems (first : Bool) : List Document → List Char
  | [] => [']']
  | item :: rest =>
    (if first then [] else [',']) ++ compact item ++ compactItems false rest

/-- The members and the closing brace; a comma stands before each but the first. -/
def compactMembers (first : Bool) : List (String × Document) → List Char
  | [] => ['}']
  | (name, value) :: rest =>
    (if first then [] else [',']) ++ stringChars name.toList ++ ':' :: compact value ++
      compactMembers false rest

end

/-- A line feed and the indentation of a depth. -/
def newline (depth : Nat) : List Char := '\n' :: List.replicate (2 * depth) ' '

mutual

/-- The document over several lines, within `depth` brackets. -/
def prettyAt (depth : Nat) : Document → List Char
  | number x => x.jsonChars
  | string text => stringChars text
  | list [] => ['[', ']']
  | list (item :: rest) =>
    '[' :: newline (depth + 1) ++ prettyAt (depth + 1) item ++ prettyItems depth rest
  | object [] => ['{', '}']
  | object ((name, value) :: rest) =>
    '{' :: newline (depth + 1) ++ stringChars name.toList ++ ':' :: ' ' ::
      prettyAt (depth + 1) value ++ prettyMembers depth rest

/-- The items behind the first, and the closing bracket. -/
def prettyItems (depth : Nat) : List Document → List Char
  | [] => newline depth ++ [']']
  | item :: rest =>
    ',' :: newline (depth + 1) ++ prettyAt (depth + 1) item ++ prettyItems depth rest

/-- The members behind the first, and the closing brace. -/
def prettyMembers (depth : Nat) : List (String × Document) → List Char
  | [] => newline depth ++ ['}']
  | (name, value) :: rest =>
    ',' :: newline (depth + 1) ++ stringChars name.toList ++ ':' :: ' ' ::
      prettyAt (depth + 1) value ++ prettyMembers depth rest

end

/-- The document over several lines. -/
def pretty (document : Document) : List Char := document.prettyAt 0

end Document

end Json

end Fairweather
