import Fairweather.Number.Numeral
import Fairweather.Text.Blank

/-!
# A cursor over an expression

The cursor holds what is unread of a text and the byte offset at which it begins. Each operation
takes characters from the front of the unread text and moves the offset by their size; word
characters, digits and the other characters of a numeral are ASCII, so they count one byte each.

An operation that fails leaves the cursor where it was, with one exception: a numeral whose value
is out of range has been read when its value is looked at, and stays read.
-/

namespace Fairweather

/-- A place in a text: its byte offset and what follows it. -/
structure Cursor where
  offset : Nat
  rest : List Char
deriving DecidableEq

/-- Why an operation of the cursor failed. -/
inductive CursorFault where
  | identifierExpected
  | numberExpected
  | numberOutOfRange (numeral : String)
  | symbolExpected (symbol : Char)
deriving DecidableEq

def CursorFault.message : CursorFault → String
  | identifierExpected => "identifier expected"
  | numberExpected => "number expected"
  | numberOutOfRange numeral => "number `" ++ numeral ++ "` out of range"
  | symbolExpected symbol => "expected '" ++ String.singleton symbol ++ "'"

namespace Cursor

/-- The size of a text in bytes. -/
def byteSize (text : List Char) : Nat := text.foldr (fun c size => c.utf8Size + size) 0

/-- The start of a text. -/
def ofText (text : String) : Cursor := ⟨0, text.toList⟩

/-- A letter, a digit or an underscore, all of them ASCII. -/
def isWordChar (c : Char) : Bool := c == '_' || c.isAlphanum

/-- The next character. -/
def peek? (cursor : Cursor) : Option Char := cursor.rest.head?

/-- Nothing is unread. -/
def atEnd (cursor : Cursor) : Bool := cursor.rest.isEmpty

/-- Past all blanks that come next. -/
def skipBlanks (cursor : Cursor) : Cursor where
  offset := cursor.offset + byteSize (cursor.rest.takeWhile isBlank)
  rest := cursor.rest.dropWhile isBlank

/-- The longest word that comes next. -/
def identifier (cursor : Cursor) : Except CursorFault String × Cursor :=
  match cursor.rest.takeWhile isWordChar with
  | [] => (.error .identifierExpected, cursor)
  | word => (.ok (String.ofList word),
      ⟨cursor.offset + word.length, cursor.rest.dropWhile isWordChar⟩)

/-- The value of the longest numeral that comes next. -/
def number (cursor : Cursor) : Except CursorFault Binary64 × Cursor :=
  match Numeral.scan cursor.rest with
  | none => (.error .numberExpected, cursor)
  | some (numeral, rest) =>
    let value := numeral.value.toBinary64
    let outcome :=
      if value.isFinite then .ok value
      else .error (.numberOutOfRange (String.ofList numeral.text))
    (outcome, ⟨cursor.offset + numeral.text.length, rest⟩)

/-- Past a given character, if it comes next. -/
def consume (cursor : Cursor) (symbol : Char) : Bool × Cursor :=
  match cursor.rest with
  | c :: rest => if c = symbol then (true, ⟨cursor.offset + c.utf8Size, rest⟩) else (false, cursor)
  | [] => (false, cursor)

/-- Past a given character, which has to come next. -/
def expect (cursor : Cursor) (symbol : Char) : Except CursorFault Unit × Cursor :=
  match cursor.consume symbol with
  | (true, next) => (.ok (), next)
  | (false, next) => (.error (.symbolExpected symbol), next)

end Cursor

end Fairweather
