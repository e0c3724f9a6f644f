import Fairweather.Expression.Cursor
import Fairweather.Expression.Token
import Fairweather.Forecast.Measure

/-!
# The grammar of expressions

An expression begins with a keyword, in any case. `location` is followed by an equals sign and two
numbers with a comma between them; the keyword of a measure is followed by `>` or `<` and a number.
Blanks may stand everywhere between these parts and around them, and nothing else.

`parse` gives the tokens in reading order: the keyword in lower case, then the operands. The equals
sign of a location gives no token.
-/

namespace Fairweather

/-- The operands that a keyword is followed by. -/
inductive Shape where
  | point
  | comparison
deriving DecidableEq

/-- Why a text is no expression. -/
inductive SyntaxFault where
  | keywordExpected
  | unknownKeyword (word : String)
  | comparisonExpected
  | cursor (fault : CursorFault)
  | trailingText (rest : String)
  | startsWith (token : Token)
deriving DecidableEq

def SyntaxFault.message : SyntaxFault → String
  | keywordExpected => "expected a predicate keyword"
  | unknownKeyword word => "unknown predicate `" ++ word ++ "`"
  | comparisonExpected => "expected '>' or '<'"
  | cursor fault => fault.message
  | trailingText rest => "unexpected trailing input `" ++ rest ++ "`"
  | startsWith token => "expression must start with a keyword, found `" ++ token.text ++ "`"

namespace Grammar

/-- The keyword of the condition on a forecast's place. -/
def location : String := "location"

/-- The keywords of the language, each with the shape of its operands. -/
def keywordTable : List (String × Shape) :=
  [(location, .point), ("wind", .comparison), ("wind_dir", .comparison),
    ("temperature_2m", .comparison), ("precipitation", .comparison),
    ("precipitation_prob", .comparison), ("cloud", .comparison)]

/-- The keywords of the language, in the order of the table. -/
def keywords : List String := keywordTable.map (·.1)

/-- A word in lower case; only ASCII letters have one. -/
def lowered (word : String) : String := String.ofList (word.toList.map Char.toLower)

/-- The keyword that a word is, in any case. -/
def lookup (word : String) : Option (String × Shape) :=
  keywordTable.find? (·.1 = lowered word)

/-- A reader moves a cursor on; where it fails, only the fault remains. -/
abbrev Reader := StateT Cursor (Except SyntaxFault)

namespace Reader

def skipBlanks : Reader Unit := modify Cursor.skipBlanks

/-- An operation of the cursor as a reader. -/
def ofCursor {α : Type} (operation : Cursor → Except CursorFault α × Cursor) : Reader α :=
  fun cursor =>
    match operation cursor with
    | (.ok a, next) => .ok (a, next)
    | (.error fault, _) => .error (.cursor fault)

/-- A keyword of the table. -/
def keyword : Reader (String × Shape) := fun cursor =>
  match cursor.identifier with
  | (.error _, _) => .error .keywordExpected
  | (.ok word, next) =>
    match lookup word with
    | none => .error (.unknownKeyword word)
    | some entry => .ok (entry, next)

/-- `>` or `<`. -/
def comparison : Reader Comparison := fun cursor =>
  match cursor.peek?.bind Comparison.ofSymbol? with
  | none | some .equal => .error .comparisonExpected
  | some c => ofCursor (·.expect c.symbol) cursor |>.map fun (_, next) => (c, next)

/-- The operands of a shape. -/
def operands : Shape → Reader (List Token)
  | .point => do
    ofCursor (·.expect '=')
    skipBlanks
    let latitude ← ofCursor Cursor.number
    skipBlanks
    ofCursor (·.expect ',')
    skipBlanks
    let longitude ← ofCursor Cursor.number
    return [.point latitude longitude]
  | .comparison => do
    let c ← comparison
    skipBlanks
    let bound ← ofCursor Cursor.number
    return [.comparison c, .number bound]

/-- Nothing is left to read. -/
def finish : Reader Unit := fun cursor =>
  if cursor.atEnd then .ok ((), cursor)
  else .error (.trailingText (String.ofList cursor.rest))

/-- A whole expression. -/
def expression : Reader (List Token) := do
  skipBlanks
  let (word, shape) ← keyword
  skipBlanks
  let operands ← operands shape
  skipBlanks
  finish
  return .keyword word :: operands

end Reader

/-- The tokens of an expression, the keyword first. -/
def parse (text : String) : Except SyntaxFault (List Token) :=
  (Reader.expression.run (Cursor.ofText text)).map (·.1)

end Grammar

end Fairweather
