import Fairweather.Calendar.Reading
import Fairweather.Number.Layout
import Fairweather.Text.Visible

/-!
# Why a JSON text is refused

The faults of the text itself, and those of values that are not what is expected in their place.
-/

namespace Fairweather

namespace Json

/-- What stands where something else is expected. -/
inductive Found where
  | null
  | boolean (b : Bool)
  | integer (n : Int)
  | float (x : Binary64)
  | string (s : String)
  | sequence
  | map
deriving DecidableEq

/-- What was found, as messages name it. -/
def Found.text : Found → String
  | null => "null"
  | boolean b => "boolean `" ++ (if b then "true" else "false") ++ "`"
  | integer n => "integer `" ++ toString n ++ "`"
  | float x => "floating point `" ++ String.ofList x.jsonChars ++ "`"
  | string s => "string " ++ String.ofList (Text.quoted s.toList)
  | sequence => "sequence"
  | map => "map"

/-- Why a JSON text does not give the value that is looked for. -/
inductive Fault where
  | valueExpected
  | wordExpected
  | invalidNumber
  | numberOutOfRange
  | strayComma
  | trailingCharacters
  | listSeparatorExpected
  | objectSeparatorExpected
  | colonExpected
  | keyExpected
  | endInValue
  | endInList
  | endInObject
  | endInString
  | invalidEscape
  | surrogateUnpaired
  | surrogateLone
  | invalidUnicode
  | controlCharacter
  | wrongType (found : Found) (expected : String)
  | wrongLength (length : Nat) (type : String) (expected : Nat)
  | missingField (name : String)
  | duplicateField (name : String)
  | timestamp (fault : TimestampFault)
deriving DecidableEq

def Fault.message : Fault → String
  | valueExpected => "expected value"
  | wordExpected => "expected ident"
  | invalidNumber => "invalid number"
  | numberOutOfRange => "number out of range"
  | strayComma => "trailing comma"
  | trailingCharacters => "trailing characters"
  | listSeparatorExpected => "expected `,` or `]`"
  | objectSeparatorExpected => "expected `,` or `\x7d`"
  | colonExpected => "expected `:`"
  | keyExpected => "key must be a string"
  | endInValue => "EOF while parsing a value"
  | endInList => "EOF while parsing a list"
  | endInObject => "EOF while parsing an object"
  | endInString => "EOF while parsing a string"
  | invalidEscape => "invalid escape"
  | surrogateUnpaired => "unexpected end of hex escape"
  | surrogateLone => "lone leading surrogate in hex escape"
  | invalidUnicode => "invalid unicode code point"
  | controlCharacter => "control character (\\u0000-\\u001F) found while parsing a string"
  | wrongType found expected => "invalid type: " ++ found.text ++ ", expected " ++ expected
  | wrongLength length type expected =>
    "invalid length " ++ toString length ++ ", expected " ++ type ++ " with " ++
      toString expected ++ " elements"
  | missingField name => "missing field `" ++ name ++ "`"
  | duplicateField name => "duplicate field `" ++ name ++ "`"
  | timestamp fault => fault.message

end Json

end Fairweather
