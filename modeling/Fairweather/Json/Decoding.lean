import Fairweather.Json.Node

/-!
# Values of the expected kind

A reader takes a node and gives the value that is expected in its place, or the fault of the text
or of the value that comes first in the text. Structures are objects with their fields in any
order, of which unknown ones are skipped, or lists with their fields in the order in which they are
declared.
-/

namespace Fairweather

namespace Json

/-- What is wrong with a list that breaks off where its items are read. -/
def Break.listRead : Break → Fault
  | .endOfText => .endInList
  | .endAfterComma => .endInValue
  | .strayComma => .strayComma
  | .noSeparator => .listSeparatorExpected

/-- What is wrong with an object that breaks off where its members are read. -/
def Break.objectRead : Break → Fault
  | .endOfText => .endInObject
  | .endAfterComma => .endInValue
  | .strayComma => .strayComma
  | .noSeparator => .objectSeparatorExpected

namespace Node

/-- What stands in a place where something else is expected. Lists and objects are not looked
into. -/
def found : Node → Except Fault Found
  | .null => .ok .null
  | .boolean b => .ok (.boolean b)
  | .number n => n.found
  | .string body => body.decode.map .string
  | .list _ => .ok .sequence
  | .object _ => .ok .map
  | .absent fault => .error fault

/-- The fault of a node that is not of the expected kind. -/
def unexpected {α : Type} (expected : String) (node : Node) : Except Fault α :=
  match node.found with
  | .ok found => .error (.wrongType found expected)
  | .error fault => .error fault

/-- A number. -/
def toBinary64 : Node → Except Fault Binary64
  | .number n => n.toBinary64
  | node => node.unexpected "f64"

/-- A number, or `null` for one that is missing. -/
def toBinary64? : Node → Except Fault (Option Binary64)
  | .null => .ok none
  | node => node.toBinary64.map some

/-- A text. -/
def toText : Node → Except Fault String
  | .string body => body.decode
  | node => node.unexpected "a string"

/-- A timestamp as records have it. -/
def toTimestamp : Node → Except Fault Timestamp
  | .string body => do
    match Timestamp.ofRecord (← body.decode) with
    | .ok t => return t
    | .error fault => throw (.timestamp fault)
  | node => node.unexpected "a formatted date and time string"

end Node

namespace Items

/-- All items, each read in turn. -/
def readAll {α : Type} (read : Node → Except Fault α) : Items → Except Fault (List α)
  | .closed => .ok []
  | .broken how => .error how.listRead
  | .cons item rest => do
    let a ← read item
    let more ← readAll read rest
    return a :: more

/-- The next field of a structure of which `length` fields have been read, out of `fields`. -/
def next {α : Type} (type : String) (fields length : Nat) (read : Node → Except Fault α) :
    Items → Except Fault (α × Items)
  | .closed => .error (.wrongLength length type fields)
  | .broken how => .error how.listRead
  | .cons item rest => (read item).map fun a => (a, rest)

/-- Nothing follows the last field of a structure. -/
def finish : Items → Except Fault Unit
  | .closed => .ok ()
  | .broken .endOfText => .error .endInList
  | .broken .strayComma => .error .strayComma
  | .broken .endAfterComma | .broken .noSeparator | .cons _ _ => .error .trailingCharacters

end Items

namespace Members

/-- All members in order, each taken into what has been read so far. -/
def collect {σ : Type} (take : σ → String → Node → Except Fault σ) :
    σ → Members → Except Fault σ
  | soFar, .closed => .ok soFar
  | _, .broken how => .error how.objectRead
  | _, .unkeyed => .error .keyExpected
  | soFar, .cons key value rest => do
    let name ← key.decode
    let next ← take soFar name value
    collect take next rest

end Members

namespace Node

/-- A list of items of one kind. -/
def toList {α : Type} (read : Node → Except Fault α) : Node → Except Fault (List α)
  | .list items => items.readAll read
  | node => node.unexpected "a sequence"

/-- A structure, as an object or as a list of its fields. -/
def toStructure {α : Type} (type : String) (ofMembers : Members → Except Fault α)
    (ofItems : Items → Except Fault α) : Node → Except Fault α
  | .object members => ofMembers members
  | .list items => ofItems items
  | node => node.unexpected type

end Node

/-- A field that is given once at most. -/
def fill {α : Type} (name : String) (slot : Option α) (read : Node → Except Fault α)
    (value : Node) : Except Fault (Option α) :=
  match slot with
  | some _ => .error (.duplicateField name)
  | none => (read value).map some

/-- A field that has to be given. -/
def require {α : Type} (name : String) : Option α → Except Fault α
  | some a => .ok a
  | none => .error (.missingField name)

/-- The value of a whole text; behind it only blanks may follow. -/
def decode {α : Type} (read : Node → Except Fault α) (text : List Symbol) : Except Fault α := do
  let (node, rest) := Node.ofText text
  let a ← read node
  match Node.skipSpace rest with
  | [] => return a
  | _ :: _ => throw .trailingCharacters

end Json

end Fairweather
