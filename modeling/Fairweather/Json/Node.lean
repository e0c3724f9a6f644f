import Fairweather.Json.Number
import Fairweather.Json.Quoted

/-!
# What stands in a JSON text

`Node` is what stands in a text at the place of a value: a value, or the fault for which none can
be read there. A list or an object keeps its parts in the order of the text, up to its closing
bracket or to the place where it breaks off. So a node tells everything that can be said of the
text, sound or not, before anything is known of what the text should contain; whoever looks for
particular values meets the faults in the order of the text.

A reading that meets a fault stops there: behind it, the text counts as read to its end.
-/

namespace Fairweather

namespace Json

/-- How a list or an object breaks off. -/
inductive Break where
  | endOfText
  | endAfterComma
  | strayComma
  | noSeparator
deriving DecidableEq

mutual

/-- What stands at the place of a value. -/
inductive Node where
  | null
  | boolean (b : Bool)
  | number (n : Number)
  | string (body : Quoted)
  | list (items : Items)
  | object (members : Members)
  | absent (fault : Fault)

/-- The items of a list, in order. -/
inductive Items where
  | closed
  | broken (how : Break)
  | cons (item : Node) (rest : Items)

/-- The members of an object, in order. -/
inductive Members where
  | closed
  | broken (how : Break)
  | unkeyed
  | cons (key : Quoted) (value : Node) (rest : Members)

end

namespace Node

/-! ## Reading a text -/

/-- The blanks between the parts of a JSON text. -/
def isSpace (s : Symbol) : Bool :=
  s = some ' ' || s = some '\n' || s = some '\t' || s = some '\r'

/-- A text from its first symbol that is no blank. -/
def skipSpace (text : List Symbol) : List Symbol := text.dropWhile isSpace

/-- The rest of a word whose first letter has been read, and the node that the word stands for. -/
def readWord (node : Node) : List Char → List Symbol → Node × List Symbol
  | [], rest => (node, rest)
  | _ :: _, [] => (.absent .endInValue, [])
  | c :: word, s :: rest =>
    if s = some c then readWord node word rest else (.absent .wordExpected, [])

/-- The node of a value that must come behind a key. -/
def readColon (text : List Symbol) (read : List Symbol → Node × List Symbol) :
    Node × List Symbol :=
  match skipSpace text with
  | some ':' :: rest => read rest
  | [] => (.absent .endInObject, [])
  | _ :: _ => (.absent .colonExpected, [])

mutual

/-- The node that comes next. Each step takes a symbol or opens one bracket, so twice the length
of the text is depth enough. -/
def read : Nat → List Symbol → Node × List Symbol
  | 0, _ => (.absent .endInValue, [])
  | depth + 1, text =>
    match skipSpace text with
    | [] => (.absent .endInValue, [])
    | some 'n' :: rest => readWord .null ['u', 'l', 'l'] rest
    | some 't' :: rest => readWord (.boolean true) ['r', 'u', 'e'] rest
    | some 'f' :: rest => readWord (.boolean false) ['a', 'l', 's', 'e'] rest
    | some '"' :: rest =>
      let (body, rest) := Quoted.scan rest
      (.string body, rest)
    | some '[' :: rest =>
      let (items, rest) := readItems depth true rest
      (.list items, rest)
    | some '{' :: rest =>
      let (members, rest) := readMembers depth true rest
      (.object members, rest)
    | some c :: rest =>
      if c = '-' || c.isDigit then
        let (n, rest) := Number.scan (some c :: rest)
        (.number n, rest)
      else (.absent .valueExpected, [])
    | none :: _ => (.absent .valueExpected, [])

/-- The items up to the closing bracket; `first` as long as none has been read. -/
def readItems : Nat → Bool → List Symbol → Items × List Symbol
  | 0, _, _ => (.broken .endOfText, [])
  | depth + 1, first, text =>
    let item (text : List Symbol) : Items × List Symbol :=
      let (node, rest) := read depth text
      let (items, rest) := readItems depth false rest
      (.cons node items, rest)
    match skipSpace text with
    | [] => (.broken .endOfText, [])
    | some ']' :: rest => (.closed, rest)
    | s :: rest =>
      if first then item (s :: rest)
      else if s = some ',' then
        match skipSpace rest with
        | [] => (.broken .endAfterComma, [])
        | some ']' :: _ => (.broken .strayComma, [])
        | rest => item rest
      else (.broken .noSeparator, [])

/-- The members up to the closing brace; `first` as long as none has been read. -/
def readMembers : Nat → Bool → List Symbol → Members × List Symbol
  | 0, _, _ => (.broken .endOfText, [])
  | depth + 1, first, text =>
    let member (text : List Symbol) : Members × List Symbol :=
      match text with
      | some '"' :: rest =>
        let (key, rest) := Quoted.scan rest
        let (value, rest) := readColon rest (read depth)
        let (members, rest) := readMembers depth false rest
        (.cons key value members, rest)
      | _ => (.unkeyed, [])
    match skipSpace text with
    | [] => (.broken .endOfText, [])
    | some '}' :: rest => (.closed, rest)
    | s :: rest =>
      if first then member (s :: rest)
      else if s = some ',' then
        match skipSpace rest with
        | [] => (.broken .endAfterComma, [])
        | some '}' :: _ => (.broken .strayComma, [])
        | rest => member rest
      else (.broken .noSeparator, [])

end

/-- The node of a text, and what follows it. -/
def ofText (text : List Symbol) : Node × List Symbol := read (2 * text.length + 2) text

end Node

/-! ## Skipping -/

/-- What is wrong with a list that breaks off where its items are skipped. -/
def Break.listSkipped : Break → Fault
  | .endOfText => .endInList
  | .endAfterComma => .endInValue
  | .strayComma => .valueExpected
  | .noSeparator => .listSeparatorExpected

/-- What is wrong with an object that breaks off where its members are skipped. -/
def Break.objectSkipped : Break → Fault
  | .endOfText => .endInObject
  | .endAfterComma => .endInObject
  | .strayComma => .keyExpected
  | .noSeparator => .objectSeparatorExpected

mutual

/-- A value that is skipped only has to be well formed. -/
def Node.skip : Node → Except Fault Unit
  | .null => .ok ()
  | .boolean _ => .ok ()
  | .number n => n.skip
  | .string body => body.skip
  | .list items => items.skip
  | .object members => members.skip
  | .absent fault => .error fault

/-- Every item of a list that is skipped has to be well formed. -/
def Items.skip : Items → Except Fault Unit
  | .closed => .ok ()
  | .broken how => .error how.listSkipped
  | .cons item rest =>
    match item.skip with
    | .error fault => .error fault
    | .ok () => rest.skip

/-- Every member of an object that is skipped has to be well formed. -/
def Members.skip : Members → Except Fault Unit
  | .closed => .ok ()
  | .broken how => .error how.objectSkipped
  | .unkeyed => .error .keyExpected
  | .cons key value rest =>
    match key.skip with
    | .error fault => .error fault
    | .ok () =>
      match value.skip with
      | .error fault => .error fault
      | .ok () => rest.skip

end

end Json

end Fairweather
