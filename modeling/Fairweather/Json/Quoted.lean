import Fairweather.Json.Fault
import Fairweather.Text.Utf8

/-!
# Strings in a JSON text

The body of a string is a list of pieces: symbols that stand for themselves, escapes of one letter,
and escapes of a UTF-16 unit by four hexadecimal digits. `Quoted.scan` cuts the body into pieces up
to the closing quote, or up to the first place where no piece can be read.

The same body is held to two standards. A string that is skipped only has to be cut into pieces
(`skip`). A string that is read (`decode`) must also pair its surrogates and hold no damaged bytes;
an unpaired surrogate is noticed at the symbol behind it, before any other fault that begins there,
and damaged bytes at the closing quote.
-/

namespace Fairweather

namespace Json

/-- One step of a string's body. -/
inductive Piece where
  | symbol (s : Symbol)
  | letter (c : Char)
  | unit (code : Nat)
deriving DecidableEq

/-- Where the body of a string ends. -/
inductive QuoteEnd where
  | closed
  | endOfText
  | controlCharacter
  | unknownLetter
  | badDigits
deriving DecidableEq

/-- The body of a string. -/
structure Quoted where
  pieces : List Piece
  ending : QuoteEnd
deriving DecidableEq

namespace Quoted

/-- The value of a hexadecimal digit. -/
def hexValue? (c : Char) : Option Nat :=
  if c.isDigit then some (c.toNat - '0'.toNat)
  else if 'a' ≤ c ∧ c ≤ 'f' then some (c.toNat - 'a'.toNat + 10)
  else if 'A' ≤ c ∧ c ≤ 'F' then some (c.toNat - 'A'.toNat + 10)
  else none

/-- The UTF-16 unit of four hexadecimal digits. -/
def unit? (a b c d : Symbol) : Option Nat := do
  let a ← hexValue? (← a)
  let b ← hexValue? (← b)
  let c ← hexValue? (← c)
  let d ← hexValue? (← d)
  return ((a * 16 + b) * 16 + c) * 16 + d

/-- The character that an escape of one letter stands for. -/
def escaped? : Char → Option Char
  | '"' => some '"'
  | '\\' => some '\\'
  | '/' => some '/'
  | 'b' => some (Char.ofNat 8)
  | 'f' => some (Char.ofNat 12)
  | 'n' => some '\n'
  | 'r' => some '\r'
  | 't' => some '\t'
  | _ => none

/-- The size of symbols in bytes. -/
def byteSize (symbols : List Symbol) : Nat :=
  symbols.foldr (fun s size => (s.map Char.utf8Size).getD 1 + size) 0

/-- A body that ends at once. -/
def ended (ending : QuoteEnd) : Quoted × List Symbol := (⟨[], ending⟩, [])

/-- A piece in front of a body. -/
def cons (piece : Piece) (body : Quoted × List Symbol) : Quoted × List Symbol :=
  (⟨piece :: body.1.pieces, body.1.ending⟩, body.2)

/-- The body behind an opening quote, and the text behind the closing one. A hexadecimal escape
takes four bytes, so at fewer the text has ended. -/
def scan : List Symbol → Quoted × List Symbol
  | [] => ended .endOfText
  | some '"' :: rest => (⟨[], .closed⟩, rest)
  | [some '\\'] => ended .endOfText
  | some '\\' :: some 'u' :: a :: b :: c :: d :: rest =>
    match unit? a b c d with
    | some code => cons (.unit code) (scan rest)
    | none => ended .badDigits
  | some '\\' :: some 'u' :: rest =>
    if byteSize rest < 4 then ended .endOfText else ended .badDigits
  | some '\\' :: some c :: rest =>
    match escaped? c with
    | some c => cons (.letter c) (scan rest)
    | none => ended .unknownLetter
  | some '\\' :: none :: _ => ended .unknownLetter
  | some c :: rest =>
    if c.toNat < 0x20 then ended .controlCharacter else cons (.symbol (some c)) (scan rest)
  | none :: rest => cons (.symbol none) (scan rest)

/-- The fault of a body that is not closed. -/
def QuoteEnd.fault? : QuoteEnd → Option Fault
  | .closed => none
  | .endOfText => some .endInString
  | .controlCharacter => some .controlCharacter
  | .unknownLetter => some .invalidEscape
  | .badDigits => some .invalidEscape

/-- What is wrong with a first half of a pair that the body ends behind. -/
def QuoteEnd.unpaired : QuoteEnd → Fault
  | .endOfText => .endInString
  | .badDigits => .invalidEscape
  | .closed | .controlCharacter | .unknownLetter => .surrogateUnpaired

/-- The string is well formed as far as one that is skipped has to be. -/
def skip (body : Quoted) : Except Fault Unit :=
  match QuoteEnd.fault? body.ending with
  | none => .ok ()
  | some fault => .error fault

/-- The character of a pair of surrogates. -/
def paired (first second : Nat) : Char :=
  Char.ofNat ((first - 0xD800) * 1024 + (second - 0xDC00) + 0x10000)

/-- The symbols that pieces stand for. -/
def symbols (ending : QuoteEnd) : List Piece → Except Fault (List Symbol)
  | [] =>
    match QuoteEnd.fault? ending with
    | none => .ok []
    | some fault => .error fault
  | .symbol s :: rest => (symbols ending rest).map (s :: ·)
  | .letter c :: rest => (symbols ending rest).map (some c :: ·)
  | [.unit code] =>
    if 0xDC00 ≤ code ∧ code < 0xE000 then .error .surrogateLone
    else if 0xD800 ≤ code ∧ code < 0xDC00 then .error (QuoteEnd.unpaired ending)
    else (symbols ending []).map (some (Char.ofNat code) :: ·)
  | .unit code :: .unit second :: rest =>
    if 0xDC00 ≤ code ∧ code < 0xE000 then .error .surrogateLone
    else if 0xD800 ≤ code ∧ code < 0xDC00 then
      if 0xDC00 ≤ second ∧ second < 0xE000 then
        (symbols ending rest).map (some (paired code second) :: ·)
      else .error .surrogateLone
    else (symbols ending (.unit second :: rest)).map (some (Char.ofNat code) :: ·)
  | .unit code :: piece :: rest =>
    if 0xDC00 ≤ code ∧ code < 0xE000 then .error .surrogateLone
    else if 0xD800 ≤ code ∧ code < 0xDC00 then .error .surrogateUnpaired
    else (symbols ending (piece :: rest)).map (some (Char.ofNat code) :: ·)

/-- The text of a string that is read. -/
def decode (body : Quoted) : Except Fault String := do
  let symbols ← symbols body.ending body.pieces
  match symbols.mapM id with
  | some text => return String.ofList text
  | none => throw .invalidUnicode

end Quoted

end Json

end Fairweather
