/-!
# Bytes as text

A file holds bytes. Read as UTF-8 they are a list of symbols: a symbol is a character, or `none`
for a byte that is part of no character. No byte is lost, so a reader of symbols can still tell
where the text was damaged. The characters are the shortest encodings of scalar values; overlong
forms and surrogates are damage.
-/

namespace Fairweather

/-- A character, or a byte that is part of none. -/
abbrev Symbol := Option Char

namespace Utf8

/-- The six bits that a byte after the first of a character carries. -/
def continuation (byte : UInt8) : Option Nat :=
  if 0x80 ≤ byte.toNat ∧ byte.toNat < 0xC0 then some (byte.toNat - 0x80) else none

/-- The scalar value `code`, if it is one and needs as many bytes as were used for it. -/
def scalar (least code extra : Nat) : Option (Char × Nat) :=
  if least ≤ code ∧ code.isValidChar then some (Char.ofNat code, extra) else none

/-- The character that begins with a byte, and how many of the following bytes belong to it. -/
def leading (first : UInt8) (rest : List UInt8) : Option (Char × Nat) :=
  let n := first.toNat
  if n < 0x80 then some (Char.ofNat n, 0)
  else match rest.map continuation with
    | some a :: more =>
      if 0xC0 ≤ n ∧ n < 0xE0 then scalar 0x80 ((n - 0xC0) * 64 + a) 1
      else match more with
        | some b :: more =>
          if 0xE0 ≤ n ∧ n < 0xF0 then scalar 0x800 (((n - 0xE0) * 64 + a) * 64 + b) 2
          else match more with
            | some c :: _ =>
              if 0xF0 ≤ n ∧ n < 0xF8 then
                scalar 0x10000 ((((n - 0xF0) * 64 + a) * 64 + b) * 64 + c) 3
              else none
            | _ => none
        | _ => none
    | _ => none

/-- The symbols of the bytes behind the first `pending`, which belong to a character before. -/
def symbolsAfter : Nat → List UInt8 → List Symbol
  | _, [] => []
  | pending + 1, _ :: rest => symbolsAfter pending rest
  | 0, byte :: rest =>
    match leading byte (rest.take 3) with
    | some (c, extra) => some c :: symbolsAfter extra rest
    | none => none :: symbolsAfter 0 rest

/-- The symbols of a file's bytes. -/
def symbols (bytes : List UInt8) : List Symbol := symbolsAfter 0 bytes

/-- The text of a file's bytes, if every byte belongs to a character. -/
def decode? (bytes : List UInt8) : Option (List Char) := (symbols bytes).mapM id

end Utf8

end Fairweather
