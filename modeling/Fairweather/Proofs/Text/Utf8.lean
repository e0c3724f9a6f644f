import Fairweather.Text.Utf8

/-!
# Bytes that are text

A file's bytes are text when they are the encoding of some characters, one after the other. This
module shows that `Utf8.decode?` finds these characters, and nothing else: it fails on exactly the
bytes that are the encoding of no text.

**One character.** Its encoding is a first byte, which tells how many follow, and bytes that carry
six bits each. `Utf8.leading` reads it back (`leading_append`), and what it reads is the encoding of
what it finds (`of_leading`).

**All bytes** (`decode?_eq_some_iff`), by induction on the characters.
-/

namespace Fairweather

namespace Utf8

/-- The bytes of a text. -/
def encode (text : List Char) : List UInt8 := text.flatMap String.utf8EncodeChar

/-! ## One character -/

theorem toNat_ofNat {code : Nat} (h : code.isValidChar) : (Char.ofNat code).toNat = code := by
  rw [Char.ofNat, dif_pos h]
  rfl

theorem scalar_eq_some_iff {least code extra n : Nat} {c : Char} :
    scalar least code extra = some (c, n) ↔ least ≤ code ∧ c.toNat = code ∧ extra = n := by
  unfold scalar
  constructor
  · intro h
    split at h
    case isTrue hcode =>
      obtain ⟨rfl, rfl⟩ := Prod.mk.inj (Option.some.inj h)
      exact ⟨hcode.1, toNat_ofNat hcode.2, rfl⟩
    case isFalse => cases h
  · rintro ⟨hleast, rfl, rfl⟩
    rw [if_pos ⟨hleast, c.valid⟩, Char.ofNat_toNat]

theorem continuation_eq_some_iff {byte : UInt8} {bits : Nat} :
    continuation byte = some bits ↔ bits < 64 ∧ byte = UInt8.ofNat (bits + 0x80) := by
  have hlt := byte.toNat_lt
  rw [← UInt8.toNat_inj, UInt8.toNat_ofNat']
  unfold continuation
  split <;> simp only [Option.some.injEq, reduceCtorEq, false_iff] <;> omega

theorem continuation_ofNat {bits : Nat} (h : bits < 64) :
    continuation (UInt8.ofNat (bits + 0x80)) = some bits :=
  continuation_eq_some_iff.mpr ⟨h, rfl⟩

/-- The four forms of an encoding: the bits of the scalar value are divided among the bytes, six to
each but the first. A form is used from the least value on that does not fit the one before. -/
inductive Form (c : Char) : UInt8 → List UInt8 → Prop where
  | one : c.toNat < 0x80 → Form c (.ofNat c.toNat) []
  | two {head a : Nat} : head < 0x20 → a < 64 → 0x80 ≤ c.toNat → c.toNat = head * 64 + a →
      Form c (.ofNat (head + 0xC0)) [.ofNat (a + 0x80)]
  | three {head a b : Nat} : head < 0x10 → a < 64 → b < 64 → 0x800 ≤ c.toNat →
      c.toNat = (head * 64 + a) * 64 + b →
      Form c (.ofNat (head + 0xE0)) [.ofNat (a + 0x80), .ofNat (b + 0x80)]
  | four {head a b d : Nat} : head < 8 → a < 64 → b < 64 → d < 64 → 0x10000 ≤ c.toNat →
      c.toNat = ((head * 64 + a) * 64 + b) * 64 + d →
      Form c (.ofNat (head + 0xF0)) [.ofNat (a + 0x80), .ofNat (b + 0x80), .ofNat (d + 0x80)]

variable {c : Char} {first : UInt8} {rest tail : List UInt8} {n : Nat}

theorem exists_form (c : Char) : ∃ first tail, Form c first tail := by
  have hbound : c.toNat < 0x110000 := by
    have hvalid : c.toNat.isValidChar := c.valid
    unfold Nat.isValidChar at hvalid
    omega
  by_cases hone : c.toNat < 0x80
  · exact ⟨_, _, .one hone⟩
  by_cases htwo : c.toNat < 0x800
  · have hcode : c.toNat = c.toNat / 64 * 64 + c.toNat % 64 := by omega
    exact ⟨_, _, .two (by omega) (by omega) (by omega) hcode⟩
  by_cases hthree : c.toNat < 0x10000
  · have hcode : c.toNat = (c.toNat / 4096 * 64 + c.toNat / 64 % 64) * 64 + c.toNat % 64 := by
      omega
    exact ⟨_, _, .three (by omega) (by omega) (by omega) (by omega) hcode⟩
  · have hcode : c.toNat = ((c.toNat / 262144 * 64 + c.toNat / 4096 % 64) * 64 +
        c.toNat / 64 % 64) * 64 + c.toNat % 64 := by
      omega
    exact ⟨_, _, .four (by omega) (by omega) (by omega) (by omega) (by omega) hcode⟩

theorem Form.encoding (h : Form c first tail) : String.utf8EncodeChar c = first :: tail := by
  have hvalue : c.val.toNat = c.toNat := rfl
  unfold String.utf8EncodeChar
  simp only [hvalue]
  cases h with
  | one hsmall => rw [if_pos (by omega)]
  | @two head a hhead ha hleast hcode =>
    have h₀ : c.toNat / 64 % 32 = head := by omega
    have h₁ : c.toNat % 64 = a := by omega
    rw [if_neg (by omega), if_pos (by omega), h₀, h₁]
  | @three head a b hhead ha hb hleast hcode =>
    have h₀ : c.toNat / 4096 % 16 = head := by omega
    have h₁ : c.toNat / 64 % 64 = a := by omega
    have h₂ : c.toNat % 64 = b := by omega
    rw [if_neg (by omega), if_neg (by omega), if_pos (by omega), h₀, h₁, h₂]
  | @four head a b d hhead ha hb hd hleast hcode =>
    have h₀ : c.toNat / 262144 % 8 = head := by omega
    have h₁ : c.toNat / 4096 % 64 = a := by omega
    have h₂ : c.toNat / 64 % 64 = b := by omega
    have h₃ : c.toNat % 64 = d := by omega
    rw [if_neg (by omega), if_neg (by omega), if_neg (by omega), h₀, h₁, h₂, h₃]

theorem Form.length_le (h : Form c first tail) : tail.length ≤ 3 := by
  cases h <;> simp

theorem Form.leading (h : Form c first tail) (rest : List UInt8) :
    Utf8.leading first (tail ++ rest) = some (c, tail.length) := by
  unfold Utf8.leading
  cases h with
  | one hsmall =>
    have hfirst : (UInt8.ofNat c.toNat).toNat = c.toNat := by
      rw [UInt8.toNat_ofNat']
      omega
    simp only [hfirst]
    rw [if_pos hsmall, Char.ofNat_toNat]
    rfl
  | @two head a hhead ha hleast hcode =>
    have hfirst : (UInt8.ofNat (head + 0xC0)).toNat = head + 0xC0 := by
      rw [UInt8.toNat_ofNat']
      omega
    simp only [hfirst, List.cons_append, List.map_cons, continuation_ofNat ha]
    rw [if_neg (by omega), if_pos (by omega)]
    exact scalar_eq_some_iff.mpr ⟨by omega, by omega, rfl⟩
  | @three head a b hhead ha hb hleast hcode =>
    have hfirst : (UInt8.ofNat (head + 0xE0)).toNat = head + 0xE0 := by
      rw [UInt8.toNat_ofNat']
      omega
    simp only [hfirst, List.cons_append, List.map_cons, continuation_ofNat ha,
      continuation_ofNat hb]
    rw [if_neg (by omega), if_neg (by omega), if_pos (by omega)]
    exact scalar_eq_some_iff.mpr ⟨by omega, by omega, rfl⟩
  | @four head a b d hhead ha hb hd hleast hcode =>
    have hfirst : (UInt8.ofNat (head + 0xF0)).toNat = head + 0xF0 := by
      rw [UInt8.toNat_ofNat']
      omega
    simp only [hfirst, List.cons_append, List.map_cons, continuation_ofNat ha,
      continuation_ofNat hb, continuation_ofNat hd]
    rw [if_neg (by omega), if_neg (by omega), if_neg (by omega), if_pos (by omega)]
    exact scalar_eq_some_iff.mpr ⟨by omega, by omega, rfl⟩

theorem map_continuation_eq_cons {more : List (Option Nat)} {bits : Nat}
    (h : rest.map continuation = some bits :: more) :
    bits < 64 ∧ ∃ rest', rest = UInt8.ofNat (bits + 0x80) :: rest' ∧
      rest'.map continuation = more := by
  obtain ⟨byte, rest', rfl, hbyte, hmore⟩ := List.map_eq_cons_iff.mp h
  obtain ⟨hbits, rfl⟩ := continuation_eq_some_iff.mp hbyte
  exact ⟨hbits, rest', rfl, hmore⟩

theorem form_of_leading (h : leading first rest = some (c, n)) :
    ∃ tail more, rest = tail ++ more ∧ tail.length = n ∧ Form c first tail := by
  unfold leading at h
  dsimp only at h
  split at h
  case isTrue hsmall =>
    obtain ⟨rfl, rfl⟩ := Prod.mk.inj (Option.some.inj h)
    have hcode : (Char.ofNat first.toNat).toNat = first.toNat :=
      toNat_ofNat (.inl (by omega))
    have hform : Form (.ofNat first.toNat) (.ofNat (Char.ofNat first.toNat).toNat) [] :=
      .one (by omega)
    rw [hcode, UInt8.ofNat_toNat] at hform
    exact ⟨[], rest, rfl, rfl, hform⟩
  case isFalse hlarge =>
    have hhead : ∀ base head, first.toNat = head + base → first = .ofNat (head + base) := by
      intro base head heq
      rw [← heq, UInt8.ofNat_toNat]
    split at h
    case h_2 => cases h
    case h_1 a more hmap =>
      obtain ⟨ha, rest, rfl, hrest⟩ := map_continuation_eq_cons hmap
      clear hmap
      split at h
      case isTrue hrange =>
        obtain ⟨hleast, hcode, rfl⟩ := scalar_eq_some_iff.mp h
        refine ⟨[_], rest, rfl, rfl, ?_⟩
        rw [hhead 0xC0 (first.toNat - 0xC0) (by omega)]
        exact .two (by omega) ha (by omega) hcode
      case isFalse =>
        split at h
        case h_2 => cases h
        case h_1 b more =>
          obtain ⟨hb, rest, rfl, hmore⟩ := map_continuation_eq_cons hrest
          clear hrest
          split at h
          case isTrue hrange =>
            obtain ⟨hleast, hcode, rfl⟩ := scalar_eq_some_iff.mp h
            refine ⟨[_, _], rest, rfl, rfl, ?_⟩
            rw [hhead 0xE0 (first.toNat - 0xE0) (by omega)]
            exact .three (by omega) ha hb (by omega) hcode
          case isFalse =>
            split at h
            case h_2 => cases h
            case h_1 d more =>
              obtain ⟨hd, rest, rfl, -⟩ := map_continuation_eq_cons hmore
              split at h
              case isFalse => cases h
              case isTrue hrange =>
                obtain ⟨hleast, hcode, rfl⟩ := scalar_eq_some_iff.mp h
                refine ⟨[_, _, _], rest, rfl, rfl, ?_⟩
                rw [hhead 0xF0 (first.toNat - 0xF0) (by omega)]
                exact .four (by omega) ha hb hd (by omega) hcode

/-! ## All bytes -/

theorem symbolsAfter_eq (n : Nat) (bytes : List UInt8) :
    symbolsAfter n bytes = symbolsAfter 0 (bytes.drop n) := by
  induction bytes generalizing n with
  | nil => cases n <;> simp [symbolsAfter]
  | cons byte rest ih =>
    cases n with
    | zero => rfl
    | succ n => rw [symbolsAfter, ih, List.drop_succ_cons]

theorem symbols_encoding_append (c : Char) (rest : List UInt8) :
    symbols (String.utf8EncodeChar c ++ rest) = some c :: symbols rest := by
  obtain ⟨first, tail, hform⟩ := exists_form c
  have htake : (tail ++ rest).take 3 = tail ++ rest.take (3 - tail.length) := by
    rw [List.take_append, List.take_of_length_le hform.length_le]
  rw [hform.encoding, List.cons_append, symbols, symbolsAfter, htake, hform.leading]
  simp only
  rw [symbolsAfter_eq, List.drop_left, symbols]

theorem eq_encoding_append {bytes : List UInt8} {more : List Symbol}
    (h : symbols bytes = some c :: more) :
    ∃ rest, bytes = String.utf8EncodeChar c ++ rest ∧ symbols rest = more := by
  cases bytes with
  | nil => cases h
  | cons byte bytes =>
    rw [symbols, symbolsAfter] at h
    split at h
    case h_2 => cases h
    case h_1 c' extra hleading =>
      obtain ⟨heq, hmore⟩ := List.cons.inj h
      obtain rfl := Option.some.inj heq
      obtain ⟨tail, rest, htake, hlength, hform⟩ := form_of_leading hleading
      have hbytes : bytes = tail ++ (rest ++ bytes.drop 3) := by
        rw [← List.append_assoc, ← htake, List.take_append_drop]
      refine ⟨rest ++ bytes.drop 3, ?_, ?_⟩
      · rw [hform.encoding, List.cons_append, ← hbytes]
      · rw [← hmore, symbolsAfter_eq, hbytes, ← hlength, List.drop_left, ← hbytes, symbols]

theorem symbols_eq_map_some_iff {bytes : List UInt8} {text : List Char} :
    symbols bytes = text.map some ↔ bytes = encode text := by
  induction text generalizing bytes with
  | nil =>
    cases bytes with
    | nil => simp [symbols, symbolsAfter, encode]
    | cons byte bytes =>
      rw [symbols, symbolsAfter]
      split <;> simp [encode]
  | cons c text ih =>
    rw [List.map_cons, encode, List.flatMap_cons]
    constructor
    · intro h
      obtain ⟨rest, rfl, hrest⟩ := eq_encoding_append h
      rw [ih.mp hrest, encode]
    · rintro rfl
      rw [symbols_encoding_append]
      exact congrArg (some c :: ·) (ih.mpr rfl)

theorem mapM_id_eq_some_iff {symbols : List Symbol} {text : List Char} :
    symbols.mapM id = some text ↔ symbols = text.map some := by
  induction symbols generalizing text with
  | nil => cases text <;> simp
  | cons symbol symbols ih =>
    rw [List.mapM_cons, Option.bind_eq_bind, Option.bind_eq_some_iff]
    simp only [Option.bind_eq_bind, Option.bind_eq_some_iff, ih]
    cases text <;> simp

/-- **The bytes that are text** are the encodings of texts, and each is read as that text. -/
theorem decode?_eq_some_iff {bytes : List UInt8} {text : List Char} :
    decode? bytes = some text ↔ bytes = encode text := by
  rw [decode?, mapM_id_eq_some_iff, symbols_eq_map_some_iff]

/-- Two bytes where one would do are damage. -/
example : decode? [0xC3, 0xA9] = some ['é'] ∧ decode? [0xC0, 0x80] = none := by decide

end Utf8

end Fairweather
