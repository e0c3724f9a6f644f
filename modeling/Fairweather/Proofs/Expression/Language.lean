import Mathlib
import Fairweather.Plan.Vocabulary
import Fairweather.Proofs.Number.Literals
import Fairweather.Proofs.Number.Rounding
import Fairweather.Proofs.Text.Digits

/-!
# The language of expressions

Which texts are expressions, said without the reader: a text is put together from blanks, a word
that spells a keyword, and operands (`Phrase`), and the parts mean tokens (`Phrase.Means`).
-/

namespace Fairweather

open Text

/-! ## Phrases -/

/-- A text is a numeral, and the correctly rounded value of what it denotes is a finite number. -/
def Writes (text : List Char) (x : Binary64) : Prop :=
  ∃ d, Numeral.IsNumeral text d ∧ d.RoundsTo x ∧ x.isFinite

/-- Operands as they stand in a text: the blanks and the numerals between the signs. -/
inductive OperandParts where
  | point (afterSign latitude beforeComma afterComma longitude : List Char)
  | comparison (c : Comparison) (afterSign bound : List Char)

/-- The parts of an expression as they stand in a text. -/
structure Phrase where
  before : List Char
  word : List Char
  gap : List Char
  operands : OperandParts
  after : List Char

namespace OperandParts

/-- The text that the parts make. -/
def text : OperandParts → List Char
  | point afterSign latitude beforeComma afterComma longitude =>
    '=' :: (afterSign ++ (latitude ++ (beforeComma ++ ',' :: (afterComma ++ longitude))))
  | comparison c afterSign bound => c.symbol :: (afterSign ++ bound)

/-- The parts are operands of a shape and mean tokens. -/
inductive Means : OperandParts → Shape → List Token → Prop
  | point {afterSign latitude beforeComma afterComma longitude : List Char} {x y : Binary64} :
      Run isBlank afterSign → Writes latitude x → Run isBlank beforeComma →
      Run isBlank afterComma → Writes longitude y →
      Means (.point afterSign latitude beforeComma afterComma longitude) .point [.point x y]
  | comparison {c : Comparison} {afterSign bound : List Char} {x : Binary64} :
      c = .greater ∨ c = .less → Run isBlank afterSign → Writes bound x →
      Means (.comparison c afterSign bound) .comparison [.comparison c, .number x]

end OperandParts

/-- A word is a keyword but for the case of its letters. -/
def Spells (word : List Char) (keyword : String) : Prop :=
  word.map Char.toLower = keyword.toList

/-- The keywords, each with the shape of the operands that it takes. -/
inductive Takes : String → Shape → Prop
  | location : Takes "location" .point
  | measure {keyword : String} :
      keyword ∈ ["wind", "wind_dir", "temperature_2m", "precipitation", "precipitation_prob",
        "cloud"] → Takes keyword .comparison

namespace Phrase

/-- The text that the parts make. -/
def text (p : Phrase) : List Char := p.before ++ (p.word ++ (p.gap ++ (p.operands.text ++ p.after)))

/-- **The language.** The parts are an expression and mean its tokens. -/
inductive Means : Phrase → List Token → Prop
  | intro {before word gap after : List Char} {operands : OperandParts} {keyword : String}
      {shape : Shape} {tokens : List Token} :
      Run isBlank before → Spells word keyword → Takes keyword shape → Run isBlank gap →
      operands.Means shape tokens → Run isBlank after →
      Means ⟨before, word, gap, operands, after⟩ (.keyword keyword :: tokens)

end Phrase

/-! ## Characters -/

theorem visible_of_isWordChar {c : Char} (h : Cursor.isWordChar c) :
    32 < c.toNat ∧ c.toNat < 127 := by
  simp only [Cursor.isWordChar, Char.isAlphanum, Char.isAlpha, Char.isUpper, Char.isLower,
    Bool.or_eq_true, Bool.and_eq_true, decide_eq_true_eq, beq_iff_eq, ge_iff_le,
    UInt32.le_iff_toNat_le] at h
  rcases h with rfl | (⟨h₁, h₂⟩ | ⟨h₁, h₂⟩) | h
  · decide
  · exact ⟨Nat.lt_of_lt_of_le (by decide) h₁, Nat.lt_of_le_of_lt h₂ (by decide)⟩
  · exact ⟨Nat.lt_of_lt_of_le (by decide) h₁, Nat.lt_of_le_of_lt h₂ (by decide)⟩
  · exact visible_of_isDigit h

theorem visible_of_continues {c : Char} (h : Numeral.continues c) :
    32 < c.toNat ∧ c.toNat < 127 := by
  simp only [Numeral.continues, Bool.or_eq_true, decide_eq_true_eq] at h
  rcases h with ((h | rfl) | rfl) | rfl
  · exact visible_of_isDigit h
  all_goals decide

theorem not_blank_of_isWordChar (c : Char) (h : Cursor.isWordChar c) : isBlank c = false :=
  not_blank_of_visible (visible_of_isWordChar h).1 (visible_of_isWordChar h).2

theorem not_isWordChar_of_blank (c : Char) (h : isBlank c) : Cursor.isWordChar c = false := by
  by_contra hword
  rw [not_blank_of_isWordChar c (by simpa using hword)] at h
  cases h

theorem not_continues_of_blank (c : Char) (h : isBlank c) : Numeral.continues c = false := by
  by_contra hcontinues
  have := visible_of_continues (c := c) (by simpa using hcontinues)
  rw [not_blank_of_visible this.1 this.2] at h
  cases h

theorem isWordChar_of_toLower {c : Char} (h : Cursor.isWordChar c.toLower) :
    Cursor.isWordChar c := by
  by_cases hupper : c.isUpper
  · simp [Cursor.isWordChar, Char.isAlphanum, Char.isAlpha, hupper]
  · simp only [Char.isUpper, decide_eq_true_eq] at hupper
    rw [Char.toLower, dif_neg hupper] at h
    exact h

/-! ## Where the parts end -/

theorem Comparison.symbol_injective {b c : Comparison} (h : b.symbol = c.symbol) : b = c := by
  have hsymbols : ∀ b c : Comparison, b.symbol = c.symbol → b = c := by
    intro b c
    cases b <;> cases c <;> decide
  exact hsymbols b c h

theorem not_blank_symbol (c : Comparison) : isBlank c.symbol = false := by
  cases c <;> decide

theorem not_isWordChar_symbol (c : Comparison) : Cursor.isWordChar c.symbol = false := by
  cases c <;> decide

theorem OperandParts.stops (operands : OperandParts) (rest : List Char) :
    Stops isBlank (operands.text ++ rest) ∧ Stops Cursor.isWordChar (operands.text ++ rest) := by
  cases operands with
  | point _ _ _ _ _ => exact ⟨stops_cons.2 (by decide), stops_cons.2 (by decide)⟩
  | comparison c _ _ =>
    exact ⟨stops_cons.2 (not_blank_symbol c), stops_cons.2 (not_isWordChar_symbol c)⟩

theorem Numeral.IsNumeral.stops {text rest : List Char} {d : Decimal}
    (h : Numeral.IsNumeral text d) : Stops isBlank (text ++ rest) := by
  obtain ⟨hsign, hmantissa, hexponent⟩ := h
  cases hsign with
  | plus => exact stops_cons.2 (by decide)
  | minus => exact stops_cons.2 (by decide)
  | absent =>
    rw [List.nil_append, List.append_assoc]
    exact hmantissa.stops not_blank_of_isDigit (by decide)

theorem Writes.stops {text rest : List Char} {x : Binary64} (h : Writes text x) :
    Stops isBlank (text ++ rest) := by
  obtain ⟨d, hd, -⟩ := h
  exact hd.stops

theorem stops_continues {blanks rest : List Char} (h : Run isBlank blanks)
    (hrest : Stops Numeral.continues rest) : Stops Numeral.continues (blanks ++ rest) :=
  stops_run_append h not_continues_of_blank hrest

theorem stops_of_blanks {blanks : List Char} (h : Run isBlank blanks) :
    Stops Numeral.continues blanks := by
  have hstops := stops_continues h stops_nil
  rwa [List.append_nil] at hstops

theorem stops_comma {rest : List Char} :
    Stops isBlank (',' :: rest) ∧ Stops Numeral.continues (',' :: rest) :=
  ⟨stops_cons.2 (by decide), stops_cons.2 (by decide)⟩

/-! ## Keywords -/

theorem mem_keywordTable {keyword : String} {shape : Shape} :
    (keyword, shape) ∈ Grammar.keywordTable ↔ Takes keyword shape := by
  constructor
  · intro h
    rw [Grammar.keywordTable, List.mem_cons, Prod.mk.injEq] at h
    rcases h with ⟨rfl, rfl⟩ | h
    · exact .location
    · have hrest : ∀ entry ∈ Grammar.keywordTable.tail, entry.2 = .comparison ∧
          entry.1 ∈ ["wind", "wind_dir", "temperature_2m", "precipitation", "precipitation_prob",
            "cloud"] := by decide
      obtain ⟨hshape, hkeyword⟩ := hrest _ h
      dsimp only at hshape
      subst hshape
      exact .measure hkeyword
  · intro h
    cases h with
    | location => decide
    | measure h =>
      have hall : ∀ keyword ∈ ["wind", "wind_dir", "temperature_2m", "precipitation",
          "precipitation_prob", "cloud"], (keyword, Shape.comparison) ∈ Grammar.keywordTable := by
        decide
      exact hall keyword h

variable {word : List Char} {keyword : String} {shape : Shape}

theorem Takes.run (h : Takes keyword shape) : Run Cursor.isWordChar keyword.toList := by
  have htable : ∀ entry ∈ Grammar.keywordTable, entry.1.toList.all Cursor.isWordChar := by decide
  exact List.all_eq_true.1 (htable _ (mem_keywordTable.2 h))

theorem Takes.ne_nil (h : Takes keyword shape) : keyword.toList ≠ [] := by
  have htable : ∀ entry ∈ Grammar.keywordTable, entry.1.toList ≠ [] := by decide
  exact htable _ (mem_keywordTable.2 h)

theorem Takes.unique {shape' : Shape} (h : Takes keyword shape) (h' : Takes keyword shape') :
    shape = shape' := by
  have htable : ∀ entry ∈ Grammar.keywordTable, ∀ entry' ∈ Grammar.keywordTable,
      entry.1 = entry'.1 → entry.2 = entry'.2 := by decide
  exact htable _ (mem_keywordTable.2 h) _ (mem_keywordTable.2 h') rfl

theorem Spells.run (h : Spells word keyword) (htakes : Takes keyword shape) :
    Run Cursor.isWordChar word := by
  intro c hc
  have hlower : c.toLower ∈ keyword.toList := by
    rw [← h]
    exact List.mem_map_of_mem hc
  exact isWordChar_of_toLower (htakes.run _ hlower)

theorem Spells.ne_nil (h : Spells word keyword) (htakes : Takes keyword shape) : word ≠ [] := by
  intro heq
  subst heq
  exact htakes.ne_nil h.symm

theorem Spells.stops {rest : List Char} (h : Spells word keyword) (htakes : Takes keyword shape) :
    Stops isBlank (word ++ rest) := by
  cases word with
  | nil => exact absurd rfl (h.ne_nil htakes)
  | cons c word =>
    exact stops_cons.2 (not_blank_of_isWordChar c (run_cons.1 (h.run htakes)).1)

theorem Spells.unique {keyword' : String} (h : Spells word keyword) (h' : Spells word keyword') :
    keyword = keyword' := String.toList_injective (h.symm.trans h')

end Fairweather
