import Fairweather.Proofs.Plan.CanonicalText
import Fairweather.Proofs.Results

/-!
# The grammar and the built-in keywords go in lockstep

Two tables have to agree for an expression to compile: the grammar's keywords with the shapes of
their operands, and the built-in vocabulary's entries with the operands that they take. This module
shows that they do for every text.

**Texts that are read.** The tokens of an expression are always those of a condition
(`Phrase.Means.exists_tokens`), and the entry of its keyword takes exactly these. So what is read
compiles.

**Texts that are refused.** The fault is the reader's own, and no part of the reader complains about
a token that was read (`Grammar.Reader.expression_faults`). So none of the faults that a vocabulary
has for a keyword and its operands ever comes out of a text.

Main result: `Vocabulary.compile_builtin_iff_parse`.
-/

namespace Fairweather

open Text Grammar

/-! ## The faults of the reader -/

namespace Grammar.Reader

/-- All faults of a reader are of a kind. -/
def Faults {α : Type} (reader : Reader α) (kind : SyntaxFault → Prop) : Prop :=
  ∀ cursor fault, reader cursor = .error fault → kind fault

/-- The fault is not about a token that was read. -/
def NotOfToken (fault : SyntaxFault) : Prop := ∀ token, fault ≠ .startsWith token

section

variable {α β : Type} {kind : SyntaxFault → Prop}

theorem Faults.pure (a : α) : Faults (Pure.pure a) kind := by
  intro cursor fault h
  cases h

theorem Faults.bind {reader : Reader α} {next : α → Reader β} (h : Faults reader kind)
    (hnext : ∀ a, Faults (next a) kind) : Faults (reader >>= next) kind := by
  intro cursor fault hfault
  rcases bind_eq_error.1 hfault with hfirst | ⟨⟨a, rest⟩, -, hrest⟩
  · exact h cursor fault hfirst
  · exact hnext a rest fault hrest

theorem skipBlanks_faults : Faults skipBlanks kind := by
  intro cursor fault h
  cases h

theorem ofCursor_faults (operation : Cursor → Except CursorFault α × Cursor) :
    Faults (ofCursor operation) NotOfToken := by
  intro cursor fault h
  unfold ofCursor at h
  split at h <;> cases h
  simp [NotOfToken]

theorem keyword_faults : Faults keyword NotOfToken := by
  intro cursor fault h
  unfold keyword at h
  split at h
  · cases h
    simp [NotOfToken]
  · split at h <;> cases h
    simp [NotOfToken]

theorem comparison_faults : Faults comparison NotOfToken := by
  intro cursor fault h
  unfold comparison at h
  split at h
  · cases h
    simp [NotOfToken]
  · cases h
    simp [NotOfToken]
  · next c _ _ =>
    cases hexpect : ofCursor (·.expect c.symbol) cursor with
    | ok p =>
      rw [hexpect] at h
      cases h
    | error reason =>
      rw [hexpect] at h
      cases h
      exact ofCursor_faults _ cursor fault hexpect

theorem operands_faults (shape : Shape) : Faults (operands shape) NotOfToken := by
  have hnumber := ofCursor_faults Cursor.number
  cases shape with
  | point =>
    exact (ofCursor_faults _).bind fun _ => skipBlanks_faults.bind fun _ => hnumber.bind fun _ =>
      skipBlanks_faults.bind fun _ => (ofCursor_faults _).bind fun _ =>
      skipBlanks_faults.bind fun _ => hnumber.bind fun _ => .pure _
  | comparison =>
    exact comparison_faults.bind fun _ => skipBlanks_faults.bind fun _ => hnumber.bind fun _ =>
      .pure _

theorem finish_faults : Faults finish NotOfToken := by
  intro cursor fault h
  unfold finish at h
  split at h <;> cases h
  simp [NotOfToken]

/-- **No fault of the reader is about a token that was read.** -/
theorem expression_faults : Faults expression NotOfToken :=
  skipBlanks_faults.bind fun _ => keyword_faults.bind fun (_, shape) =>
    skipBlanks_faults.bind fun _ => (operands_faults shape).bind fun _ =>
    skipBlanks_faults.bind fun _ => finish_faults.bind fun _ => .pure _

end

end Grammar.Reader

/-- A text that is refused is called unreadable for what it is, not for the tokens in it. -/
theorem Plan.parse_error_notOfToken {text : String} {fault : PlanFault}
    (h : Plan.parse text = .error fault) :
    ∃ reason, fault = .unreadableExpression text reason ∧ Reader.NotOfToken reason := by
  unfold Plan.parse Grammar.parse at h
  cases hread : Reader.expression.run (Cursor.ofText text) with
  | ok read =>
    rw [hread] at h
    cases h
  | error reason =>
    rw [hread] at h
    cases h
    exact ⟨reason, rfl, Reader.expression_faults _ _ hread⟩

/-! ## The tokens of an expression -/

/-- **The tokens of an expression are those of a condition.** -/
theorem Phrase.Means.exists_tokens {p : Phrase} {tokens : List Token} (h : p.Means tokens) :
    ∃ condition : Condition, tokens = condition.tokens := by
  cases h with
  | intro _ _ htakes _ hoperands _ =>
    cases hoperands with
    | @point _ _ _ _ _ x y =>
      cases htakes
      exact ⟨.location ⟨x, y⟩, rfl⟩
    | @comparison c _ _ x =>
      obtain ⟨m, rfl⟩ := exists_measure htakes
      exact ⟨.threshold m c x, rfl⟩

theorem Measure.ofKeyword?_keyword (m : Measure) : ofKeyword? m.keyword = some m := by
  cases m <;> rfl

namespace Vocabulary

theorem compile_of_parse_error (vocabulary : Vocabulary) {text : String} {fault : PlanFault}
    (h : Plan.parse text = .error fault) : vocabulary.compile text = .error fault := by
  rw [compile, h]

/-- **What is read compiles** to the condition of its tokens. -/
theorem exists_condition_of_parse {text : String} {tokens : List Token}
    (h : Plan.parse text = .ok tokens) :
    ∃ condition : Condition, builtin.compile text = .ok condition ∧ tokens = condition.tokens := by
  obtain ⟨p, htext, hmeans⟩ := Plan.parse_ok_iff.1 h
  obtain ⟨condition, rfl⟩ := hmeans.exists_tokens
  exact ⟨condition, compile_builtin_ok_iff.2 ⟨p, htext, hmeans⟩, rfl⟩

/-- **With the built-in keywords a text compiles just when it is read.** If it does not, the fault
is that of the reader, which names the whole text and is not about its tokens. If it does, the
condition is the point that was read, or the comparison and the number that were read for the
measure of the keyword that was read; and it is written with that keyword. -/
theorem compile_builtin_iff_parse (text : String) :
    ((∃ condition, builtin.compile text = .ok condition) ↔
      ∃ tokens, Plan.parse text = .ok tokens) ∧
    (∀ fault, builtin.compile text = .error fault ↔ Plan.parse text = .error fault) ∧
    (∀ fault, builtin.compile text = .error fault →
      ∃ reason, fault = .unreadableExpression text reason ∧
        ∀ token, reason ≠ .startsWith token) ∧
    ∀ tokens condition, Plan.parse text = .ok tokens → builtin.compile text = .ok condition →
      (∃ operands, tokens = .keyword condition.keyword :: operands) ∧
      ((∃ x y, tokens = [.keyword Grammar.location, .point x y] ∧ condition = .location ⟨x, y⟩) ∨
        ∃ keyword m c x, tokens = [.keyword keyword, .comparison c, .number x] ∧
          Measure.ofKeyword? keyword = some m ∧ condition = .threshold m c x) := by
  cases hparse : Plan.parse text with
  | error fault =>
    have hcompile := builtin.compile_of_parse_error hparse
    simp only [hcompile, reduceCtorEq, exists_false, true_and]
    refine ⟨by simp, ?_, by simp⟩
    rintro fault' ⟨⟩
    exact Plan.parse_error_notOfToken hparse
  | ok tokens =>
    obtain ⟨condition, hcompile, rfl⟩ := exists_condition_of_parse hparse
    simp only [hcompile, reduceCtorEq, Except.ok.injEq, exists_eq', true_and]
    refine ⟨by simp, by simp, ?_⟩
    rintro tokens condition' rfl rfl
    cases condition with
    | location point => exact ⟨⟨_, rfl⟩, .inl ⟨_, _, rfl, rfl⟩⟩
    | threshold m c x =>
      exact ⟨⟨_, rfl⟩, .inr ⟨_, m, c, x, rfl, m.ofKeyword?_keyword, rfl⟩⟩

end Vocabulary

end Fairweather
