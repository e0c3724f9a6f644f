import Fairweather.Proofs.Expression.Cursor
import Fairweather.Proofs.Text.Lines

/-!
# Blanks around an expression

Blanks in front of an expression and behind it do not count, neither for what it means nor for what
is wrong with it.

**Two readers in lockstep.** Let one reader read a text, and another the same text with blanks
behind it. Neither words nor numerals go on into the blanks (`Numeral.scan_append_blanks`). So the
two take every step together: both take the same characters and have what is unread in common but
for the blanks (`Cursor.Padded`), or both fail (`Grammar.Reader.Agrees`). In the end both skip what
blanks are left.

**The same faults.** No fault tells where a text ends, and only one holds a part of it: text that is
left over, which may have the blanks at its end (`SyntaxFault.Agrees`).

Main result: `Grammar.parse_trim`.
-/

namespace Fairweather

open Text

/-! ## What does not go on into blanks -/

section

variable {text blanks numeral : List Char}

theorem prefix_of_prefix_append_blanks (hnumeral : Run isGraphic numeral)
    (hblanks : Run isBlank blanks) (h : numeral <+: text ++ blanks) : numeral <+: text := by
  rcases List.prefix_or_prefix_of_prefix h (List.prefix_append text blanks) with hle | hle
  · exact hle
  · obtain ⟨more, rfl⟩ := hle
    cases more with
    | nil => simp
    | cons c more =>
      have hblank : isBlank c :=
        hblanks c (((List.prefix_append_right_inj text).1 h).mem List.mem_cons_self)
      have hgraphic := isGraphic_iff.1 (hnumeral c (by simp))
      rw [not_blank_of_visible hgraphic.1 hgraphic.2] at hblank
      cases hblank

namespace Numeral

/-- **No numeral goes on into blanks.** -/
theorem scan_append_blanks (hblanks : Run isBlank blanks) :
    scan (text ++ blanks) = (scan text).map fun (taken, rest) => (taken, rest ++ blanks) := by
  have hfront : ∀ numeral d, IsNumeral numeral d → numeral <+: text ++ blanks → numeral <+: text :=
    fun numeral d hnumeral => prefix_of_prefix_append_blanks hnumeral.run_isGraphic hblanks
  cases hscan : scan text with
  | none =>
    refine scan_eq_none_iff.2 fun numeral d hnumeral h => ?_
    exact scan_eq_none_iff.1 hscan numeral d hnumeral (hfront numeral d hnumeral h)
  | some found =>
    obtain ⟨taken, rest⟩ := found
    obtain ⟨hlongest, htext⟩ := scan_eq_some_iff.1 hscan
    refine scan_eq_some_iff.2 ⟨⟨hlongest.isNumeral, ?_, fun other e hother h => ?_⟩, ?_⟩
    · exact hlongest.atFront.trans (List.prefix_append text blanks)
    · exact hlongest.longest other e hother (hfront other e hother h)
    · rw [htext, List.append_assoc]

end Numeral

end

/-! ## Cursors in lockstep -/

namespace Cursor

variable {c d : Cursor} {symbol : Char}

/-- What is unread at the second place is what is unread at the first, and blanks behind it. -/
def Padded (c d : Cursor) : Prop := ∃ blanks, Run isBlank blanks ∧ d.rest = c.rest ++ blanks

/-- Places that differ by blanks get the same answer, and lead to places that differ by blanks. -/
def Agrees {α : Type} (operation : Cursor → α × Cursor) : Prop :=
  ∀ c d, c.Padded d → ∃ a c' d', operation c = (a, c') ∧ operation d = (a, d') ∧ c'.Padded d'

/-- Behind blanks, the blanks in front no longer count, and where nothing else is unread those
behind do not count either. -/
theorem skipBlanks_padded {before after : List Char} (hbefore : Run isBlank before)
    (hafter : Run isBlank after) (h : d.rest = before ++ (c.rest ++ after)) :
    c.skipBlanks.Padded d.skipBlanks ∧ c.skipBlanks.atEnd = d.skipBlanks.atEnd := by
  have hrest : d.skipBlanks.rest = (c.rest ++ after).dropWhile isBlank := by
    rw [skipBlanks, h, List.dropWhile_append_of_pos hbefore]
  rw [List.dropWhile_append] at hrest
  have hskip : c.skipBlanks.rest = c.rest.dropWhile isBlank := rfl
  cases hbehind : c.rest.dropWhile isBlank with
  | nil =>
    rw [hbehind, List.dropWhile_eq_nil_iff.2 hafter] at hrest
    rw [hbehind] at hskip
    exact ⟨⟨[], run_nil, by simpa [hskip] using hrest⟩, by simp [atEnd, hrest, hskip]⟩
  | cons first rest =>
    rw [hbehind] at hrest hskip
    exact ⟨⟨after, hafter, by simpa [hskip] using hrest⟩, by simp [atEnd, hrest, hskip]⟩

theorem identifier_agrees : Agrees identifier := by
  intro c d hpadded
  obtain ⟨blanks, hblanks, hrest⟩ := hpadded
  obtain ⟨htake, hdrop⟩ :
      d.rest.takeWhile isWordChar = c.rest.takeWhile isWordChar ∧
        d.rest.dropWhile isWordChar = c.rest.dropWhile isWordChar ++ blanks :=
    hrest ▸ takeWhile_append_run hblanks not_isWordChar_of_blank
  unfold identifier
  rw [htake, hdrop]
  split
  · exact ⟨_, _, _, rfl, rfl, blanks, hblanks, hrest⟩
  · exact ⟨_, _, _, rfl, rfl, blanks, hblanks, rfl⟩

theorem number_agrees : Agrees number := by
  intro c d hpadded
  obtain ⟨blanks, hblanks, hrest⟩ := hpadded
  unfold number
  rw [hrest, Numeral.scan_append_blanks hblanks]
  cases Numeral.scan c.rest with
  | none => exact ⟨_, _, _, rfl, rfl, blanks, hblanks, hrest⟩
  | some found => exact ⟨_, _, _, rfl, rfl, blanks, hblanks, rfl⟩

theorem Padded.next_cases (h : c.Padded d) :
    (∃ next rest blanks, Run isBlank blanks ∧ c.rest = next :: rest ∧
      d.rest = next :: (rest ++ blanks)) ∨
    c.rest = [] ∧ Run isBlank d.rest := by
  obtain ⟨blanks, hblanks, hrest⟩ := h
  cases hc : c.rest with
  | nil =>
    rw [hc, List.nil_append] at hrest
    exact .inr ⟨rfl, hrest ▸ hblanks⟩
  | cons next rest =>
    rw [hc, List.cons_append] at hrest
    exact .inl ⟨next, rest, blanks, hblanks, rfl, hrest⟩

theorem consume_of_run (hsymbol : isBlank symbol = false) (h : Run isBlank d.rest) :
    d.consume symbol = (false, d) := by
  unfold consume
  split
  · next first rest hrest =>
    refine if_neg ?_
    rintro rfl
    rw [hrest, run_cons, hsymbol] at h
    cases h.1
  · rfl

theorem consume_agrees (hsymbol : isBlank symbol = false) : Agrees (·.consume symbol) := by
  intro c d hpadded
  rcases hpadded.next_cases with ⟨next, rest, blanks, hblanks, hc, hd⟩ | ⟨hc, hd⟩
  · by_cases hnext : next = symbol
    · simp only [consume, hc, hd, if_pos hnext]
      exact ⟨_, _, _, rfl, rfl, blanks, hblanks, rfl⟩
    · simp only [consume, hc, hd, if_neg hnext]
      exact ⟨_, _, _, rfl, rfl, hpadded⟩
  · exact ⟨_, _, _, consume_of_run hsymbol (hc ▸ run_nil), consume_of_run hsymbol hd, hpadded⟩

theorem expect_agrees (hsymbol : isBlank symbol = false) : Agrees (·.expect symbol) := by
  intro c d hpadded
  obtain ⟨found, c', d', hc, hd, hnext⟩ := consume_agrees hsymbol c d hpadded
  refine ⟨if found then .ok () else .error (.symbolExpected symbol), c', d', ?_, ?_, hnext⟩
  · cases found <;> simp [expect, hc]
  · cases found <;> simp [expect, hd]

theorem ofSymbol?_next (h : c.Padded d) :
    c.peek?.bind Comparison.ofSymbol? = d.peek?.bind Comparison.ofSymbol? := by
  rcases h.next_cases with ⟨next, rest, blanks, -, hc, hd⟩ | ⟨hc, hd⟩
  · rw [peek?, peek?, hc, hd]
    rfl
  · rw [peek?, peek?, hc]
    cases hrest : d.rest with
    | nil => rfl
    | cons blank blanks =>
      rw [hrest, run_cons] at hd
      refine Eq.symm (List.find?_eq_none.2 fun b _ => ?_)
      rw [decide_eq_true_eq]
      rintro rfl
      rw [not_blank_symbol] at hd
      cases hd.1

end Cursor

/-! ## Readers in lockstep -/

/-- The faults are the same, but for blanks at the end of text that is left over. -/
inductive SyntaxFault.Agrees : SyntaxFault → SyntaxFault → Prop
  | same (fault : SyntaxFault) : Agrees fault fault
  | trailingText {rest blanks : List Char} : Run isBlank blanks →
      Agrees (.trailingText (String.ofList rest)) (.trailingText (String.ofList (rest ++ blanks)))

namespace Grammar

namespace Reader

variable {α β : Type} {c d : Cursor}

/-- Both read the same and go on at places that differ by blanks, or both fail in the same way. -/
inductive EndAlike : Except SyntaxFault (α × Cursor) → Except SyntaxFault (α × Cursor) → Prop
  | ok {a : α} {c d : Cursor} : c.Padded d → EndAlike (.ok (a, c)) (.ok (a, d))
  | error {f g : SyntaxFault} : f.Agrees g → EndAlike (.error f) (.error g)

/-- **In lockstep.** From places that differ by blanks, the reader ends alike. -/
def Agrees (reader : Reader α) : Prop := ∀ c d, c.Padded d → EndAlike (reader c) (reader d)

theorem Agrees.pure (a : α) : Agrees (Pure.pure a) := fun _ _ => .ok

/-- **A step of the two readers**, and what they do then. -/
theorem Agrees.bind {reader : Reader α} {next : α → Reader β} (h : Agrees reader)
    (hnext : ∀ a, Agrees (next a)) : Agrees (reader >>= next) := by
  intro c d hpadded
  show EndAlike (reader c >>= fun p => next p.1 p.2) (reader d >>= fun p => next p.1 p.2)
  have hends := h c d hpadded
  generalize reader c = x at hends
  generalize reader d = y at hends
  cases hends with
  | ok hpadded' => exact hnext _ _ _ hpadded'
  | error hfaults => exact .error hfaults

theorem skipBlanks_agrees : Agrees skipBlanks := by
  intro c d hpadded
  obtain ⟨blanks, hblanks, hrest⟩ := hpadded
  exact .ok (Cursor.skipBlanks_padded run_nil hblanks hrest).1

theorem ofCursor_agrees {operation : Cursor → Except CursorFault α × Cursor}
    (h : Cursor.Agrees operation) : Agrees (ofCursor operation) := by
  intro c d hpadded
  obtain ⟨result, c', d', hc, hd, hnext⟩ := h c d hpadded
  rw [ofCursor, ofCursor, hc, hd]
  cases result with
  | ok a => exact .ok hnext
  | error reason => exact .error (.same _)

theorem keyword_agrees : Agrees keyword := by
  intro c d hpadded
  obtain ⟨result, c', d', hc, hd, hnext⟩ := Cursor.identifier_agrees c d hpadded
  rw [keyword, keyword, hc, hd]
  cases result with
  | error reason => exact .error (.same _)
  | ok word =>
    cases hlookup : lookup word with
    | none => simpa [hlookup] using .error (.same _)
    | some entry => simpa [hlookup] using .ok hnext

theorem comparison_agrees : Agrees comparison := by
  intro c d hpadded
  unfold comparison
  rw [Cursor.ofSymbol?_next hpadded]
  split
  · exact .error (.same _)
  · exact .error (.same _)
  · next b _ _ =>
    have hends := ofCursor_agrees (Cursor.expect_agrees (not_blank_symbol b)) c d hpadded
    generalize ofCursor (·.expect b.symbol) c = x at hends ⊢
    generalize ofCursor (·.expect b.symbol) d = y at hends ⊢
    cases hends with
    | ok hnext => exact .ok hnext
    | error hfaults => exact .error hfaults

theorem operands_agrees (shape : Shape) : Agrees (operands shape) := by
  have hnumber := ofCursor_agrees Cursor.number_agrees
  cases shape with
  | point =>
    exact (ofCursor_agrees (Cursor.expect_agrees (by decide))).bind fun _ =>
      skipBlanks_agrees.bind fun _ => hnumber.bind fun _ => skipBlanks_agrees.bind fun _ =>
      (ofCursor_agrees (Cursor.expect_agrees (by decide))).bind fun _ =>
      skipBlanks_agrees.bind fun _ => hnumber.bind fun _ => .pure _
  | comparison =>
    exact comparison_agrees.bind fun _ => skipBlanks_agrees.bind fun _ => hnumber.bind fun _ =>
      .pure _

theorem finish_agrees (a : α) :
    Agrees (skipBlanks >>= fun _ => finish >>= fun _ => Pure.pure a) := by
  intro c d hpadded
  obtain ⟨blanks, hblanks, hrest⟩ := hpadded
  obtain ⟨⟨blanks', hblanks', hrest'⟩, hend⟩ := Cursor.skipBlanks_padded run_nil hblanks hrest
  show EndAlike (finish c.skipBlanks >>= fun p => Pure.pure (a, p.2))
    (finish d.skipBlanks >>= fun p => Pure.pure (a, p.2))
  unfold finish
  rw [hend, hrest']
  split
  · exact .ok ⟨blanks', hblanks', hrest'⟩
  · exact .error (.trailingText hblanks')

/-- **An expression is read alike** with blanks around it and without. -/
theorem expression_endAlike {before after : List Char} (hbefore : Run isBlank before)
    (hafter : Run isBlank after) (h : d.rest = before ++ (c.rest ++ after)) :
    EndAlike (expression c) (expression d) := by
  have hread := keyword_agrees.bind fun entry => skipBlanks_agrees.bind fun _ =>
    (operands_agrees entry.2).bind fun values => finish_agrees (Token.keyword entry.1 :: values)
  exact hread _ _ (Cursor.skipBlanks_padded hbefore hafter h).1

end Reader

/-- **Blanks around an expression do not count.** Without them the text gives the same tokens, or it
is refused for the same reason, but for blanks at the end of text that is left over. -/
theorem parse_trim (text : String) :
    (∃ tokens, parse (String.ofList (trim text.toList)) = .ok tokens ∧ parse text = .ok tokens) ∨
    ∃ f g : SyntaxFault, f.Agrees g ∧ parse (String.ofList (trim text.toList)) = .error f ∧
      parse text = .error g := by
  obtain ⟨before, after, hbefore, hafter, htext, -, -⟩ := exists_trim text.toList
  have hrest : (Cursor.ofText text).rest =
      before ++ ((Cursor.ofText (String.ofList (trim text.toList))).rest ++ after) := by
    rw [Cursor.ofText, Cursor.ofText, String.toList_ofList, ← List.append_assoc, ← htext]
  have halike := Reader.expression_endAlike hbefore hafter hrest
  rw [parse, parse, StateT.run, StateT.run]
  generalize Reader.expression (Cursor.ofText text) = y at halike ⊢
  generalize Reader.expression _ = x at halike ⊢
  cases halike with
  | ok _ => exact .inl ⟨_, rfl, rfl⟩
  | error hfaults => exact .inr ⟨_, _, hfaults, rfl, rfl⟩

end Grammar

end Fairweather
