import Fairweather.Proofs.Expression.Language

/-!
# Reading expressions

The reader against the language. Both directions go part by part, in the order in which
`Reader.expression` puts its parts together. What a part has read is in its language
(`expression_sound`); and a part reads any text of its language that is followed by what it stops
at (`expression_reads`). A text comes apart into the parts of an expression in one way only
(`Phrase.unique`).

Main result: `Plan.parse_ok_iff_and_error_iff`.
-/

namespace Fairweather

open Text

namespace Grammar

namespace Reader

theorem bind_ok_iff {α β : Type} {reader : Reader α} {next : α → Reader β} {b : β}
    {c e : Cursor} : (reader >>= next) c = .ok (b, e) ↔
      ∃ a d, reader c = .ok (a, d) ∧ next a d = .ok (b, e) := by
  show (reader c >>= fun p => next p.1 p.2) = .ok (b, e) ↔ _
  cases hreader : reader c with
  | error fault => simp [bind, Except.bind]
  | ok p =>
    obtain ⟨a, d⟩ := p
    constructor
    · intro h
      exact ⟨a, d, rfl, h⟩
    · intro hex
      obtain ⟨a', d', heq, h⟩ := hex
      cases heq
      exact h

/-! ## What is read is an expression -/

variable {c d : Cursor}

theorem skipBlanks_sound {u : Unit} (h : skipBlanks c = .ok (u, d)) :
    ∃ blanks, Run isBlank blanks ∧ c.rest = blanks ++ d.rest := by
  cases h
  exact ⟨_, run_takeWhile, List.takeWhile_append_dropWhile.symm⟩

theorem ofCursor_ok_iff {α : Type} {operation : Cursor → Except CursorFault α × Cursor} {a : α} :
    ofCursor operation c = .ok (a, d) ↔ operation c = (.ok a, d) := by
  unfold ofCursor
  split
  · next heq =>
    rw [heq]
    simp
  · next heq =>
    rw [heq]
    simp

theorem expect_sound {symbol : Char} {u : Unit}
    (h : ofCursor (·.expect symbol) c = .ok (u, d)) : c.rest = symbol :: d.rest := by
  rw [ofCursor_ok_iff] at h
  unfold Cursor.expect Cursor.consume at h
  obtain ⟨offset, text⟩ := c
  cases text with
  | nil => cases h
  | cons first rest =>
    dsimp only at h
    split at h
    · next heq =>
      split at heq
      · next hfirst =>
        cases heq
        cases h
        rw [hfirst]
      · cases heq
    · cases h

theorem number_sound {x : Binary64} (h : ofCursor Cursor.number c = .ok (x, d)) :
    ∃ text, Writes text x ∧ c.rest = text ++ d.rest := by
  rw [ofCursor_ok_iff] at h
  unfold Cursor.number at h
  split at h
  · cases h
  · next numeral rest hscan =>
    obtain ⟨htext, hnumeral⟩ := Numeral.scan_sound hscan
    rw [Prod.mk.injEq] at h
    obtain ⟨hvalue, rfl⟩ := h
    split at hvalue
    · next hfinite =>
      cases hvalue
      exact ⟨numeral.text, ⟨numeral.value, hnumeral, Decimal.roundsTo_iff.2 rfl, hfinite⟩, htext⟩
    · cases hvalue

theorem keyword_sound {entry : String × Shape} (h : keyword c = .ok (entry, d)) :
    ∃ word, Spells word entry.1 ∧ Takes entry.1 entry.2 ∧ c.rest = word ++ d.rest := by
  unfold keyword Cursor.identifier at h
  split at h
  · cases h
  · next word next hword =>
    split at hword
    · cases hword
    · rw [Prod.mk.injEq, Except.ok.injEq] at hword
      obtain ⟨rfl, rfl⟩ := hword
      split at h
      · cases h
      · next hlookup =>
        cases h
        unfold lookup at hlookup
        have hspells := List.find?_some hlookup
        rw [decide_eq_true_eq, lowered, String.toList_ofList] at hspells
        refine ⟨c.rest.takeWhile Cursor.isWordChar, ?_,
          mem_keywordTable.1 (List.mem_of_find?_eq_some hlookup),
          List.takeWhile_append_dropWhile.symm⟩
        rw [Spells, hspells, String.toList_ofList]

theorem comparison_sound {b : Comparison} (h : comparison c = .ok (b, d)) :
    (b = .greater ∨ b = .less) ∧ c.rest = b.symbol :: d.rest := by
  unfold comparison at h
  split at h
  · cases h
  · cases h
  · next found hequal hpeek =>
    cases hexpect : ofCursor (·.expect found.symbol) c with
    | error fault =>
      rw [hexpect] at h
      cases h
    | ok p =>
      rw [hexpect] at h
      cases h
      refine ⟨?_, expect_sound (u := p.1) hexpect⟩
      cases b with
      | greater => exact .inl rfl
      | less => exact .inr rfl
      | equal => exact absurd rfl hequal

theorem operands_sound {shape : Shape} {tokens : List Token}
    (h : operands shape c = .ok (tokens, d)) :
    ∃ parts : OperandParts, parts.Means shape tokens ∧ c.rest = parts.text ++ d.rest := by
  cases shape with
  | point =>
    obtain ⟨_, c₁, hequals, h⟩ := bind_ok_iff.1 h
    obtain ⟨_, c₂, hblanks₁, h⟩ := bind_ok_iff.1 h
    obtain ⟨x, c₃, hlatitude, h⟩ := bind_ok_iff.1 h
    obtain ⟨_, c₄, hblanks₂, h⟩ := bind_ok_iff.1 h
    obtain ⟨_, c₅, hcomma, h⟩ := bind_ok_iff.1 h
    obtain ⟨_, c₆, hblanks₃, h⟩ := bind_ok_iff.1 h
    obtain ⟨y, c₇, hlongitude, h⟩ := bind_ok_iff.1 h
    cases h
    obtain ⟨afterSign, hafterSign, htext₁⟩ := skipBlanks_sound hblanks₁
    obtain ⟨latitude, hx, htext₂⟩ := number_sound hlatitude
    obtain ⟨beforeComma, hbeforeComma, htext₃⟩ := skipBlanks_sound hblanks₂
    obtain ⟨afterComma, hafterComma, htext₄⟩ := skipBlanks_sound hblanks₃
    obtain ⟨longitude, hy, htext₅⟩ := number_sound hlongitude
    refine ⟨.point afterSign latitude beforeComma afterComma longitude,
      .point hafterSign hx hbeforeComma hafterComma hy, ?_⟩
    rw [expect_sound hequals, htext₁, htext₂, htext₃, expect_sound hcomma, htext₄, htext₅]
    simp only [OperandParts.text, List.cons_append, List.append_assoc]
  | comparison =>
    obtain ⟨b, c₁, hcomparison, h⟩ := bind_ok_iff.1 h
    obtain ⟨_, c₂, hblanks, h⟩ := bind_ok_iff.1 h
    obtain ⟨x, c₃, hbound, h⟩ := bind_ok_iff.1 h
    cases h
    obtain ⟨hb, htext₁⟩ := comparison_sound hcomparison
    obtain ⟨afterSign, hafterSign, htext₂⟩ := skipBlanks_sound hblanks
    obtain ⟨bound, hx, htext₃⟩ := number_sound hbound
    refine ⟨.comparison b afterSign bound, .comparison hb hafterSign hx, ?_⟩
    rw [htext₁, htext₂, htext₃]
    simp only [OperandParts.text, List.cons_append, List.append_assoc]

theorem finish_sound {u : Unit} (h : finish c = .ok (u, d)) : c.rest = [] := by
  unfold finish at h
  split at h
  · next hend => exact List.isEmpty_iff.1 hend
  · cases h

/-- **What is read is an expression**, and the tokens are those that it means. -/
theorem expression_sound {tokens : List Token} (h : expression c = .ok (tokens, d)) :
    ∃ p : Phrase, p.text = c.rest ∧ p.Means tokens := by
  obtain ⟨_, c₁, hblanks₁, h⟩ := bind_ok_iff.1 h
  obtain ⟨⟨word, shape⟩, c₂, hkeyword, h⟩ := bind_ok_iff.1 h
  obtain ⟨_, c₃, hblanks₂, h⟩ := bind_ok_iff.1 h
  obtain ⟨values, c₄, hoperands, h⟩ := bind_ok_iff.1 h
  obtain ⟨_, c₅, hblanks₃, h⟩ := bind_ok_iff.1 h
  obtain ⟨_, c₆, hfinish, h⟩ := bind_ok_iff.1 h
  cases h
  obtain ⟨before, hbefore, htext₁⟩ := skipBlanks_sound hblanks₁
  obtain ⟨spelling, hspells, htakes, htext₂⟩ := keyword_sound hkeyword
  obtain ⟨gap, hgap, htext₃⟩ := skipBlanks_sound hblanks₂
  obtain ⟨parts, hmeans, htext₄⟩ := operands_sound hoperands
  obtain ⟨after, hafter, htext₅⟩ := skipBlanks_sound hblanks₃
  refine ⟨⟨before, spelling, gap, parts, after⟩, ?_,
    .intro hbefore hspells htakes hgap hmeans hafter⟩
  rw [htext₁, htext₂, htext₃, htext₄, htext₅, finish_sound hfinish, List.append_nil]
  rfl

/-! ## Expressions are read -/

/-- Wherever the text is what is left of a longer one, the reader gives a value and leaves a
rest. -/
def Reads {α : Type} (reader : Reader α) (text : List Char) (a : α) (rest : List Char) : Prop :=
  ∀ c : Cursor, c.rest = text → ∃ d : Cursor, reader c = .ok (a, d) ∧ d.rest = rest

theorem Reads.pure {α : Type} {a : α} {text : List Char} :
    Reads (Pure.pure a) text a text := fun c hc => ⟨c, rfl, hc⟩

theorem Reads.bind {α β : Type} {reader : Reader α} {next : α → Reader β} {a : α} {b : β}
    {text middle rest : List Char} (h : Reads reader text a middle)
    (hnext : Reads (next a) middle b rest) : Reads (reader >>= next) text b rest := by
  intro c hc
  obtain ⟨d, hd, hmiddle⟩ := h c hc
  obtain ⟨e, he, hrest⟩ := hnext d hmiddle
  exact ⟨e, bind_ok_iff.2 ⟨a, d, hd, he⟩, hrest⟩

theorem skipBlanks_reads {blanks rest : List Char} (h : Run isBlank blanks)
    (hrest : Stops isBlank rest) : Reads skipBlanks (blanks ++ rest) () rest := by
  intro c hc
  refine ⟨c.skipBlanks, rfl, ?_⟩
  rw [Cursor.skipBlanks, hc]
  exact dropWhile_run h hrest

theorem expect_reads (symbol : Char) (rest : List Char) :
    Reads (ofCursor (·.expect symbol)) (symbol :: rest) () rest := by
  intro c hc
  obtain ⟨offset, text⟩ := c
  dsimp only at hc
  subst hc
  refine ⟨⟨offset + symbol.utf8Size, rest⟩, ofCursor_ok_iff.2 ?_, rfl⟩
  unfold Cursor.expect Cursor.consume
  dsimp only
  rw [if_pos rfl]

theorem number_reads {text rest : List Char} {x : Binary64} (h : Writes text x)
    (hrest : Stops Numeral.continues rest) :
    Reads (ofCursor Cursor.number) (text ++ rest) x rest := by
  obtain ⟨value, hnumeral, hrounds, hfinite⟩ := h
  rw [Decimal.roundsTo_iff] at hrounds
  intro c hc
  refine ⟨⟨c.offset + text.length, rest⟩, ofCursor_ok_iff.2 ?_, rfl⟩
  rw [Cursor.number, hc, Numeral.scan_append hnumeral hrest]
  dsimp only
  rw [← hrounds, if_pos hfinite]

theorem lookup_eq {word : List Char} {k : String} {shape : Shape} (h : Spells word k)
    (htakes : Takes k shape) : lookup (String.ofList word) = some (k, shape) := by
  have htable : ∀ entry ∈ keywordTable, keywordTable.find? (·.1 = entry.1) = some entry := by
    decide
  have hlowered : lowered (String.ofList word) = k := by
    rw [lowered, String.toList_ofList, h, String.ofList_toList]
  rw [lookup, hlowered]
  exact htable _ (mem_keywordTable.2 htakes)

theorem keyword_reads {word rest : List Char} {k : String} {shape : Shape} (h : Spells word k)
    (htakes : Takes k shape) (hrest : Stops Cursor.isWordChar rest) :
    Reads keyword (word ++ rest) (k, shape) rest := by
  intro c hc
  have hidentifier : c.identifier = (.ok (String.ofList word), ⟨c.offset + word.length, rest⟩) := by
    rw [Cursor.identifier, hc, takeWhile_run (h.run htakes) hrest,
      dropWhile_run (h.run htakes) hrest]
    cases word with
    | nil => exact absurd rfl (h.ne_nil htakes)
    | cons first word => rfl
  refine ⟨⟨c.offset + word.length, rest⟩, ?_, rfl⟩
  rw [keyword, hidentifier]
  dsimp only
  rw [lookup_eq h htakes]

theorem comparison_reads {b : Comparison} (h : b = .greater ∨ b = .less) (rest : List Char) :
    Reads comparison (b.symbol :: rest) b rest := by
  intro c hc
  obtain ⟨d, hd, hrest⟩ := expect_reads b.symbol rest c hc
  refine ⟨d, ?_, hrest⟩
  rw [comparison, Cursor.peek?, hc, List.head?_cons]
  rcases h with rfl | rfl
  · exact congrArg (Except.map _) hd
  · exact congrArg (Except.map _) hd

theorem operands_reads {parts : OperandParts} {shape : Shape} {tokens : List Token}
    {rest : List Char} (h : parts.Means shape tokens) (hrest : Stops Numeral.continues rest) :
    Reads (operands shape) (parts.text ++ rest) tokens rest := by
  cases h with
  | @point afterSign latitude beforeComma afterComma longitude x y hafterSign hx hbeforeComma
      hafterComma hy =>
    simp only [OperandParts.text, List.cons_append, List.append_assoc]
    exact (expect_reads '=' _).bind <|
      (skipBlanks_reads hafterSign hx.stops).bind <|
      (number_reads hx (stops_continues hbeforeComma stops_comma.2)).bind <|
      (skipBlanks_reads hbeforeComma stops_comma.1).bind <|
      (expect_reads ',' _).bind <|
      (skipBlanks_reads hafterComma hy.stops).bind <|
      (number_reads hy hrest).bind .pure
  | @comparison b afterSign bound x hb hafterSign hx =>
    simp only [OperandParts.text, List.cons_append, List.append_assoc]
    exact (comparison_reads hb _).bind <|
      (skipBlanks_reads hafterSign hx.stops).bind <|
      (number_reads hx hrest).bind .pure

theorem finish_reads : Reads finish [] () [] := by
  intro c hc
  refine ⟨c, ?_, hc⟩
  rw [finish, Cursor.atEnd, hc]
  rfl

/-- **An expression is read**, and gives the tokens that it means. -/
theorem expression_reads {p : Phrase} {tokens : List Token} (h : p.Means tokens) :
    Reads expression p.text tokens [] := by
  cases h with
  | @intro before word gap after parts k shape values hbefore hspells htakes hgap hmeans hafter =>
    have hstops := parts.stops after
    have hword : Stops Cursor.isWordChar (gap ++ (parts.text ++ after)) :=
      stops_run_append hgap not_isWordChar_of_blank hstops.2
    have hskip : Reads skipBlanks after () [] := by
      have := skipBlanks_reads hafter stops_nil
      rwa [List.append_nil] at this
    exact (skipBlanks_reads hbefore (hspells.stops htakes)).bind <|
      (keyword_reads hspells htakes hword).bind <|
      (skipBlanks_reads hgap hstops.1).bind <|
      (operands_reads hmeans (stops_of_blanks hafter)).bind <|
      hskip.bind <| finish_reads.bind .pure

/-! ## Texts that are refused -/

/-- Wherever the text is what is left of a longer one, the reader fails. -/
def Fails {α : Type} (reader : Reader α) (text : List Char) : Prop :=
  ∀ c : Cursor, c.rest = text → ∃ fault, reader c = .error fault

theorem Fails.bind {α β : Type} {reader : Reader α} {next : α → Reader β} {text : List Char}
    (h : Fails reader text) : Fails (reader >>= next) text := by
  intro c hc
  obtain ⟨fault, hfault⟩ := h c hc
  refine ⟨fault, ?_⟩
  show (reader c >>= fun p => next p.1 p.2) = .error fault
  rw [hfault]
  rfl

theorem Reads.bind_fails {α β : Type} {reader : Reader α} {next : α → Reader β} {a : α}
    {text middle : List Char} (h : Reads reader text a middle) (hnext : Fails (next a) middle) :
    Fails (reader >>= next) text := by
  intro c hc
  obtain ⟨d, hd, hmiddle⟩ := h c hc
  obtain ⟨fault, hfault⟩ := hnext d hmiddle
  refine ⟨fault, ?_⟩
  show (reader c >>= fun p => next p.1 p.2) = .error fault
  rw [hd]
  exact hfault

theorem number_fails {text : List Char} (h : Numeral.scan text = none) :
    Fails (ofCursor Cursor.number) text := by
  intro c hc
  refine ⟨.cursor .numberExpected, ?_⟩
  rw [ofCursor, Cursor.number, hc, h]

theorem comparison_fails (rest : List Char) : Fails comparison ('=' :: rest) := by
  intro c hc
  refine ⟨.comparisonExpected, ?_⟩
  rw [comparison, Cursor.peek?, hc]
  rfl

theorem expression_fails {word rest : List Char} {k : String} {shape : Shape} (h : Spells word k)
    (htakes : Takes k shape) (hrest : Stops isBlank rest) (hfails : Fails (operands shape) rest) :
    Fails expression (word ++ ' ' :: rest) := by
  have hblank : Run isBlank [' '] := run_cons.2 ⟨by decide, run_nil⟩
  have hword : Stops Cursor.isWordChar (' ' :: rest) := stops_cons.2 (by decide)
  exact (skipBlanks_reads run_nil (h.stops htakes)).bind_fails <|
    (keyword_reads h htakes hword).bind_fails <|
    (skipBlanks_reads hblank hrest).bind_fails hfails.bind

end Reader

end Grammar

/-! ## One way to take a text apart -/

theorem Writes.unique {text text' rest rest' : List Char} {x x' : Binary64} (h : Writes text x)
    (hrest : Stops Numeral.continues rest) (h' : Writes text' x')
    (hrest' : Stops Numeral.continues rest') (heq : text ++ rest = text' ++ rest') :
    text = text' ∧ x = x' ∧ rest = rest' := by
  obtain ⟨d, hd, hx, -⟩ := h
  obtain ⟨d', hd', hx', -⟩ := h'
  obtain ⟨htext, rfl, hresteq⟩ := Numeral.numeral_unique hd hrest hd' hrest' heq
  rw [Decimal.roundsTo_iff] at hx hx'
  exact ⟨htext, hx.trans hx'.symm, hresteq⟩

theorem OperandParts.unique {p q : OperandParts} {shape : Shape} {tokens tokens' : List Token}
    {rest rest' : List Char} (h : p.Means shape tokens) (h' : q.Means shape tokens')
    (hrest : Stops Numeral.continues rest) (hrest' : Stops Numeral.continues rest')
    (heq : p.text ++ rest = q.text ++ rest') : p = q ∧ rest = rest' := by
  cases h with
  | point hafterSign hx hbeforeComma hafterComma hy =>
    cases h' with
    | point hafterSign' hx' hbeforeComma' hafterComma' hy' =>
      simp only [OperandParts.text, List.cons_append, List.append_assoc, List.cons.injEq,
        true_and] at heq
      obtain ⟨rfl, heq₁⟩ := run_unique hafterSign hx.stops hafterSign' hx'.stops heq
      obtain ⟨rfl, -, heq₂⟩ := hx.unique (stops_continues hbeforeComma stops_comma.2) hx'
        (stops_continues hbeforeComma' stops_comma.2) heq₁
      obtain ⟨rfl, heq₃⟩ := run_unique hbeforeComma stops_comma.1 hbeforeComma' stops_comma.1 heq₂
      obtain ⟨rfl, heq₄⟩ := run_unique hafterComma hy.stops hafterComma' hy'.stops
        (List.cons.inj heq₃).2
      obtain ⟨rfl, -, rfl⟩ := hy.unique hrest hy' hrest' heq₄
      exact ⟨rfl, rfl⟩
  | comparison hb hafterSign hx =>
    cases h' with
    | comparison hb' hafterSign' hx' =>
      simp only [OperandParts.text, List.cons_append, List.append_assoc, List.cons.injEq] at heq
      obtain ⟨hsymbol, heq⟩ := heq
      have hcomparison := Comparison.symbol_injective hsymbol
      subst hcomparison
      obtain ⟨rfl, hbound⟩ := run_unique hafterSign hx.stops hafterSign' hx'.stops heq
      obtain ⟨rfl, -, rfl⟩ := hx.unique hrest hx' hrest' hbound
      exact ⟨rfl, rfl⟩

/-- **A text is an expression in one way only.** -/
theorem Phrase.unique {p q : Phrase} {tokens tokens' : List Token} (h : p.Means tokens)
    (h' : q.Means tokens') (heq : p.text = q.text) : p = q := by
  cases h with
  | @intro before word gap after parts k shape values hbefore hspells htakes hgap hmeans hafter =>
  cases h' with
  | @intro before' word' gap' after' parts' k' shape' values' hbefore' hspells' htakes' hgap'
      hmeans' hafter' =>
    obtain ⟨rfl, heq₁⟩ :=
      run_unique hbefore (hspells.stops htakes) hbefore' (hspells'.stops htakes') heq
    obtain ⟨rfl, heq₂⟩ := run_unique (hspells.run htakes)
      (stops_run_append hgap not_isWordChar_of_blank (parts.stops _).2) (hspells'.run htakes')
      (stops_run_append hgap' not_isWordChar_of_blank (parts'.stops _).2) heq₁
    obtain rfl := hspells.unique hspells'
    obtain rfl := htakes.unique htakes'
    obtain ⟨rfl, heq₃⟩ := run_unique hgap (parts.stops _).1 hgap' (parts'.stops _).1 heq₂
    obtain ⟨rfl, rfl⟩ := OperandParts.unique hmeans hmeans' (stops_of_blanks hafter)
      (stops_of_blanks hafter') heq₃
    rfl

/-! ## The language -/

theorem Plan.parse_ok_iff {text : String} {tokens : List Token} :
    Plan.parse text = .ok tokens ↔ ∃ p : Phrase, p.text = text.toList ∧ p.Means tokens := by
  constructor
  · intro h
    unfold Plan.parse Grammar.parse at h
    cases hread : Grammar.Reader.expression.run (Cursor.ofText text) with
    | error fault =>
      rw [hread] at h
      cases h
    | ok read =>
      rw [hread] at h
      cases h
      exact Grammar.Reader.expression_sound (d := read.2) hread
  · intro hex
    obtain ⟨p, htext, hmeans⟩ := hex
    obtain ⟨d, hread, -⟩ := Grammar.Reader.expression_reads hmeans (Cursor.ofText text) htext.symm
    have hrun : Grammar.Reader.expression.run (Cursor.ofText text) = .ok (tokens, d) := hread
    rw [Plan.parse, Grammar.parse, hrun]
    rfl

/-- What is not read is refused, and the fault names the whole text. -/
theorem Plan.parse_eq_error {text : String} {fault : PlanFault}
    (h : Plan.parse text = .error fault) :
    ∃ reason, fault = .unreadableExpression text reason := by
  unfold Plan.parse at h
  cases hparse : Grammar.parse text with
  | ok tokens =>
    rw [hparse] at h
    cases h
  | error reason =>
    rw [hparse] at h
    cases h
    exact ⟨reason, rfl⟩

/-- **The reader accepts exactly the language.** A text is read, and gives tokens, just when its
characters are an expression that means them, and they are one in one way only; every other text
is refused by a fault that names all of it. -/
theorem Plan.parse_ok_iff_and_error_iff (text : String) :
    (∀ tokens, Plan.parse text = .ok tokens ↔
      ∃ p : Phrase, p.text = text.toList ∧ p.Means tokens) ∧
    (∀ p q : Phrase, ∀ tokens tokens', p.text = text.toList → p.Means tokens →
      q.text = text.toList → q.Means tokens' → p = q ∧ tokens = tokens') ∧
    ((∀ p : Phrase, ∀ tokens, p.text = text.toList → ¬ p.Means tokens) ↔
      ∃ reason, Plan.parse text = .error (.unreadableExpression text reason)) := by
  refine ⟨fun tokens => Plan.parse_ok_iff, ?_, ?_, ?_⟩
  · intro p q tokens tokens' hp hmeans hq hmeans'
    have htokens := Plan.parse_ok_iff.2 ⟨p, hp, hmeans⟩
    rw [Plan.parse_ok_iff.2 ⟨q, hq, hmeans'⟩, Except.ok.injEq] at htokens
    exact ⟨Phrase.unique hmeans hmeans' (hp.trans hq.symm), htokens.symm⟩
  · intro hnone
    cases hparse : Plan.parse text with
    | ok tokens =>
      obtain ⟨p, htext, hmeans⟩ := Plan.parse_ok_iff.1 hparse
      exact absurd hmeans (hnone p tokens htext)
    | error fault =>
      obtain ⟨reason, rfl⟩ := Plan.parse_eq_error hparse
      exact ⟨reason, rfl⟩
  · intro hex p tokens htext hmeans
    obtain ⟨reason, hparse⟩ := hex
    rw [Plan.parse_ok_iff.2 ⟨p, htext, hmeans⟩] at hparse
    cases hparse

end Fairweather
