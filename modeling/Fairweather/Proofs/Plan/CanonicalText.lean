import Fairweather.Proofs.Expression.Reading
import Fairweather.Proofs.Number.ReadBack

/-!
# The canonical text of a condition

What compiles with the built-in keywords is known from the language: a text compiles to a condition
just when it is an expression of the condition's tokens (`Vocabulary.compile_builtin_ok_iff`). The
text of a condition is laid out as such an expression (`Condition.layout`), and is one when the
language has room for it: numbers have to be finite, and a threshold cannot ask for equality
(`Condition.IsExpressible`). The text of any other condition breaks off in its operands
(`Condition.text_fails`).

Main result: `Vocabulary.compile_condition_text`.
-/

namespace Fairweather

open Text Grammar Reader

/-! ## The built-in keywords -/

namespace Vocabulary

theorem find?_location : builtin.find? Grammar.location = some .location := rfl

theorem find?_measure (m : Measure) : builtin.find? m.keyword = some (.ofMeasure m) := by
  cases m <;> rfl

theorem apply_location (x y : Binary64) :
    (builtin.apply Grammar.location (.ofList [.point x y])).1 = .ok (.location ⟨x, y⟩) := by
  rw [apply, find?_location]
  rfl

theorem apply_measure (m : Measure) {c : Comparison} (hc : c = .greater ∨ c = .less)
    (bound : Binary64) :
    (builtin.apply m.keyword (.ofList [.comparison c, .number bound])).1 =
      .ok (.threshold m c bound) := by
  rw [apply, find?_measure]
  rcases hc with rfl | rfl <;> rfl

end Vocabulary

theorem takes_measure (m : Measure) : Takes m.keyword .comparison := by
  refine .measure ?_
  cases m <;> decide

theorem exists_measure {keyword : String} (h : Takes keyword .comparison) :
    ∃ m : Measure, keyword = m.keyword := by
  cases h with
  | measure h =>
    have hmeasures : ∀ k ∈ ["wind", "wind_dir", "temperature_2m", "precipitation",
        "precipitation_prob", "cloud"], ∃ m ∈ Measure.all, k = m.keyword := by decide
    obtain ⟨m, -, hm⟩ := hmeasures keyword h
    exact ⟨m, hm⟩

namespace Condition

/-- The tokens of the expression that means a condition. -/
def tokens : Condition → List Token
  | location point => [.keyword Grammar.location, .point point.latitude point.longitude]
  | threshold measure comparison bound =>
    [.keyword measure.keyword, .comparison comparison, .number bound]

/-- The language can say the condition. -/
def IsExpressible : Condition → Prop
  | location point => point.latitude.isFinite ∧ point.longitude.isFinite
  | threshold _ comparison bound =>
    (comparison = .greater ∨ comparison = .less) ∧ bound.isFinite

theorem isExpressible_of_means {condition : Condition} {p : Phrase}
    (h : p.Means condition.tokens) : condition.IsExpressible := by
  cases condition with
  | location point =>
    cases h with
    | intro _ _ _ _ hmeans _ =>
      cases hmeans with
      | point _ hx _ _ hy =>
        obtain ⟨_, _, _, hx⟩ := hx
        obtain ⟨_, _, _, hy⟩ := hy
        exact ⟨hx, hy⟩
  | threshold m c bound =>
    cases h with
    | intro _ _ _ _ hmeans _ =>
      cases hmeans with
      | comparison hc _ hx =>
        obtain ⟨_, _, _, hx⟩ := hx
        exact ⟨hc, hx⟩

end Condition

/-- **What compiles** with the built-in keywords are the expressions of the condition's tokens. -/
theorem Vocabulary.compile_builtin_ok_iff {text : String} {condition : Condition} :
    builtin.compile text = .ok condition ↔
      ∃ p : Phrase, p.text = text.toList ∧ p.Means condition.tokens := by
  constructor
  · intro h
    unfold compile at h
    split at h
    · cases h
    · next tokens hparse =>
      obtain ⟨p, htext, hmeans⟩ := Plan.parse_ok_iff.1 hparse
      refine ⟨p, htext, ?_⟩
      cases hmeans with
      | @intro _ _ _ _ operands keyword shape values hbefore hspells htakes hgap hoperands hafter =>
        have h : (builtin.apply keyword (.ofList values)).1 = .ok condition := h
        cases hoperands with
        | @point afterSign latitude beforeComma afterComma longitude x y h₁ hx h₂ h₃ hy =>
          cases htakes
          have hlocation := h.symm.trans (apply_location x y)
          cases hlocation
          exact .intro hbefore hspells .location hgap (.point h₁ hx h₂ h₃ hy) hafter
        | @comparison c afterSign bound x hc h₁ hx =>
          obtain ⟨m, rfl⟩ := exists_measure htakes
          have hthreshold := h.symm.trans (apply_measure m hc x)
          cases hthreshold
          exact .intro hbefore hspells htakes hgap (.comparison hc h₁ hx) hafter
  · intro hex
    obtain ⟨p, htext, hmeans⟩ := hex
    have hexpressible := Condition.isExpressible_of_means hmeans
    have hparse := Plan.parse_ok_iff.2 ⟨p, htext, hmeans⟩
    rw [compile, hparse]
    cases condition with
    | location point => exact apply_location point.latitude point.longitude
    | threshold m c bound => exact apply_measure m hexpressible.1 bound

/-! ## How a condition is laid out -/

theorem spells_keyword {keyword : String} {shape : Shape} (h : Takes keyword shape) :
    Spells keyword.toList keyword := by
  have htable : ∀ entry ∈ keywordTable, entry.1.toList.map Char.toLower = entry.1.toList := by
    decide
  exact htable _ (mem_keywordTable.2 h)

namespace Condition

/-- The operands of the text of a condition. -/
def operandParts : Condition → OperandParts
  | location point =>
    .point [' '] point.latitude.plainChars [] [' '] point.longitude.plainChars
  | threshold _ comparison bound => .comparison comparison [' '] bound.plainChars

/-- The parts of the text of a condition. -/
def layout (condition : Condition) : Phrase :=
  ⟨[], condition.keyword.toList, [' '], condition.operandParts, []⟩

theorem layout_text (condition : Condition) : condition.layout.text = condition.text.toList := by
  cases condition with
  | location point =>
    simp [layout, operandParts, Phrase.text, OperandParts.text, text, keyword, Binary64.plain]
  | threshold m c bound =>
    simp [layout, operandParts, Phrase.text, OperandParts.text, text, keyword, Binary64.plain]

theorem run_space : Run isBlank [' '] := run_cons.2 ⟨by decide, run_nil⟩

theorem layout_means {condition : Condition} (h : condition.IsExpressible) :
    condition.layout.Means condition.tokens := by
  cases condition with
  | location point =>
    have hoperands := OperandParts.Means.point run_space (Binary64.writes_plainChars h.1) run_nil
      run_space (Binary64.writes_plainChars h.2)
    exact .intro run_nil (spells_keyword .location) .location run_space hoperands run_nil
  | threshold m c bound =>
    have hoperands := OperandParts.Means.comparison h.1 run_space (Binary64.writes_plainChars h.2)
    have htakes := takes_measure m
    exact .intro run_nil (spells_keyword htakes) htakes run_space hoperands run_nil

end Condition

/-! ## Conditions that have no expression -/

namespace Binary64

theorem plainChars_of_not_finite {x : Binary64} (h : ¬ x.isFinite) :
    x.plainChars = ['N', 'a', 'N'] ∨
      ∃ negative, x.plainChars = Layout.sign negative ++ ['i', 'n', 'f'] := by
  cases x with
  | nan => exact .inl rfl
  | signed negative rank =>
    have hrank : rank.val = infinityRank := by
      have hle := Nat.lt_succ_iff.1 rank.isLt
      simp only [isFinite, decide_eq_true_eq] at h
      omega
    refine .inr ⟨negative, ?_⟩
    rw [plainChars, if_pos hrank]

theorem scan_plainChars {x : Binary64} (h : ¬ x.isFinite) (rest : List Char) :
    Numeral.scan (x.plainChars ++ rest) = none := by
  rcases plainChars_of_not_finite h with hchars | ⟨negative, hchars⟩
  · rw [hchars]
    rfl
  · rw [hchars]
    cases negative <;> rfl

theorem stops_plainChars (x : Binary64) (rest : List Char) :
    Stops isBlank (x.plainChars ++ rest) := by
  by_cases h : x.isFinite
  · exact (writes_plainChars h).stops
  · rcases plainChars_of_not_finite h with hchars | ⟨negative, hchars⟩
    · rw [hchars]
      exact stops_cons.2 (by decide)
    · rw [hchars]
      cases negative <;> exact stops_cons.2 (by decide)

end Binary64

namespace Condition

theorem operands_fails {condition : Condition} (h : ¬ condition.IsExpressible) :
    Fails (operands (if condition.concernsDataset then .point else .comparison))
      condition.operandParts.text := by
  cases condition with
  | location point =>
    obtain ⟨latitude, longitude⟩ := point
    have hsign := expect_reads '=' (' ' :: (latitude.plainChars ++ ',' :: ' ' ::
      longitude.plainChars))
    have hblank := skipBlanks_reads run_space (latitude.stops_plainChars (',' :: ' ' ::
      longitude.plainChars))
    by_cases hlatitude : latitude.isFinite
    · have hlongitude : ¬ longitude.isFinite := fun hlongitude => h ⟨hlatitude, hlongitude⟩
      have hstops := longitude.stops_plainChars []
      have hscan := Binary64.scan_plainChars hlongitude []
      rw [List.append_nil] at hstops hscan
      exact hsign.bind_fails <| hblank.bind_fails <|
        (number_reads (Binary64.writes_plainChars hlatitude) stops_comma.2).bind_fails <|
        (skipBlanks_reads run_nil stops_comma.1).bind_fails <|
        (expect_reads ',' _).bind_fails <|
        (skipBlanks_reads run_space hstops).bind_fails (number_fails hscan).bind
    · exact hsign.bind_fails <| hblank.bind_fails
        (number_fails (Binary64.scan_plainChars hlatitude _)).bind
  | threshold m c bound =>
    by_cases hc : c = .greater ∨ c = .less
    · have hbound : ¬ bound.isFinite := fun hbound => h ⟨hc, hbound⟩
      have hstops := bound.stops_plainChars []
      have hscan := Binary64.scan_plainChars hbound []
      rw [List.append_nil] at hstops hscan
      exact (comparison_reads hc _).bind_fails <|
        (skipBlanks_reads run_space hstops).bind_fails (number_fails hscan).bind
    · have hequal : c = .equal := by
        cases c with
        | greater => exact absurd (.inl rfl) hc
        | less => exact absurd (.inr rfl) hc
        | equal => rfl
      rw [operandParts, hequal]
      exact (comparison_fails _).bind

theorem takes_keyword (condition : Condition) :
    Takes condition.keyword (if condition.concernsDataset then .point else .comparison) := by
  cases condition with
  | location _ => exact .location
  | threshold m _ _ => exact takes_measure m

/-- **The text of a condition that the language cannot say** is not read. -/
theorem text_fails {condition : Condition} (h : ¬ condition.IsExpressible) :
    Fails expression condition.text.toList := by
  have htakes := condition.takes_keyword
  have hstops : Stops isBlank condition.operandParts.text := by
    have := condition.operandParts.stops []
    rw [List.append_nil] at this
    exact this.1
  have hfails := expression_fails (spells_keyword htakes) htakes hstops (operands_fails h)
  rw [← layout_text, layout, Phrase.text, List.append_nil]
  exact hfails

end Condition

theorem Vocabulary.compile_text {condition : Condition} (h : condition.IsExpressible) :
    builtin.compile condition.text = .ok condition :=
  compile_builtin_ok_iff.2 ⟨_, condition.layout_text, Condition.layout_means h⟩

/-- **The canonical text.** The text of a condition that the language can say compiles to the
condition itself; the text of any other is refused as unreadable, and the fault names all of it.
So what any text compiles to has a text that compiles to the same. -/
theorem Vocabulary.compile_condition_text :
    (∀ condition : Condition, condition.IsExpressible →
      builtin.compile condition.text = .ok condition) ∧
    (∀ condition : Condition, ¬ condition.IsExpressible →
      ∃ reason, builtin.compile condition.text =
        .error (.unreadableExpression condition.text reason)) ∧
    (∀ text condition, builtin.compile text = .ok condition →
      builtin.compile condition.text = .ok condition) := by
  refine ⟨fun _ => compile_text, ?_, ?_⟩
  · intro condition h
    obtain ⟨reason, hfault⟩ := Condition.text_fails h (Cursor.ofText condition.text) rfl
    refine ⟨reason, ?_⟩
    have hrun : expression.run (Cursor.ofText condition.text) = .error reason := hfault
    rw [compile, Plan.parse, Grammar.parse, hrun]
    rfl
  · intro text condition h
    obtain ⟨p, -, hmeans⟩ := compile_builtin_ok_iff.1 h
    exact compile_text (Condition.isExpressible_of_means hmeans)

end Fairweather
