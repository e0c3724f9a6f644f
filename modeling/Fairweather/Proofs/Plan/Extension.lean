import Fairweather.Plan.Evaluation
import Fairweather.Proofs.Plan.History
import Fairweather.Proofs.Plan.Lockstep

/-!
# One more entry in a vocabulary

What an expression means depends on a vocabulary only through the entry of its keyword
(`Vocabulary.compile_congr`), and the result of a plan only through the entries of the keywords that
its expressions have (`Plan.evaluate_congr`). A text that is no expression asks for no entry at all,
and the keyword of one that is stands in the table of the language (`Plan.mem_keywords_of_parse`).

So one more entry makes a difference only to expressions of its own keyword. Which keyword that is
does not depend on case: an entry for `WIND` takes the place of the entry for `wind`, though the
table of the language has no `WIND` (`Vocabulary.compile_insert_capitals`).

Main result: `Vocabulary.compile_insert_and_evaluate_insert`.
-/

namespace Fairweather

variable {vocabulary other : Vocabulary}

theorem Plan.mem_keywords_of_parse {text : String} {tokens : List Token}
    (h : Plan.parse text = .ok tokens) :
    ∃ keyword ∈ Grammar.keywords, ∃ operands, tokens = .keyword keyword :: operands := by
  obtain ⟨p, -, hmeans⟩ := Plan.parse_ok_iff.1 h
  cases hmeans with
  | @intro _ _ _ _ _ keyword shape operands _ _ htakes _ _ _ =>
    exact ⟨keyword, List.mem_map.2 ⟨_, mem_keywordTable.2 htakes, rfl⟩, operands, rfl⟩

/-- **An expression depends on the entry of its keyword** and on no other. -/
theorem Vocabulary.compile_congr {text : String} (h : ∀ keyword operands,
      Plan.parse text = .ok (.keyword keyword :: operands) →
        other.find? keyword = vocabulary.find? keyword) :
    other.compile text = vocabulary.compile text := by
  cases hparse : Plan.parse text with
  | error fault =>
    rw [other.compile_of_parse_error hparse, vocabulary.compile_of_parse_error hparse]
  | ok tokens =>
    obtain ⟨keyword, -, operands, rfl⟩ := Plan.mem_keywords_of_parse hparse
    have hcompile : ∀ v : Vocabulary, v.compile text = (v.apply keyword ⟨operands⟩).1 := by
      intro v
      rw [compile, hparse]
      rfl
    rw [hcompile, hcompile, apply, apply, h keyword operands hparse]

/-- **A plan depends on the entries of its keywords** and on no other. -/
theorem Plan.evaluate_congr {expressions : List String} (h : ∀ e ∈ expressions,
      ∀ keyword operands, Plan.parse e = .ok (.keyword keyword :: operands) →
        other.find? keyword = vocabulary.find? keyword)
    (tolerance : Binary64) (dataset : Dataset) :
    evaluate other tolerance expressions dataset =
      evaluate vocabulary tolerance expressions dataset := by
  rw [evaluate, evaluate, mapM_congr fun e he => Vocabulary.compile_congr (h e he)]

namespace Vocabulary

theorem find?_insert_of_not_sameWord {entry : Entry} {word : String}
    (h : ¬ SameWord entry.keyword word) :
    (vocabulary.insert entry).find? word = vocabulary.find? word := by
  rw [find?_insert, if_neg (mt (key_eq_lowered_iff entry word).1 h)]

/-- **One more entry makes a difference to its own keyword only.** A text that is no expression, or
one of another keyword than the entry's in any case, means what it meant without the entry. A plan
of such texts has the result or the fault that it had, for any dataset and tolerance. And an entry
whose keyword is in no case one of the language makes no difference to any text and any plan. -/
theorem compile_insert_and_evaluate_insert (vocabulary : Vocabulary) (entry : Entry) :
    (∀ text, ((∃ fault, Plan.parse text = .error fault) ∨ ∃ keyword operands,
        Plan.parse text = .ok (.keyword keyword :: operands) ∧ ¬ SameWord entry.keyword keyword) →
      (vocabulary.insert entry).compile text = vocabulary.compile text) ∧
    (∀ expressions : List String, (∀ e ∈ expressions, ∀ keyword operands,
        Plan.parse e = .ok (.keyword keyword :: operands) → ¬ SameWord entry.keyword keyword) →
      ∀ tolerance dataset, Plan.evaluate (vocabulary.insert entry) tolerance expressions dataset =
        Plan.evaluate vocabulary tolerance expressions dataset) ∧
    ((∀ keyword ∈ Grammar.keywords, ¬ SameWord entry.keyword keyword) →
      (∀ text, (vocabulary.insert entry).compile text = vocabulary.compile text) ∧
      ∀ expressions tolerance dataset,
        Plan.evaluate (vocabulary.insert entry) tolerance expressions dataset =
          Plan.evaluate vocabulary tolerance expressions dataset) := by
  refine ⟨fun text h => ?_, fun expressions h => ?_, fun h => ?_⟩
  · refine compile_congr fun keyword operands hparse => find?_insert_of_not_sameWord ?_
    rcases h with ⟨fault, hfault⟩ | ⟨found, left, hfound, hother⟩
    · rw [hfault] at hparse
      cases hparse
    · rw [hfound] at hparse
      cases hparse
      exact hother
  · exact Plan.evaluate_congr fun e he keyword operands hparse =>
      find?_insert_of_not_sameWord (h e he keyword operands hparse)
  · have hfind : ∀ text keyword operands, Plan.parse text = .ok (.keyword keyword :: operands) →
        (vocabulary.insert entry).find? keyword = vocabulary.find? keyword := by
      intro text keyword operands hparse
      obtain ⟨found, hmem, left, heq⟩ := Plan.mem_keywords_of_parse hparse
      cases heq
      exact find?_insert_of_not_sameWord (h keyword hmem)
    exact ⟨fun text => compile_congr (hfind text),
      fun expressions => Plan.evaluate_congr fun e _ => hfind e⟩

/-- A condition that does not depend on the operands, under the keyword of the wind in capitals. -/
def capitals : Entry :=
  .constant "WIND" 2 2 (.threshold .windSpeed .less (Decimal.toBinary64 ⟨false, 5, 0⟩))

/-- **An entry can change what an expression means though its keyword is not in the table** of the
language: the keyword may be there in another case. -/
theorem compile_insert_capitals :
    capitals.keyword ∉ Grammar.keywords ∧
      builtin.compile "wind > 5" =
        .ok (.threshold .windSpeed .greater (Decimal.toBinary64 ⟨false, 5, 0⟩)) ∧
      (builtin.insert capitals).compile "wind > 5" =
        .ok (.threshold .windSpeed .less (Decimal.toBinary64 ⟨false, 5, 0⟩)) := by
  refine ⟨by decide, by decide +kernel, by decide +kernel⟩

end Vocabulary

end Fairweather
