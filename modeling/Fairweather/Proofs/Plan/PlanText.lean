import Fairweather.Plan.Lines
import Fairweather.Proofs.Expression.Blanks
import Fairweather.Proofs.Plan.Lockstep

/-!
# Plan texts

A plan text is read line by line, and nothing is lost: the expressions of two texts with a line feed
between them are those of the one and then those of the other, a carriage return in front of the
line feed or not (`Plan.expressionChars_append`, `Plan.expressionChars_append_return`).

**What can be read.** An expression that is read from a plan text is a line of its own that neither
begins nor ends with a blank, is not empty and is no comment (`Plan.IsExpressionLine`). Such lines,
put together with line feeds, are read back as they are (`Plan.expressions_intercalate`).

**What it means.** The blanks around a line count neither in a plan nor in the grammar. So with any
keywords an expression comes to the same with blanks around it and without; where it cannot be read,
neither can be, for the same reason (`Vocabulary.compile_trim`).

Main result: `Plan.expressions_lines_and_compile`.
-/

namespace Fairweather

open Text

namespace Plan

/-! ## Line by line -/

theorem expressionChars_append (a b : List Char) :
    expressionChars (a ++ '\n' :: b) = expressionChars a ++ expressionChars b := by
  simp only [expressionChars, lines_eq_splitOn, List.splitOn_append_cons_self, List.map_append,
    List.filter_append]

theorem expressionChars_append_return (a : List Char) :
    expressionChars (a ++ ['\r']) = expressionChars a := by
  obtain ⟨front, last, hlines⟩ := exists_lines_append a
  have hplain := hlines [] (by simp)
  rw [List.append_nil, List.append_nil] at hplain
  rw [expressionChars, expressionChars, hlines ['\r'] (by decide), hplain]
  simp only [List.map_append, List.map_cons, trim_append_blank (show isBlank '\r' by decide)]

theorem expressionChars_of_not_mem {x : List Char} (h : '\n' ∉ x) :
    expressionChars x = [trim x].filter isExpression := by
  rw [expressionChars, lines_eq_splitOn, List.splitOn_eq_singleton h, List.map_singleton]

theorem expressionChars_eq_fileLines (text : List Char) :
    expressionChars text = ((fileLines text).map trim).filter isExpression :=
  (filter_trim_fileLines rfl text).symm

/-! ## What can be read -/

/-- **An expression as it stands in a plan text**, without the blanks around it. -/
structure IsExpressionLine (line : String) : Prop where
  ne_empty : line ≠ ""
  opens : ∀ c ∈ line.toList.head?, isBlank c = false
  closes : ∀ c ∈ line.toList.getLast?, isBlank c = false
  oneLine : '\n' ∉ line.toList
  noComment : line.toList.head? ≠ some '#'

theorem isExpression_iff {line : List Char} :
    isExpression line ↔ line ≠ [] ∧ line.head? ≠ some '#' := by
  cases line with
  | nil => simp [isExpression]
  | cons c line => simp [isExpression]

theorem stops_reverse_iff {kind : Char → Bool} {text : List Char} :
    Stops kind text.reverse ↔ ∀ c ∈ text.getLast?, kind c = false := by
  rw [Stops, List.head?_reverse]

theorem isExpressionLine_of_mem {text line : String} (h : line ∈ expressions text) :
    IsExpressionLine line := by
  obtain ⟨chars, hchars, rfl⟩ := List.mem_map.1 h
  obtain ⟨hmem, hexpression⟩ := List.mem_filter.1 hchars
  obtain ⟨raw, hraw, rfl⟩ := List.mem_map.1 hmem
  obtain ⟨-, -, -, -, -, hopens, hcloses⟩ := exists_trim raw
  obtain ⟨hne, hcomment⟩ := isExpression_iff.1 hexpression
  refine ⟨?_, ?_, ?_, ?_, ?_⟩
  · intro hempty
    exact hne (String.ofList_injective hempty)
  · rwa [String.toList_ofList]
  · rwa [String.toList_ofList, ← stops_reverse_iff]
  · rw [String.toList_ofList]
    exact fun hfeed => not_mem_of_mem_lines hraw (mem_of_mem_trim hfeed)
  · rwa [String.toList_ofList]

/-- A line that is neither blank nor a comment holds one expression. -/
theorem expressions_of_not_mem {x : String} (hline : '\n' ∉ x.toList)
    (hblank : trim x.toList ≠ []) (hcomment : (trim x.toList).head? ≠ some '#') :
    expressions x = [String.ofList (trim x.toList)] := by
  rw [expressions, expressionChars_of_not_mem hline,
    List.filter_cons_of_pos (isExpression_iff.2 ⟨hblank, hcomment⟩)]
  rfl

theorem IsExpressionLine.expressions_eq {line : String} (h : IsExpressionLine line) :
    expressions line = [line] := by
  have htrim : trim line.toList = line.toList :=
    trim_eq_iff.2 ⟨[], [], run_nil, run_nil, by simp, h.opens, stops_reverse_iff.2 h.closes⟩
  have hne : line.toList ≠ [] := fun hnil => h.ne_empty (String.toList_eq_nil_iff.1 hnil)
  rw [expressions_of_not_mem h.oneLine (by rwa [htrim]) (by rw [htrim]; exact h.noComment), htrim,
    String.ofList_toList]

theorem expressions_append (a b : String) :
    expressions (a ++ "\n" ++ b) = expressions a ++ expressions b := by
  have htext : (a ++ "\n" ++ b).toList = a.toList ++ '\n' :: b.toList := by simp
  rw [expressions, htext, expressionChars_append, List.map_append]
  rfl

theorem expressions_append_return (a b : String) :
    expressions (a ++ "\r\n" ++ b) = expressions a ++ expressions b := by
  have htext : (a ++ "\r\n" ++ b).toList = (a.toList ++ ['\r']) ++ '\n' :: b.toList := by simp
  rw [expressions, htext, expressionChars_append, expressionChars_append_return, List.map_append]
  rfl

/-- **Lines are read back** as they are. -/
theorem expressions_intercalate {xs : List String} (h : ∀ x ∈ xs, IsExpressionLine x) :
    expressions ("\n".intercalate xs) = xs := by
  induction xs with
  | nil => rfl
  | cons x xs ih =>
    obtain ⟨hx, hxs⟩ := List.forall_mem_cons.1 h
    by_cases hnil : xs = []
    · rw [hnil, String.intercalate_singleton, hx.expressions_eq]
    · rw [String.intercalate_cons_of_ne_nil hnil, expressions_append, hx.expressions_eq, ih hxs]
      rfl

end Plan

/-! ## What it means -/

/-- **Blanks around an expression do not count.** With any keywords, the text without them comes to
the same, or both texts are unreadable for the same reason, each under its own name. -/
theorem Vocabulary.compile_trim (vocabulary : Vocabulary) (x : String) :
    let trimmed := String.ofList (trim x.toList)
    vocabulary.compile trimmed = vocabulary.compile x ∨
    ∃ f g : SyntaxFault, f.Agrees g ∧
      vocabulary.compile trimmed = .error (.unreadableExpression trimmed f) ∧
      vocabulary.compile x = .error (.unreadableExpression x g) := by
  intro trimmed
  rcases Grammar.parse_trim x with ⟨tokens, htrimmed, hx⟩ | ⟨f, g, hfaults, htrimmed, hx⟩
  · have hparse : ∀ text, Grammar.parse text = .ok tokens → Plan.parse text = .ok tokens :=
      fun text h => by rw [Plan.parse, h]; rfl
    rw [compile, compile, hparse _ htrimmed, hparse _ hx]
    dsimp only
    split
    · exact .inl rfl
    · exact .inl rfl
    · exact .inr ⟨_, _, .same _, rfl, rfl⟩
  · have hparse : ∀ text fault, Grammar.parse text = .error fault →
        vocabulary.compile text = .error (.unreadableExpression text fault) :=
      fun text fault h => vocabulary.compile_of_parse_error (by rw [Plan.parse, h]; rfl)
    exact .inr ⟨f, g, hfaults, hparse _ _ htrimmed, hparse _ _ hx⟩

namespace Plan

/-- **A plan is read line by line, and nothing is lost.** The expressions of two texts with a line's
end between them, of either kind, are those of the one and then those of the other; and it makes no
difference which rule for the last line of a text is followed. What is read is an expression on a
line of its own; and all such expressions, put together with line feeds, are read back as they are,
those that were read before among them. From a line that is neither blank nor a comment one
expression is read, and with any keywords it comes to the same as the line itself, or both are
unreadable for the same reason, each under its own name. -/
theorem expressions_lines_and_compile :
    (∀ a b, expressions (a ++ "\n" ++ b) = expressions a ++ expressions b) ∧
    (∀ a b, expressions (a ++ "\r\n" ++ b) = expressions a ++ expressions b) ∧
    (∀ text, expressions text =
      (((fileLines text.toList).map trim).filter isExpression).map String.ofList) ∧
    (∀ text, ∀ line ∈ expressions text, IsExpressionLine line) ∧
    (∀ xs, (∀ x ∈ xs, IsExpressionLine x) → expressions ("\n".intercalate xs) = xs) ∧
    (∀ text, expressions ("\n".intercalate (expressions text)) = expressions text) ∧
    ∀ x, '\n' ∉ x.toList → trim x.toList ≠ [] → (trim x.toList).head? ≠ some '#' →
      ∃ line, expressions x = [line] ∧ ∀ vocabulary : Vocabulary,
        vocabulary.compile line = vocabulary.compile x ∨
        ∃ f g : SyntaxFault, f.Agrees g ∧
          vocabulary.compile line = .error (.unreadableExpression line f) ∧
          vocabulary.compile x = .error (.unreadableExpression x g) := by
  refine ⟨expressions_append, expressions_append_return, fun text => ?_,
    fun text line => isExpressionLine_of_mem, fun xs => expressions_intercalate, fun text => ?_,
    fun x hline hblank hcomment => ?_⟩
  · rw [expressions, expressionChars_eq_fileLines]
  · exact expressions_intercalate fun line => isExpressionLine_of_mem
  · exact ⟨_, expressions_of_not_mem hline hblank hcomment,
      fun vocabulary => vocabulary.compile_trim x⟩

end Plan

end Fairweather
