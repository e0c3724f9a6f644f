import Mathlib.Data.List.Forall2
import Mathlib.Data.List.TakeWhile
import Fairweather.Proofs.Text.Runs
import Fairweather.Text.Blank

/-!
# Lines and their ends

A text is cut into lines at its line feeds (`lines_eq_splitOn`), and the blanks at both ends of a
line are trimmed. What is trimmed is told from what is left: a text is blanks, its trimmed text,
which neither begins nor ends with a blank, and blanks again, in one way only (`trim_eq_iff`).

**Other rules for lines.** In text files a carriage return in front of a line feed belongs to the
line's end, and behind the last line feed there is no line unless something stands there
(`fileLines`). As a carriage return is a blank and no line at all trims to nothing, the two rules
differ by empty lines only, once lines are trimmed (`filter_trim_fileLines`).
-/

namespace Fairweather

namespace Text

/-! ## Trimming -/

variable {text core before after : List Char}

theorem trim_append (hbefore : Run isBlank before) (hafter : Run isBlank after)
    (hopens : Stops isBlank core) (hcloses : Stops isBlank core.reverse) :
    trim (before ++ core ++ after) = core := by
  by_cases hcore : core = []
  · have hblank : (before ++ core ++ after).dropWhile isBlank = [] := by
      rw [List.dropWhile_eq_nil_iff, hcore, List.append_nil]
      intro c hc
      rcases List.mem_append.1 hc with h | h
      · exact hbefore c h
      · exact hafter c h
    rw [trim, hblank, hcore]
    rfl
  · have hstops : Stops isBlank (core ++ after) := by
      cases core with
      | nil => exact absurd rfl hcore
      | cons c core => exact stops_cons.2 (stops_cons.1 hopens)
    rw [trim, List.append_assoc, dropWhile_run hbefore hstops, List.reverse_append,
      dropWhile_run (run_reverse hafter) hcloses, List.reverse_reverse]

/-- A text is its trimmed text with blanks around it. -/
theorem exists_trim (text : List Char) :
    ∃ before after, Run isBlank before ∧ Run isBlank after ∧ text = before ++ trim text ++ after ∧
      Stops isBlank (trim text) ∧ Stops isBlank (trim text).reverse := by
  have hfront : text.takeWhile isBlank ++ text.dropWhile isBlank = text :=
    List.takeWhile_append_dropWhile
  have hstops : Stops isBlank (text.dropWhile isBlank) := stops_dropWhile
  have hbefore : Run isBlank (text.takeWhile isBlank) := run_takeWhile
  unfold trim
  generalize text.takeWhile isBlank = before at *
  generalize text.dropWhile isBlank = front at *
  have hback : front = (front.reverse.dropWhile isBlank).reverse ++
      (front.reverse.takeWhile isBlank).reverse := by
    rw [← List.reverse_append, List.takeWhile_append_dropWhile, List.reverse_reverse]
  have hafter : Run isBlank (front.reverse.takeWhile isBlank).reverse := run_reverse run_takeWhile
  refine ⟨before, _, hbefore, hafter, ?_, ?_, ?_⟩
  · rw [List.append_assoc, ← hback, hfront]
  · rw [hback] at hstops
    exact stops_of_append hstops
  · rw [List.reverse_reverse]
    exact stops_dropWhile

/-- **Trimming** is told by what it takes away and what it leaves. -/
theorem trim_eq_iff : trim text = core ↔ ∃ before after, Run isBlank before ∧ Run isBlank after ∧
    text = before ++ core ++ after ∧ Stops isBlank core ∧ Stops isBlank core.reverse := by
  refine ⟨?_, fun ⟨before, after, hbefore, hafter, htext, hopens, hcloses⟩ => ?_⟩
  · rintro rfl
    exact exists_trim text
  · rw [htext]
    exact trim_append hbefore hafter hopens hcloses

theorem trim_append_blank {c : Char} (hc : isBlank c) : trim (text ++ [c]) = trim text := by
  obtain ⟨before, after, hbefore, hafter, htext, hopens, hcloses⟩ := exists_trim text
  refine trim_eq_iff.2 ⟨before, after ++ [c], hbefore, ?_, ?_, hopens, hcloses⟩
  · intro d hd
    rcases List.mem_append.1 hd with h | h
    · exact hafter d h
    · rwa [List.mem_singleton.1 h]
  · rw [← List.append_assoc, ← htext]

theorem mem_of_mem_trim {c : Char} (h : c ∈ trim text) : c ∈ text := by
  obtain ⟨before, after, -, -, htext, -, -⟩ := exists_trim text
  rw [htext]
  simp [h]

/-! ## Lines -/

theorem lines_ne_nil (text : List Char) : lines text ≠ [] := by
  cases text with
  | nil => simp [lines]
  | cons c rest =>
    unfold lines
    split
    · simp
    · split <;> simp

theorem exists_lines_cons {c : Char} (hc : c ≠ '\n') (rest : List Char) :
    ∃ line more, lines rest = line :: more ∧ lines (c :: rest) = (c :: line) :: more := by
  obtain ⟨line, more, hrest⟩ := List.exists_cons_of_ne_nil (lines_ne_nil rest)
  exact ⟨line, more, hrest, by rw [lines, if_neg hc, hrest]⟩

theorem lines_eq_splitOn (text : List Char) : lines text = text.splitOn '\n' := by
  induction text with
  | nil => rfl
  | cons c rest ih =>
    rw [List.splitOn_cons_eq_if_modifyHead, ← ih]
    by_cases hc : c = '\n'
    · simp [lines, hc]
    · obtain ⟨line, more, hrest, hlines⟩ := exists_lines_cons hc rest
      simp [hlines, hrest, hc]

theorem not_mem_of_mem_lines {line : List Char} (h : line ∈ lines text) : '\n' ∉ line := by
  induction text generalizing line with
  | nil =>
    rw [lines, List.mem_singleton] at h
    simp [h]
  | cons c rest ih =>
    by_cases hc : c = '\n'
    · rw [lines, if_pos hc, List.mem_cons] at h
      rcases h with rfl | h
      · simp
      · exact ih h
    · obtain ⟨first, more, hrest, hlines⟩ := exists_lines_cons hc rest
      rw [hlines, List.mem_cons] at h
      rcases h with rfl | h
      · have hfirst : '\n' ∉ first := ih (by simp [hrest])
        simp [Ne.symm hc, hfirst]
      · exact ih (by simp [hrest, h])

theorem exists_lines_append (text : List Char) : ∃ front last, ∀ tail, '\n' ∉ tail →
    lines (text ++ tail) = front ++ [last ++ tail] := by
  induction text with
  | nil =>
    refine ⟨[], [], fun tail htail => ?_⟩
    rw [List.nil_append, lines_eq_splitOn, List.splitOn_eq_singleton htail]
    rfl
  | cons c rest ih =>
    obtain ⟨front, last, hlines⟩ := ih
    by_cases hc : c = '\n'
    · refine ⟨[] :: front, last, fun tail htail => ?_⟩
      rw [List.cons_append, lines, if_pos hc, hlines tail htail]
      rfl
    · cases front with
      | nil =>
        refine ⟨[], c :: last, fun tail htail => ?_⟩
        rw [List.cons_append, lines, if_neg hc, hlines tail htail]
        rfl
      | cons line front =>
        refine ⟨(c :: line) :: front, last, fun tail htail => ?_⟩
        rw [List.cons_append, lines, if_neg hc, hlines tail htail]
        rfl

/-! ## Lines of text files -/

/-- The lines of a text file: a line ends with a line feed, with or without a carriage return in
front, or with the text. -/
def fileLines : List Char → List (List Char)
  | [] => []
  | '\r' :: '\n' :: rest => [] :: fileLines rest
  | '\n' :: rest => [] :: fileLines rest
  | c :: rest =>
    match fileLines rest with
    | [] => [[c]]
    | line :: more => (c :: line) :: more

/-- The lines between line feeds are the lines of the text file, some of them with a carriage return
at the end, and perhaps an empty line behind them. -/
theorem exists_lines_eq_append (text : List Char) : ∃ marked last,
    lines text = marked ++ last ∧ (∀ line ∈ last, line = []) ∧
      List.Forall₂ (fun line line' => line' = line ∨ line' = line ++ ['\r']) (fileLines text)
        marked := by
  fun_induction fileLines text with
  | case1 => exact ⟨[], [[]], rfl, by simp, .nil⟩
  | case2 rest ih =>
    obtain ⟨marked, last, hlines, hlast, hmarked⟩ := ih
    exact ⟨['\r'] :: marked, last, by simp [lines, hlines], hlast, .cons (.inr rfl) hmarked⟩
  | case3 rest ih =>
    obtain ⟨marked, last, hlines, hlast, hmarked⟩ := ih
    exact ⟨[] :: marked, last, by simp [lines, hlines], hlast, .cons (.inl rfl) hmarked⟩
  | case4 c rest hreturn hfeed hnil ih =>
    obtain ⟨marked, last, hlines, hlast, hmarked⟩ := ih
    obtain ⟨line, more, hrest, hcons⟩ := exists_lines_cons hfeed rest
    rw [hnil, List.forall₂_nil_left_iff] at hmarked
    rw [hmarked, List.nil_append, hrest] at hlines
    rw [← hlines, List.forall_mem_cons] at hlast
    exact ⟨[[c]], more, by rw [hcons, hlast.1]; rfl, hlast.2, .cons (.inl rfl) .nil⟩
  | case5 c rest hreturn hfeed line more hcons ih =>
    obtain ⟨marked, last, hlines, hlast, hmarked⟩ := ih
    rw [hcons] at hmarked
    obtain ⟨line', more', hline, hmore, rfl⟩ := List.forall₂_cons_left_iff.1 hmarked
    refine ⟨(c :: line') :: more', last, ?_, hlast, .cons ?_ hmore⟩
    · rw [lines, if_neg hfeed, hlines]
      rfl
    · rcases hline with rfl | rfl
      · exact .inl rfl
      · exact .inr rfl

/-- **The rule for lines makes no difference** to a test of trimmed lines that empty lines fail. -/
theorem filter_trim_fileLines {test : List Char → Bool} (htest : test [] = false)
    (text : List Char) :
    ((fileLines text).map trim).filter test = ((lines text).map trim).filter test := by
  obtain ⟨marked, last, hlines, hlast, hmarked⟩ := exists_lines_eq_append text
  have htrim : (fileLines text).map trim = marked.map trim := by
    rw [← List.forall₂_eq_eq_eq, List.forall₂_map_left_iff, List.forall₂_map_right_iff]
    refine hmarked.imp fun line line' hline => ?_
    rcases hline with rfl | rfl
    · rfl
    · exact (trim_append_blank (by decide)).symm
  have hempty : (last.map trim).filter test = [] := by
    rw [List.filter_eq_nil_iff]
    intro line hline
    obtain ⟨line, hmem, rfl⟩ := List.mem_map.1 hline
    rw [hlast line hmem]
    simp [trim, htest]
  rw [htrim, hlines, List.map_append, List.filter_append, hempty, List.append_nil]

end Text

end Fairweather
