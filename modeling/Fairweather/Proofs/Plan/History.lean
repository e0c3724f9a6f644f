import Fairweather.Plan.Catalogue
import Mathlib.Data.List.Forall2
import Mathlib.Data.List.Induction
import Mathlib.Logic.Function.Basic

/-!
# What a vocabulary remembers

A vocabulary under a name of a catalogue is made by steps that may lie far apart, and some of which
were done under other names before a copy was made.

**The history** of a name (`Catalogue.history`) is the list of the entries that were ever added
under it. A copy takes over the history of its source up to then; after that both go on alone.

**Tables are not seen.** The vocabulary under a name is the one that its history makes, no matter
which names share a table (`Catalogue.vocabulary_run`). One step suffices for this
(`Catalogue.vocabulary_step`): a step changes a table only for its sole holder.

**Case.** Two words are the same if their letters differ at most as the capital and the small letter
of ASCII do (`SameWord`). Other letters have no case here: `É` and `é` are different letters.

Main result: `Catalogue.run_remembers`.
-/

namespace Fairweather

/-! ## Words in any case -/

def IsCapital (c : Char) : Prop := 'A' ≤ c ∧ c ≤ 'Z'

/-- The small letter of a capital letter. -/
def IsSmallOf (capital small : Char) : Prop :=
  IsCapital capital ∧ small.toNat = capital.toNat + 32

def SameLetter (c d : Char) : Prop := c = d ∨ IsSmallOf c d ∨ IsSmallOf d c

/-- Two words that differ at most in case. -/
def SameWord (v w : String) : Prop := List.Forall₂ SameLetter v.toList w.toList

/-- The same word without capital letters. -/
def IsLowerCaseOf (word lower : String) : Prop :=
  SameWord word lower ∧ ∀ c ∈ lower.toList, ¬ IsCapital c

theorem isCapital_iff (c : Char) : IsCapital c ↔ 65 ≤ c.toNat ∧ c.toNat ≤ 90 := Iff.rfl

theorem toLower_of_isCapital {c : Char} (h : IsCapital c) : c.toLower.toNat = c.toNat + 32 := by
  have hbound := (isCapital_iff c).mp h
  have hlower : c.toLower.val = c.val + ('a'.val - 'A'.val) := congrArg Char.val (dif_pos h)
  have hsum : c.toLower.toNat = (c.toNat + 32) % 2 ^ 32 := by
    rw [Char.toNat, hlower, UInt32.toNat_add]
    rfl
  omega

theorem toLower_of_not_isCapital {c : Char} (h : ¬ IsCapital c) : c.toLower = c := dif_neg h

theorem toLower_eq_toLower_iff (c d : Char) : c.toLower = d.toLower ↔ SameLetter c d := by
  rw [← Char.toNat_inj]
  unfold SameLetter IsSmallOf
  rw [← Char.toNat_inj]
  -- A small letter is no capital itself, so at most one of the two is raised onto the other.
  by_cases hc : IsCapital c <;> by_cases hd : IsCapital d <;>
    simp only [toLower_of_isCapital, toLower_of_not_isCapital, hc, hd, not_false_eq_true] <;>
    rw [isCapital_iff] at hc hd <;> simp <;> omega

theorem not_isCapital_toLower (c : Char) : ¬ IsCapital c.toLower := by
  by_cases h : IsCapital c
  · rw [isCapital_iff, toLower_of_isCapital h]
    rw [isCapital_iff] at h
    omega
  · rwa [toLower_of_not_isCapital h]

theorem Grammar.lowered_eq_lowered_iff (v w : String) : lowered v = lowered w ↔ SameWord v w := by
  rw [lowered, lowered, String.ofList_inj, ← List.forall₂_eq_eq_eq, List.forall₂_map_left_iff,
    List.forall₂_map_right_iff]
  simp only [toLower_eq_toLower_iff]
  rfl

theorem Grammar.lowered_of_small {word : String} (h : ∀ c ∈ word.toList, ¬ IsCapital c) :
    lowered word = word := by
  rw [lowered, List.map_congr_left (fun c hc => toLower_of_not_isCapital (h c hc)), List.map_id',
    String.ofList_toList]

theorem Grammar.lowered_eq_iff (word lower : String) :
    lowered word = lower ↔ IsLowerCaseOf word lower := by
  constructor
  · rintro rfl
    have hsmall : ∀ c ∈ (lowered word).toList, ¬ IsCapital c := by
      intro c hc
      rw [lowered, String.toList_ofList, List.mem_map] at hc
      obtain ⟨d, -, rfl⟩ := hc
      exact not_isCapital_toLower d
    exact ⟨(lowered_eq_lowered_iff _ _).mp (lowered_of_small hsmall).symm, hsmall⟩
  · rintro ⟨hsame, hsmall⟩
    rw [(lowered_eq_lowered_iff _ _).mpr hsame, lowered_of_small hsmall]

/-! ## The vocabulary of a list of entries -/

namespace Vocabulary

/-- Entries added one after the other. -/
def ofEntries (entries : List Entry) : Vocabulary := entries.foldl insert empty

@[simp] theorem ofEntries_append (entries : List Entry) (entry : Entry) :
    ofEntries (entries ++ [entry]) = (ofEntries entries).insert entry := by
  simp [ofEntries]

theorem find?_ofEntries (entries : List Entry) (keyword : String) :
    (ofEntries entries).find? keyword =
      entries.reverse.find? (Grammar.lowered keyword = ·.key) := by
  induction entries using List.reverseRecOn with
  | nil => rfl
  | append_singleton entries entry ih =>
    rw [ofEntries_append, find?_insert, ih, List.reverse_append, List.reverse_singleton,
      List.singleton_append, List.find?_cons]
    by_cases h : Grammar.lowered keyword = entry.key <;> simp [h]

theorem keywords_nodup (vocabulary : Vocabulary) : vocabulary.keywords.Nodup :=
  (List.mergeSort_perm _ _).nodup_iff.mpr vocabulary.distinct

theorem mem_keywords_insert (vocabulary : Vocabulary) (entry : Entry) (word : String) :
    word ∈ (vocabulary.insert entry).keywords ↔
      entry.key = word ∨ word ∈ vocabulary.keywords := by
  simp only [keywords, List.mem_mergeSort, insert, List.map_cons, List.mem_cons, List.mem_map,
    List.mem_filter]
  grind

theorem mem_keywords_ofEntries (entries : List Entry) (word : String) :
    word ∈ (ofEntries entries).keywords ↔ ∃ entry ∈ entries, entry.key = word := by
  induction entries using List.reverseRecOn with
  | nil => simp [ofEntries, keywords, empty]
  | append_singleton entries entry ih =>
    rw [ofEntries_append, mem_keywords_insert, ih]
    simp only [List.mem_append, List.mem_singleton]
    grind

/-- The last of the entries for a word in any case. -/
def IsLatest (entries : List Entry) (word : String) (entry : Entry) : Prop :=
  ∃ before after, entries = before ++ entry :: after ∧ SameWord entry.keyword word ∧
    ∀ later ∈ after, ¬ SameWord later.keyword word

theorem key_eq_lowered_iff (entry : Entry) (word : String) :
    Grammar.lowered word = entry.key ↔ SameWord entry.keyword word := by
  rw [eq_comm, Entry.key, Grammar.lowered_eq_lowered_iff]

theorem find?_ofEntries_eq_some_iff (entries : List Entry) (word : String) (entry : Entry) :
    (ofEntries entries).find? word = some entry ↔ IsLatest entries word entry := by
  rw [find?_ofEntries, List.find?_eq_some_iff_append]
  simp only [decide_eq_true_eq, Bool.not_eq_true', decide_eq_false_iff_not, key_eq_lowered_iff]
  constructor
  · rintro ⟨hsame, after, before, heq, hafter⟩
    refine ⟨before.reverse, after.reverse, ?_, hsame, ?_⟩
    · rw [← entries.reverse_reverse, heq]
      simp
    · simpa using hafter
  · rintro ⟨before, after, rfl, hsame, hafter⟩
    exact ⟨hsame, after.reverse, before.reverse, by simp, by simpa using hafter⟩

theorem find?_ofEntries_eq_none_iff (entries : List Entry) (word : String) :
    (ofEntries entries).find? word = none ↔
      ∀ entry ∈ entries, ¬ SameWord entry.keyword word := by
  rw [find?_ofEntries, List.find?_eq_none]
  simp [key_eq_lowered_iff]

end Vocabulary

/-! ## Tables and their holders -/

namespace Catalogue

theorem lookup_filter_ne (holds : List (String × Nat)) {name other : String}
    (h : other ≠ name) : (holds.filter (·.1 ≠ name)).lookup other = holds.lookup other := by
  induction holds with
  | nil => rfl
  | cons hold holds ih =>
    by_cases hname : hold.1 = name
    · have hother : (other == hold.1) = false := beq_false_of_ne (hname ▸ h)
      rw [List.filter_cons_of_neg (by simpa using hname), ih, List.lookup_cons, hother]
    · rw [List.filter_cons_of_pos (by simpa using hname), List.lookup_cons, List.lookup_cons, ih]

theorem lookup_rehold (holds : List (String × Nat)) (name other : String) (table : Nat) :
    (rehold holds name table).lookup other =
      if other = name then some table else holds.lookup other := by
  rw [rehold, List.lookup_cons]
  by_cases h : other = name
  · simp [h]
  · rw [if_neg h, beq_false_of_ne h]
    exact lookup_filter_ne holds h

/-- Two names that hold a table count as two holders. -/
theorem eq_of_holders_eq_one {catalogue : Catalogue} {name other : String} {table : Nat}
    (hone : catalogue.holders table = 1) (hname : catalogue.table? name = some table)
    (hother : catalogue.table? other = some table) : other = name := by
  rw [holders, List.countP_eq_length_filter, List.length_eq_one_iff] at hone
  obtain ⟨hold, hfilter⟩ := hone
  have hall : ∀ n, catalogue.table? n = some table → (n, table) = hold := by
    intro n hn
    rw [← List.mem_singleton, ← hfilter]
    simp [mem_holds hn]
  exact congrArg Prod.fst ((hall other hother).trans (hall name hname).symm)

theorem vocabulary_of_table?_none {catalogue : Catalogue} {name : String}
    (h : catalogue.table? name = none) : catalogue.vocabulary name = .empty := by
  simp [vocabulary, h]

section

variable (catalogue : Catalogue) (name other : String)

theorem vocabulary_place (new : Vocabulary) :
    (catalogue.place name new).vocabulary other =
      if other = name then new else catalogue.vocabulary other := by
  have htable : (catalogue.place name new).table? other =
      if other = name then some catalogue.tables.length else catalogue.table? other :=
    lookup_rehold catalogue.holds name other _
  rw [vocabulary, htable]
  by_cases h : other = name
  · simp [h, place]
  · rw [if_neg h, if_neg h, vocabulary]
    cases hheld : catalogue.table? other with
    | none => rfl
    | some table =>
      have hbound : table < catalogue.tables.length := catalogue.inRange _ (mem_holds hheld)
      simp [place, List.getElem?_append_left hbound]

theorem vocabulary_copy (source : String) :
    (catalogue.copy name source).vocabulary other =
      if other = name then catalogue.vocabulary source else catalogue.vocabulary other := by
  unfold copy
  split
  case h_1 hnone => rw [vocabulary_place, vocabulary_of_table?_none hnone]
  case h_2 table hsome =>
    simp only [vocabulary, table?, lookup_rehold] at hsome ⊢
    by_cases h : other = name <;> simp [h, hsome]

theorem vocabulary_register (entry : Entry) :
    (catalogue.register name entry).vocabulary other =
      if other = name then (catalogue.vocabulary name).insert entry
      else catalogue.vocabulary other := by
  unfold register
  split
  case h_1 hnone => rw [vocabulary_place, vocabulary_of_table?_none hnone]
  case h_2 table hsome =>
    split
    case isFalse => rw [vocabulary_place]
    case isTrue hone =>
      have hbound : table < catalogue.tables.length := catalogue.inRange _ (mem_holds hsome)
      by_cases h : other = name
      · subst h
        simp only [vocabulary, table?] at hsome ⊢
        simp [hsome, List.getElem?_eq_getElem hbound]
      · rw [if_neg h]
        -- The table that the other name holds, if it holds one, is not the one that changes.
        have hkept : ∀ kept, catalogue.table? other = some kept → table ≠ kept := by
          rintro kept hheld rfl
          exact h (eq_of_holders_eq_one hone hsome hheld)
        simp only [vocabulary, table?] at hkept ⊢
        cases hheld : catalogue.holds.lookup other with
        | none => rfl
        | some kept => simp [hkept kept hheld]

end

/-! ## Histories -/

/-- The name under which a step changes something. -/
def Step.name : Step → String
  | .new name | .builtin name | .copy name _ | .register name _ => name

/-- The entries of the language, as they are added. -/
def builtinEntries : List Entry := .location :: Measure.all.map .ofMeasure

/-- What a step makes of the histories of all names. -/
def remember (history : String → List Entry) (step : Step) : String → List Entry :=
  match step with
  | .new name => Function.update history name []
  | .builtin name => Function.update history name builtinEntries
  | .copy name source => Function.update history name (history source)
  | .register name entry => Function.update history name (history name ++ [entry])

/-- The entries that steps have added under each name, the last one last. -/
def history (steps : List Step) : String → List Entry := steps.foldl remember fun _ => []

theorem ofEntries_builtinEntries : Vocabulary.ofEntries builtinEntries = .builtin := by
  rw [builtinEntries, Vocabulary.ofEntries, List.foldl_cons, List.foldl_map]
  rfl

theorem vocabulary_step {catalogue : Catalogue} {history : String → List Entry}
    (h : ∀ name, catalogue.vocabulary name = .ofEntries (history name)) (step : Step)
    (name : String) :
    (catalogue.step step).vocabulary name = .ofEntries (remember history step name) := by
  cases step with
  | new target =>
    simp only [Catalogue.step, vocabulary_place, remember, Function.update_apply]
    split
    · rfl
    · exact h name
  | builtin target =>
    simp only [Catalogue.step, vocabulary_place, remember, Function.update_apply]
    split
    · exact ofEntries_builtinEntries.symm
    · exact h name
  | copy target source =>
    simp only [Catalogue.step, vocabulary_copy, remember, Function.update_apply]
    split
    · exact h source
    · exact h name
  | register target entry =>
    simp only [Catalogue.step, vocabulary_register, remember, Function.update_apply]
    split
    · rw [h target, Vocabulary.ofEntries_append]
    · exact h name

/-- After any steps, the vocabulary under a name is the one that its history makes. -/
theorem vocabulary_run (steps : List Step) (name : String) :
    (run steps).vocabulary name = .ofEntries (history steps name) := by
  induction steps using List.reverseRecOn generalizing name with
  | nil => rfl
  | append_singleton steps step ih =>
    rw [run, history, List.foldl_append, List.foldl_append]
    exact vocabulary_step ih step name

theorem history_append {steps later : List Step} {name : String}
    (h : ∀ step ∈ later, step.name ≠ name) :
    history (steps ++ later) name = history steps name := by
  induction later using List.reverseRecOn with
  | nil => rw [List.append_nil]
  | append_singleton later step ih =>
    have hstep : step.name ≠ name := h step (by simp)
    rw [← ih fun s hs => h s (by simp [hs]), ← List.append_assoc, history, List.foldl_append]
    cases step <;> exact Function.update_of_ne hstep.symm _ _

/-- **The last entry counts.** After any steps, a keyword in any case has under a name the entry
that was added last for it in the history of that name, and none if the history has none for it.
Each keyword of the history is listed in lower case once. And steps under other names make no
difference to this, also if one of them holds the same table. -/
theorem run_remembers (steps : List Step) (name : String) :
    (∀ word entry, ((run steps).vocabulary name).find? word = some entry ↔
      Vocabulary.IsLatest (history steps name) word entry) ∧
    (∀ word, ((run steps).vocabulary name).find? word = none ↔
      ∀ entry ∈ history steps name, ¬ SameWord entry.keyword word) ∧
    ((run steps).vocabulary name).keywords.Nodup ∧
    (∀ word, word ∈ ((run steps).vocabulary name).keywords ↔
      ∃ entry ∈ history steps name, IsLowerCaseOf entry.keyword word) ∧
    ∀ later : List Step, (∀ step ∈ later, step.name ≠ name) →
      (∀ word, ((run (steps ++ later)).vocabulary name).find? word =
        ((run steps).vocabulary name).find? word) ∧
      ((run (steps ++ later)).vocabulary name).keywords =
        ((run steps).vocabulary name).keywords := by
  refine ⟨?_, ?_, ?_, ?_, ?_⟩
  · intro word entry
    rw [vocabulary_run, Vocabulary.find?_ofEntries_eq_some_iff]
  · intro word
    rw [vocabulary_run, Vocabulary.find?_ofEntries_eq_none_iff]
  · exact Vocabulary.keywords_nodup _
  · intro word
    rw [vocabulary_run, Vocabulary.mem_keywords_ofEntries]
    simp only [Entry.key, Grammar.lowered_eq_iff]
  · intro later hlater
    have hkept : (run (steps ++ later)).vocabulary name = (run steps).vocabulary name := by
      rw [vocabulary_run, vocabulary_run, history_append hlater]
    simp [hkept]

/-- `WIND` without operands: a calm. -/
def calm : Entry :=
  .constant "WIND" 0 0 (.threshold .windSpeed .less (Decimal.toBinary64 ⟨false, 5, 0⟩))

/-- A copy of the language in which the wind means something else. -/
def calmCopy : List Step := [.builtin "base", .copy "copy" "base", .register "copy" calm]

theorem run_remembers_calmCopy :
    ((run calmCopy).vocabulary "copy").find? "Wind" = some calm ∧
      (∀ step ∈ [Step.register "copy" calm], step.name ≠ "base") ∧
      ((run calmCopy).vocabulary "base").keywords =
        ((run [.builtin "base", .copy "copy" "base"]).vocabulary "base").keywords := by
  have hlatest : Vocabulary.IsLatest (history calmCopy "copy") "Wind" calm := by
    refine ⟨builtinEntries, [], rfl, ?_, by simp⟩
    exact (Grammar.lowered_eq_lowered_iff _ _).mp (by decide)
  have hother : ∀ step ∈ [Step.register "copy" calm], step.name ≠ "base" := by
    simp [Step.name]
  obtain ⟨-, -, -, -, hkept⟩ := run_remembers [.builtin "base", .copy "copy" "base"] "base"
  exact ⟨((run_remembers calmCopy "copy").1 _ _).mpr hlatest, hother, (hkept _ hother).2⟩

end Catalogue

end Fairweather
