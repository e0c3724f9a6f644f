import Fairweather.Proofs.Plan.CanonicalText
import Fairweather.Proofs.Plan.History

/-!
# Giving operands to an entry

A vocabulary gives the operands of an expression to the entry of its keyword. The entry may be of
any kind: it says how many operands it takes, but it may take more or fewer, and put others in their
place. What comes of this is settled by three questions in a row.

**Is there an entry?** Keywords are the same if they differ at most in case, and no two entries of a
vocabulary have the same (`Vocabulary.find?_eq_some_iff`).

**Are there as many operands as it says?** If there is no entry, or another number of operands, the
operands are left as they were, and no entry has been asked for its meaning: with any other meanings
the vocabulary gives the same (`Vocabulary.apply_reinterpret`).

**Does it take them all?** A condition counts only if no operand is left
(`Vocabulary.apply_eq_ok_iff`). An entry that takes operands one by one (`Entry.taking`) comes to
the end of them if it takes too many, and leaves the last of them if it takes too few.

The entries of the language take what they say, and ask for operands of the right kind
(`Vocabulary.apply_builtin_eq_ok_iff`).

Main result: `Vocabulary.apply_ok_iff_and_faults`.
-/

namespace Fairweather

variable {vocabulary : Vocabulary} {keyword : String} {stack rest : OperandStack} {entry : Entry}
  {condition : Condition}

/-! ## Taking operands -/

namespace OperandStack

/-- Operands taken one by one. Where none is left to be taken, those that were taken before are
gone. -/
def takeEach : Nat → OperandStack → Except PlanFault (List Token) × OperandStack
  | 0, stack => (.ok [], stack)
  | pops + 1, stack =>
    match stack.pop? with
    | none => (.error .noOperand, stack)
    | some (token, rest) =>
      let (tokens, rest) := takeEach pops rest
      (tokens.map (token :: ·), rest)

/-- **Taking one by one** takes the next operands together, or all of them. -/
theorem takeEach_eq (pops : Nat) (stack : OperandStack) :
    stack.takeEach pops = if pops ≤ stack.size
      then (.ok (stack.toList.take pops), ⟨stack.toList.drop pops⟩)
      else (.error .noOperand, .empty) := by
  obtain ⟨tokens⟩ := stack
  induction pops generalizing tokens with
  | zero => rfl
  | succ pops ih =>
    cases tokens with
    | nil => rfl
    | cons token tokens =>
      have hnext : takeEach (pops + 1) ⟨token :: tokens⟩ =
          ((takeEach pops ⟨tokens⟩).1.map (token :: ·), (takeEach pops ⟨tokens⟩).2) := rfl
      rw [hnext, ih]
      by_cases h : pops ≤ tokens.length <;> simp [size, h, Except.map]

end OperandStack

/-- An entry that takes `pops` operands one by one, whatever they are, and makes a condition of
them. -/
def Entry.taking (keyword : String) (arity pops : Nat) (make : List Token → Condition) : Entry where
  keyword := keyword
  arity := arity
  interpret stack :=
    let (tokens, rest) := stack.takeEach pops
    (tokens.map make, rest)

theorem Entry.interpret_taking (name : String) (arity pops : Nat) (make : List Token → Condition)
    (stack : OperandStack) : (taking name arity pops make).interpret stack =
      if pops ≤ stack.size then (.ok (make (stack.toList.take pops)), ⟨stack.toList.drop pops⟩)
      else (.error .noOperand, .empty) := by
  have hinterpret : (taking name arity pops make).interpret stack =
      ((stack.takeEach pops).1.map make, (stack.takeEach pops).2) := rfl
  rw [hinterpret, OperandStack.takeEach_eq]
  by_cases h : pops ≤ stack.size <;> simp [h, Except.map]

namespace Vocabulary

/-! ## Finding an entry -/

theorem eq_of_sameWord {other : Entry} (h : entry ∈ vocabulary.entries)
    (hother : other ∈ vocabulary.entries) (hentry : SameWord entry.keyword keyword)
    (hsame : SameWord other.keyword keyword) : entry = other := by
  rw [← key_eq_lowered_iff] at hentry hsame
  exact List.inj_on_of_nodup_map vocabulary.distinct h hother (hentry.symm.trans hsame)

/-- **The entry of a keyword** is the one with that keyword in any case. -/
theorem find?_eq_some_iff : vocabulary.find? keyword = some entry ↔
    entry ∈ vocabulary.entries ∧ SameWord entry.keyword keyword := by
  have hkey : ∀ e : Entry, e.key = Grammar.lowered keyword ↔ SameWord e.keyword keyword := by
    intro e
    rw [← key_eq_lowered_iff, eq_comm]
  constructor
  · intro h
    have hsame := List.find?_some h
    rw [decide_eq_true_eq, hkey] at hsame
    exact ⟨List.mem_of_find?_eq_some h, hsame⟩
  · rintro ⟨hmem, hsame⟩
    cases hfind : vocabulary.find? keyword with
    | none =>
      have hkeyless := List.find?_eq_none.1 hfind entry hmem
      exact absurd (decide_eq_true ((hkey entry).2 hsame)) hkeyless
    | some other =>
      have hother := List.find?_some hfind
      rw [decide_eq_true_eq, hkey] at hother
      rw [eq_of_sameWord hmem (List.mem_of_find?_eq_some hfind) hsame hother]

theorem find?_eq_none_iff : vocabulary.find? keyword = none ↔
    ∀ entry ∈ vocabulary.entries, ¬ SameWord entry.keyword keyword := by
  rw [Option.eq_none_iff_forall_ne_some]
  simp only [ne_eq, find?_eq_some_iff, not_and]

/-! ## Applying an entry -/

/-- A condition counts only if no operand is left. -/
def settle (keyword : String) :
    Except PlanFault Condition × OperandStack → Except PlanFault Condition × OperandStack
  | (.error fault, rest) => (.error fault, rest)
  | (.ok condition, rest) =>
    if rest.isEmpty then (.ok condition, rest) else (.error (.malformed keyword .leftOver), rest)

theorem isEmpty_iff : stack.isEmpty = true ↔ stack = .empty := by
  obtain ⟨tokens⟩ := stack
  simp [OperandStack.isEmpty, OperandStack.empty]

theorem settle_eq_ok_iff {outcome : Except PlanFault Condition × OperandStack} :
    settle keyword outcome = (.ok condition, rest) ↔
      rest = .empty ∧ outcome = (.ok condition, .empty) := by
  obtain ⟨fault | found, left⟩ := outcome
  · simp [settle]
  · rw [settle]
    by_cases h : left.isEmpty
    · rw [if_pos h, isEmpty_iff.1 h]
      simp [eq_comm, and_comm]
    · have hne : left ≠ .empty := fun heq => h (isEmpty_iff.2 heq)
      simp [h, hne]

theorem apply_of_find?_eq_none (h : vocabulary.find? keyword = none) :
    vocabulary.apply keyword stack = (.error (.unknownKeyword keyword), stack) := by
  rw [apply, h]

theorem apply_of_size_ne (h : vocabulary.find? keyword = some entry)
    (hsize : stack.size ≠ entry.arity) : vocabulary.apply keyword stack =
      (.error (.malformed keyword (.count entry.arity stack.size)), stack) := by
  rw [apply, h]
  exact if_neg hsize

theorem apply_of_size_eq (h : vocabulary.find? keyword = some entry)
    (hsize : stack.size = entry.arity) :
    vocabulary.apply keyword stack = settle keyword (entry.interpret stack) := by
  rw [apply, h]
  dsimp only
  rw [if_pos hsize]
  rcases entry.interpret stack with ⟨fault | condition, rest⟩ <;> rfl

/-- **When a condition comes of a keyword and its operands**: when the entry takes as many as there
are and leaves none. -/
theorem apply_eq_ok_iff : vocabulary.apply keyword stack = (.ok condition, rest) ↔
    rest = .empty ∧ ∃ entry, vocabulary.find? keyword = some entry ∧ stack.size = entry.arity ∧
      entry.interpret stack = (.ok condition, .empty) := by
  cases hfind : vocabulary.find? keyword with
  | none => simp [apply_of_find?_eq_none hfind]
  | some entry =>
    by_cases hsize : stack.size = entry.arity
    · simp [apply_of_size_eq hfind hsize, settle_eq_ok_iff, hsize]
    · simp [apply_of_size_ne hfind hsize, hsize]

/-! ## Entries that are not asked -/

/-- The same keywords with other meanings. -/
def reinterpret (vocabulary : Vocabulary)
    (meaning : Entry → OperandStack → Except PlanFault Condition × OperandStack) :
    Vocabulary where
  entries := vocabulary.entries.map fun entry => { entry with interpret := meaning entry }
  distinct := by
    rw [List.map_map]
    exact vocabulary.distinct

theorem find?_reinterpret (vocabulary : Vocabulary) (keyword : String)
    (meaning : Entry → OperandStack → Except PlanFault Condition × OperandStack) :
    (vocabulary.reinterpret meaning).find? keyword =
      (vocabulary.find? keyword).map fun entry => { entry with interpret := meaning entry } :=
  List.find?_map ..

/-- **An entry is asked for its meaning** only if it has as many operands as it takes. -/
theorem apply_reinterpret
    (h : ∀ entry, vocabulary.find? keyword = some entry → stack.size ≠ entry.arity)
    (meaning : Entry → OperandStack → Except PlanFault Condition × OperandStack) :
    (vocabulary.reinterpret meaning).apply keyword stack = vocabulary.apply keyword stack := by
  have hfind := vocabulary.find?_reinterpret keyword meaning
  cases hfound : vocabulary.find? keyword with
  | none =>
    rw [hfound, Option.map_none] at hfind
    rw [apply_of_find?_eq_none hfind, apply_of_find?_eq_none hfound]
  | some entry =>
    have hsize := h entry hfound
    rw [hfound, Option.map_some] at hfind
    rw [apply_of_size_ne hfind hsize, apply_of_size_ne hfound hsize]

/-! ## Entries that take too many or too few -/

/-- **What comes of an entry that takes operands one by one**, by how many it takes. -/
theorem apply_taking {name : String} {pops : Nat} {make : List Token → Condition}
    (h : vocabulary.find? keyword = some (.taking name stack.size pops make)) :
    (pops = stack.size → vocabulary.apply keyword stack = (.ok (make stack.toList), .empty)) ∧
    (pops < stack.size → vocabulary.apply keyword stack =
      (.error (.malformed keyword .leftOver), ⟨stack.toList.drop pops⟩)) ∧
    (stack.size < pops → vocabulary.apply keyword stack = (.error .noOperand, .empty)) := by
  rw [apply_of_size_eq h rfl, Entry.interpret_taking]
  refine ⟨fun hpops => ?_, fun hpops => ?_, fun hpops => ?_⟩
  · subst hpops
    rw [if_pos le_rfl, OperandStack.size, List.take_length, List.drop_length]
    rfl
  · have hleft : (⟨stack.toList.drop pops⟩ : OperandStack).isEmpty = false := by
      rw [← Bool.not_eq_true, isEmpty_iff, OperandStack.empty, OperandStack.mk.injEq,
        List.drop_eq_nil_iff]
      exact not_le.2 hpops
    rw [if_pos hpops.le, settle, hleft]
    rfl
  · rw [if_neg (not_le.2 hpops)]
    rfl

/-! ## The entries of the language -/

theorem mem_builtin_iff :
    entry ∈ builtin.entries ↔ entry = .location ∨ ∃ m, entry = .ofMeasure m := by
  have hentries : builtin.entries = Measure.all.reverse.map .ofMeasure ++ [.location] := rfl
  have hall : ∀ m, m ∈ Measure.all := by
    intro m
    cases m <;> decide
  rw [hentries, List.mem_append, List.mem_map, List.mem_singleton, or_comm]
  simp only [List.mem_reverse, hall, true_and, eq_comm]

theorem location_eq_ok_iff :
    stack.size = Entry.location.arity ∧ Entry.location.interpret stack = (.ok condition, .empty) ↔
      ∃ x y, stack.toList = [.point x y] ∧ condition = .location ⟨x, y⟩ := by
  obtain ⟨tokens⟩ := stack
  constructor
  · rintro ⟨hsize, hinterpret⟩
    obtain ⟨token, rfl⟩ := List.length_eq_one_iff.1 hsize
    cases token with
    | point x y =>
      cases hinterpret
      exact ⟨x, y, rfl, rfl⟩
    | keyword _ | comparison _ | number _ => cases hinterpret
  · rintro ⟨x, y, rfl, rfl⟩
    exact ⟨rfl, rfl⟩

theorem ofMeasure_eq_ok_iff {m : Measure} :
    stack.size = (Entry.ofMeasure m).arity ∧
        (Entry.ofMeasure m).interpret stack = (.ok condition, .empty) ↔
      ∃ c x, (c = .greater ∨ c = .less) ∧ stack.toList = [.comparison c, .number x] ∧
        condition = .threshold m c x := by
  obtain ⟨tokens⟩ := stack
  constructor
  · rintro ⟨hsize, hinterpret⟩
    obtain ⟨first, second, rfl⟩ := List.length_eq_two.1 hsize
    rcases first with _ | (_ | _ | _) | _ | _ <;> rcases second with _ | _ | x | _ <;>
      cases hinterpret
    · exact ⟨.greater, x, .inl rfl, rfl, rfl⟩
    · exact ⟨.less, x, .inr rfl, rfl, rfl⟩
  · rintro ⟨c, x, rfl | rfl, rfl, rfl⟩ <;> exact ⟨rfl, rfl⟩

/-- **What the entries of the language take**: `location` a point, and the keyword of a measure `>`
or `<` and a number. -/
theorem apply_builtin_eq_ok_iff : builtin.apply keyword stack = (.ok condition, rest) ↔
    rest = .empty ∧
      ((SameWord Grammar.location keyword ∧
          ∃ x y, stack.toList = [.point x y] ∧ condition = .location ⟨x, y⟩) ∨
        ∃ m : Measure, SameWord m.keyword keyword ∧ ∃ c x, (c = .greater ∨ c = .less) ∧
          stack.toList = [.comparison c, .number x] ∧ condition = .threshold m c x) := by
  rw [apply_eq_ok_iff]
  simp only [find?_eq_some_iff, mem_builtin_iff, ← location_eq_ok_iff, ← ofMeasure_eq_ok_iff]
  refine and_congr_right fun _ => ?_
  constructor
  · rintro ⟨entry, ⟨rfl | ⟨m, rfl⟩, hsame⟩, h⟩
    · exact .inl ⟨hsame, h⟩
    · exact .inr ⟨m, hsame, h⟩
  · rintro (⟨hsame, h⟩ | ⟨m, hsame, h⟩)
    · exact ⟨.location, ⟨.inl rfl, hsame⟩, h⟩
    · exact ⟨.ofMeasure m, ⟨.inr ⟨m, rfl⟩, hsame⟩, h⟩

/-- **The entries of the language never come to the end of their operands.** -/
theorem apply_builtin_ne_noOperand (keyword : String) (stack : OperandStack) :
    (builtin.apply keyword stack).1 ≠ .error .noOperand := by
  cases hfind : builtin.find? keyword with
  | none => simp [apply_of_find?_eq_none hfind]
  | some entry =>
    by_cases hsize : stack.size = entry.arity
    · rw [apply_of_size_eq hfind hsize]
      obtain ⟨tokens⟩ := stack
      rcases mem_builtin_iff.1 (find?_eq_some_iff.1 hfind).1 with rfl | ⟨m, rfl⟩
      · obtain ⟨token, rfl⟩ := List.length_eq_one_iff.1 hsize
        cases token <;> exact nofun
      · obtain ⟨first, second, rfl⟩ := List.length_eq_two.1 hsize
        rcases first with _ | (_ | _ | _) | _ | _ <;> cases second <;> exact nofun
    · simp [apply_of_size_ne hfind hsize]

/-- **An entry gets exactly its operands, or a fault says why not.** A condition comes of a keyword
and operands just when there is an entry for the keyword in any case, there are as many operands as
it says, and it makes the condition and leaves none. If there is no entry, or another number of
operands, they are left as they were, and this does not depend on what the entries mean. An entry
that takes operands one by one gives its condition if it takes as many as there are; if it takes
fewer, the last ones are left and the fault is about them; if it takes more, none is left and the
fault is that of the taking. The entries of the language ask for operands of the right kind, and
never take more than there are. -/
theorem apply_ok_iff_and_faults (vocabulary : Vocabulary) (keyword : String)
    (stack : OperandStack) :
    (∀ condition rest, vocabulary.apply keyword stack = (.ok condition, rest) ↔
      rest = .empty ∧ ∃ entry ∈ vocabulary.entries, SameWord entry.keyword keyword ∧
        stack.size = entry.arity ∧ entry.interpret stack = (.ok condition, .empty)) ∧
    ((∀ entry ∈ vocabulary.entries, ¬ SameWord entry.keyword keyword) →
      vocabulary.apply keyword stack = (.error (.unknownKeyword keyword), stack) ∧
      ∀ meaning, (vocabulary.reinterpret meaning).apply keyword stack =
        vocabulary.apply keyword stack) ∧
    (∀ entry ∈ vocabulary.entries, SameWord entry.keyword keyword → stack.size ≠ entry.arity →
      vocabulary.apply keyword stack =
        (.error (.malformed keyword (.count entry.arity stack.size)), stack) ∧
      ∀ meaning, (vocabulary.reinterpret meaning).apply keyword stack =
        vocabulary.apply keyword stack) ∧
    (∀ name pops make, .taking name stack.size pops make ∈ vocabulary.entries →
      SameWord name keyword →
      (pops = stack.size → vocabulary.apply keyword stack = (.ok (make stack.toList), .empty)) ∧
      (pops < stack.size → vocabulary.apply keyword stack =
        (.error (.malformed keyword .leftOver), ⟨stack.toList.drop pops⟩)) ∧
      (stack.size < pops → vocabulary.apply keyword stack = (.error .noOperand, .empty))) ∧
    (∀ condition rest, builtin.apply keyword stack = (.ok condition, rest) ↔
      rest = .empty ∧
        ((SameWord Grammar.location keyword ∧
            ∃ x y, stack.toList = [.point x y] ∧ condition = .location ⟨x, y⟩) ∨
          ∃ m : Measure, SameWord m.keyword keyword ∧ ∃ c x, (c = .greater ∨ c = .less) ∧
            stack.toList = [.comparison c, .number x] ∧ condition = .threshold m c x)) ∧
    (builtin.apply keyword stack).1 ≠ .error .noOperand := by
  refine ⟨fun condition rest => ?_, fun h => ?_, fun entry hmem hsame hsize => ?_,
    fun name pops make hmem hsame => apply_taking (find?_eq_some_iff.2 ⟨hmem, hsame⟩),
    fun _ _ => apply_builtin_eq_ok_iff, apply_builtin_ne_noOperand keyword stack⟩
  · simp only [apply_eq_ok_iff, find?_eq_some_iff, and_assoc]
  · have hfind := find?_eq_none_iff.2 h
    exact ⟨apply_of_find?_eq_none hfind, apply_reinterpret (by simp [hfind])⟩
  · have hfind := find?_eq_some_iff.2 ⟨hmem, hsame⟩
    refine ⟨apply_of_size_ne hfind hsize, apply_reinterpret fun other hother => ?_⟩
    rw [hfind, Option.some.injEq] at hother
    exact hother ▸ hsize

/-- An entry that says that it takes two operands, and takes the first. -/
def gusty : Entry := .taking "Gusty" 2 1 fun _ => .threshold .windSpeed .greater .zero

theorem apply_ok_iff_and_faults_gusty :
    SameWord gusty.keyword "GUSTY" ∧
      (empty.insert gusty).apply "GUSTY" ⟨[.comparison .less, .number .nan]⟩ =
        (.error (.malformed "GUSTY" .leftOver), ⟨[.number .nan]⟩) := by
  have hsame : SameWord gusty.keyword "GUSTY" :=
    (Grammar.lowered_eq_lowered_iff _ _).1 (by decide)
  obtain ⟨-, -, -, htaking, -⟩ := apply_ok_iff_and_faults (empty.insert gusty) "GUSTY"
    ⟨[.comparison .less, .number .nan]⟩
  exact ⟨hsame, (htaking "Gusty" 1 _ List.mem_cons_self hsame).2.1 (by decide)⟩

end Vocabulary

end Fairweather
