import Fairweather.Plan.Condition
import Fairweather.Plan.Fault

/-!
# Vocabularies

A vocabulary says what keywords mean. Its entries are found by keyword in any case; of two entries
whose keywords differ only in case, the one that was added later counts.

An entry takes its operands from a stack and makes a condition of them. It also says how many
operands it takes, but is not trusted in this: `Vocabulary.apply` gives it a stack only if that
many are on it, and takes its condition only if none is left.
-/

namespace Fairweather

/-- The meaning of a keyword. -/
structure Entry where
  keyword : String
  arity : Nat
  /-- The condition that the operands make, and the operands that are left. -/
  interpret : OperandStack → Except PlanFault Condition × OperandStack

namespace Entry

/-- `location`, which takes a point. -/
def location : Entry where
  keyword := Grammar.location
  arity := 1
  interpret stack :=
    match stack.pop? with
    | none => (.error .noOperand, stack)
    | some (.point latitude longitude, rest) => (.ok (.location ⟨latitude, longitude⟩), rest)
    | some (token, rest) => (.error (.malformed Grammar.location (.pointExpected token)), rest)

/-- The keyword of a measure, which takes a comparison and a number. -/
def ofMeasure (measure : Measure) : Entry where
  keyword := measure.keyword
  arity := 2
  interpret stack :=
    let bound (comparison : Comparison) (stack : OperandStack) :
        Except PlanFault Condition × OperandStack :=
      match stack.pop? with
      | none => (.error .noOperand, stack)
      | some (.number x, rest) => (.ok (.threshold measure comparison x), rest)
      | some (token, rest) => (.error (.malformed measure.keyword (.numberExpected token)), rest)
    match stack.pop? with
    | none => (.error .noOperand, stack)
    | some (.comparison .greater, rest) => bound .greater rest
    | some (.comparison .less, rest) => bound .less rest
    | some (token, rest) => (.error (.malformed measure.keyword (.comparisonExpected token)), rest)

/-- An entry that takes `pops` operands, whatever they are, for a condition given beforehand. -/
def constant (keyword : String) (arity pops : Nat) (condition : Condition) : Entry where
  keyword := keyword
  arity := arity
  interpret stack :=
    if pops ≤ stack.size then (.ok condition, ⟨stack.toList.drop pops⟩)
    else (.error .noOperand, .empty)

end Entry

/-- The keyword in lower case, under which the entry is found. -/
def Entry.key (entry : Entry) : String := Grammar.lowered entry.keyword

/-- The tokens of an expression, the keyword first. The fault of a text that is no expression names
the whole text. -/
def Plan.parse (text : String) : Except PlanFault (List Token) :=
  (Grammar.parse text).mapError (.unreadableExpression text)

/-- Entries, no two of them under the same key. -/
structure Vocabulary where
  entries : List Entry
  distinct : (entries.map Entry.key).Nodup

namespace Vocabulary

def empty : Vocabulary := ⟨[], .nil⟩

/-- One more entry, in the place of one with the same keyword. -/
def insert (vocabulary : Vocabulary) (entry : Entry) : Vocabulary where
  entries := entry :: vocabulary.entries.filter (·.key ≠ entry.key)
  distinct := by
    rw [List.map_cons, List.nodup_cons]
    refine ⟨by simp, ?_⟩
    exact (List.filter_sublist.map Entry.key).nodup vocabulary.distinct

/-- The entry of a keyword in any case. -/
def find? (vocabulary : Vocabulary) (keyword : String) : Option Entry :=
  vocabulary.entries.find? (·.key = Grammar.lowered keyword)

@[simp] theorem find?_empty (keyword : String) : empty.find? keyword = none := rfl

/-- The entry that was added last is found; all others are found as before. -/
theorem find?_insert (vocabulary : Vocabulary) (entry : Entry) (keyword : String) :
    (vocabulary.insert entry).find? keyword =
      if Grammar.lowered keyword = entry.key then some entry else vocabulary.find? keyword := by
  by_cases h : entry.key = Grammar.lowered keyword
  · simp [find?, insert, h]
  · have other : (fun e : Entry => !decide (e.key = entry.key) &&
        decide (e.key = Grammar.lowered keyword)) =
        fun e => decide (e.key = Grammar.lowered keyword) := by
      funext e
      by_cases he : e.key = Grammar.lowered keyword
      · simp [he, Ne.symm h]
      · simp [he]
    simp [find?, insert, h, Ne.symm h, List.find?_filter, other]

/-- The keywords in lower case, in alphabetical order. -/
def keywords (vocabulary : Vocabulary) : List String :=
  (vocabulary.entries.map Entry.key).mergeSort (· ≤ ·)

/-- The keywords of the language with their meaning. -/
def builtin : Vocabulary :=
  Measure.all.foldl (fun vocabulary m => vocabulary.insert (.ofMeasure m))
    (empty.insert .location)

/-- The condition that a keyword and its operands make, and the operands that are left. -/
def apply (vocabulary : Vocabulary) (keyword : String) (stack : OperandStack) :
    Except PlanFault Condition × OperandStack :=
  match vocabulary.find? keyword with
  | none => (.error (.unknownKeyword keyword), stack)
  | some entry =>
    if stack.size = entry.arity then
      match entry.interpret stack with
      | (.error fault, rest) => (.error fault, rest)
      | (.ok condition, rest) =>
        if rest.isEmpty then (.ok condition, rest)
        else (.error (.malformed keyword .leftOver), rest)
    else (.error (.malformed keyword (.count entry.arity stack.size)), stack)

/-- The condition that an expression means. -/
def compile (vocabulary : Vocabulary) (text : String) : Except PlanFault Condition :=
  match Plan.parse text with
  | .error fault => .error fault
  | .ok tokens =>
    match (OperandStack.ofList tokens).pop? with
    | none => .error .noOperand
    | some (.keyword word, operands) => (vocabulary.apply word operands).1
    | some (token, _) => .error (.unreadableExpression text (.startsWith token))

end Vocabulary

end Fairweather
