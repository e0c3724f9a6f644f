import Fairweather.Proofs.Expression.Language
import Fairweather.Proofs.Number.LongestMatch

/-!
# The operations of a cursor

What one operation of a cursor does, wherever the cursor is.

**Numbers.** `Cursor.number` takes the longest numeral at the front of the unread text, and fails
with `numberExpected` only where there is none (`number_cases`). What is taken is always a number as
a whole text; so the one thing that can still go wrong is that the number is not finite.

**Failures.** Every operation passes some characters, perhaps none (`perform_cases`). One that fails
passes none: the cursor is where it was, and what comes after goes on as if it had not been asked
(`perform_of_isRefusal`). There is one exception. When a number is out of range, its characters have
been taken by the time its value is looked at, and they are not put back
(`exists_overflows_of_isOutOfRange`).

Main results: `Cursor.number_longest` and `Cursor.perform_refused_or_outOfRange`.
-/

namespace Fairweather

open Text

/-! ## The characters of a numeral -/

/-- A character of ASCII that shows. -/
def isGraphic (c : Char) : Bool := 32 < c.toNat && c.toNat < 127

theorem isGraphic_iff {c : Char} : isGraphic c ↔ 32 < c.toNat ∧ c.toNat < 127 := by
  simp [isGraphic]

theorem isGraphic_of_isDigit {c : Char} (h : c.isDigit) : isGraphic c :=
  isGraphic_iff.2 (visible_of_isDigit h)

theorem isGraphic_of_isWordChar {c : Char} (h : Cursor.isWordChar c) : isGraphic c :=
  isGraphic_iff.2 (visible_of_isWordChar h)

namespace Numeral

variable {text : List Char} {d : Decimal}

theorem IsSign.run_isGraphic {negative : Bool} (h : IsSign text negative) : Run isGraphic text := by
  cases h <;> exact List.all_eq_true.1 (by decide)

theorem IsDigits.run_isGraphic (h : IsDigits text) : Run isGraphic text :=
  fun c hc => isGraphic_of_isDigit (h.2 c hc)

theorem IsMantissa.run_isGraphic {whole fraction : List Char} (h : IsMantissa text whole fraction) :
    Run isGraphic text := by
  cases h with
  | whole hds => exact hds.run_isGraphic
  | point hds hfs =>
    refine run_append hds.run_isGraphic (run_cons.2 ⟨by decide, fun c hc => ?_⟩)
    exact isGraphic_of_isDigit (hfs c hc)
  | fraction hfs => exact run_cons.2 ⟨by decide, hfs.run_isGraphic⟩

theorem IsExponent.run_isGraphic {power : Int} (h : IsExponent text power) :
    Run isGraphic text := by
  cases h with
  | absent => exact run_nil
  | power hmarker hsign hds =>
    refine run_cons.2 ⟨?_, run_append hsign.run_isGraphic hds.run_isGraphic⟩
    rcases hmarker with rfl | rfl <;> decide

theorem IsNumeral.run_isGraphic (h : IsNumeral text d) : Run isGraphic text := by
  cases h with
  | intro hsign hmantissa hexponent =>
    exact run_append (run_append hsign.run_isGraphic hmantissa.run_isGraphic)
      hexponent.run_isGraphic

end Numeral

namespace Cursor

variable {text numeral : List Char} {cursor next : Cursor} {d : Decimal}

@[simp] theorem byteSize_nil : byteSize [] = 0 := rfl

@[simp] theorem byteSize_cons (c : Char) (text : List Char) :
    byteSize (c :: text) = c.utf8Size + byteSize text := rfl

@[simp] theorem byteSize_append (text more : List Char) :
    byteSize (text ++ more) = byteSize text + byteSize more := by
  induction text with
  | nil => simp
  | cons c text ih => simp [ih, Nat.add_assoc]

theorem utf8ByteSize_ofList (text : List Char) :
    (String.ofList text).utf8ByteSize = byteSize text := by
  induction text with
  | nil => rfl
  | cons c text ih =>
    have hcons : String.ofList (c :: text) = String.singleton c ++ String.ofList text := by
      rw [String.singleton_eq_ofList, ← String.ofList_append, List.singleton_append]
    rw [hcons, String.utf8ByteSize_append, String.utf8ByteSize_singleton, ih, byteSize_cons]

theorem byteSize_of_isGraphic (h : Run isGraphic text) : byteSize text = text.length := by
  induction text with
  | nil => rfl
  | cons c text ih =>
    obtain ⟨hc, htext⟩ := run_cons.1 h
    have hsize : c.utf8Size = 1 :=
      Char.utf8Size_eq_one_iff.2 (UInt32.le_iff_toNat_le.2 (isGraphic_iff.1 hc).2.le)
    show c.utf8Size + byteSize text = text.length + 1
    rw [hsize, ih htext, Nat.add_comm]

/-! ## Places in a text -/

/-- From one place in a text, some characters lead to another. -/
structure Passes (cursor : Cursor) (taken : List Char) (next : Cursor) : Prop where
  rest_eq : cursor.rest = taken ++ next.rest
  offset_eq : next.offset = cursor.offset + byteSize taken

theorem Passes.refl (cursor : Cursor) : cursor.Passes [] cursor := ⟨rfl, rfl⟩

theorem Passes.trans {last : Cursor} {taken more : List Char} (h : cursor.Passes taken next)
    (h' : next.Passes more last) : cursor.Passes (taken ++ more) last := by
  constructor
  · rw [h.rest_eq, h'.rest_eq, List.append_assoc]
  · rw [h'.offset_eq, h.offset_eq, byteSize_append, Nat.add_assoc]

theorem Passes.eq_of_nil (h : cursor.Passes [] next) : next = cursor := by
  obtain ⟨hrest, hoffset⟩ := h
  cases cursor
  cases next
  simp_all [byteSize]

/-! ## Numbers -/

/-- **What reading a number does.** Where a numeral comes next, the longest one is taken, and the
answer is its number if that is finite; elsewhere nothing is taken. -/
theorem number_cases (cursor : Cursor) :
    (∃ numeral d, Numeral.IsLongest cursor.rest numeral d ∧
      cursor.number =
        (if d.toBinary64.isFinite then .ok d.toBinary64
          else .error (.numberOutOfRange (String.ofList numeral)),
        ⟨cursor.offset + byteSize numeral, cursor.rest.drop numeral.length⟩)) ∨
    (∀ numeral d, Numeral.IsNumeral numeral d → ¬ numeral <+: cursor.rest) ∧
      cursor.number = (.error .numberExpected, cursor) := by
  cases hscan : Numeral.scan cursor.rest with
  | none =>
    refine .inr ⟨Numeral.scan_eq_none_iff.1 hscan, ?_⟩
    rw [number, hscan]
  | some found =>
    obtain ⟨⟨numeral, d⟩, rest⟩ := found
    obtain ⟨hlongest, htext⟩ := Numeral.scan_eq_some_iff.1 hscan
    refine .inl ⟨numeral, d, hlongest, ?_⟩
    have hdrop : cursor.rest.drop numeral.length = rest := by rw [htext, List.drop_left]
    rw [number, hscan, hdrop, byteSize_of_isGraphic hlongest.isNumeral.run_isGraphic]

theorem number_eq_numberExpected_iff :
    cursor.number.1 = .error .numberExpected ↔
      ∀ numeral d, Numeral.IsNumeral numeral d → ¬ numeral <+: cursor.rest := by
  rcases cursor.number_cases with ⟨numeral, d, hlongest, hnumber⟩ | ⟨hnone, hnumber⟩
  · have hne : cursor.number.1 ≠ .error .numberExpected := by
      rw [hnumber]
      by_cases hfinite : d.toBinary64.isFinite <;> simp [hfinite]
    exact ⟨fun h => absurd h hne,
      fun hnone => absurd hlongest.atFront (hnone _ _ hlongest.isNumeral)⟩
  · exact ⟨fun _ => hnone, fun _ => by rw [hnumber]⟩

theorem isFinite_of_number_eq_ok {x : Binary64} (h : cursor.number.1 = .ok x) : x.isFinite := by
  rcases cursor.number_cases with ⟨numeral, d, -, hnumber⟩ | ⟨-, hnumber⟩
  · rw [hnumber] at h
    by_cases hfinite : d.toBinary64.isFinite
    · rw [if_pos hfinite, Except.ok.injEq] at h
      rwa [← h]
    · rw [if_neg hfinite] at h
      cases h
  · rw [hnumber] at h
    cases h

/-- **The number that comes next is the longest numeral.** There is none to read just where no
numeral comes next. Otherwise the cursor goes past the longest one, which is a number as a whole
text, and the answer is the correctly rounded number that it denotes; if that is not finite, the
numeral is out of range. An exponent marker that no exponent begins with is left unread, and no
answer is infinite or not a number. -/
theorem number_longest (cursor : Cursor) :
    (cursor.number.1 = .error .numberExpected ↔
      ∀ numeral d, Numeral.IsNumeral numeral d → ¬ numeral <+: cursor.rest) ∧
    ((∃ numeral d, Numeral.IsNumeral numeral d ∧ numeral <+: cursor.rest) →
      ∃ numeral d x, Numeral.IsLongest cursor.rest numeral d ∧ d.RoundsTo x ∧
        Binary64.ofText? (String.ofList numeral) = some x ∧
        cursor.number =
          (if x.isFinite then .ok x else .error (.numberOutOfRange (String.ofList numeral)),
          ⟨cursor.offset + byteSize numeral, cursor.rest.drop numeral.length⟩)) ∧
    (∀ sign negative mantissa whole fraction marker rest, Numeral.IsSign sign negative →
      Numeral.IsMantissa mantissa whole fraction → marker = 'e' ∨ marker = 'E' →
      (∀ exponent power, Numeral.IsExponent exponent power → exponent <+: marker :: rest →
        exponent = []) →
      cursor.rest = sign ++ mantissa ++ marker :: rest →
        cursor.number.2.rest = marker :: rest) ∧
    ∀ x, cursor.number.1 = .ok x → x.isFinite := by
  refine ⟨number_eq_numberExpected_iff, fun ⟨numeral, d, hnumeral, hfront⟩ => ?_, ?_,
    fun x => isFinite_of_number_eq_ok⟩
  · rcases cursor.number_cases with ⟨taken, e, hlongest, hnumber⟩ | ⟨hnone, -⟩
    · exact ⟨taken, e, _, hlongest, Decimal.roundsTo_iff.2 rfl, hlongest.isNumeral.ofText?_eq,
        hnumber⟩
    · exact absurd hfront (hnone _ _ hnumeral)
  · intro sign negative mantissa whole fraction marker rest hsign hmantissa hmarker hnone htext
    rw [number, htext, Numeral.scan_dangling hsign hmantissa hmarker hnone]

example : (ofText "-.5e+x").number.2 = ⟨3, "e+x".toList⟩ := by decide +kernel

/-! ## Operations -/

/-- What can be asked of a cursor. -/
inductive Operation where
  | identifier
  | number
  | skipBlanks
  | expect (symbol : Char)
  | consume (symbol : Char)
  | peek
  | unread
  | atEnd
deriving DecidableEq

/-- What a cursor answers. -/
inductive Answer where
  | done
  | word (word : String)
  | number (x : Binary64)
  | next (c : Option Char)
  | text (rest : List Char)
  | flag (yes : Bool)
  | fault (fault : CursorFault)
deriving DecidableEq

namespace Answer

/-- A value or a fault as an answer. -/
def ofResult {α : Type} (answer : α → Answer) : Except CursorFault α → Answer
  | .ok a => answer a
  | .error reason => .fault reason

/-- The answer is a fault, or no. -/
def isRefusal : Answer → Bool
  | .fault _ => true
  | .flag yes => !yes
  | _ => false

/-- The answer is that a number is out of range. -/
def isOutOfRange : Answer → Bool
  | .fault (.numberOutOfRange _) => true
  | _ => false

end Answer

/-- The answer to an operation, and where the cursor is then. -/
def perform (cursor : Cursor) : Operation → Answer × Cursor
  | .identifier => (.ofResult .word cursor.identifier.1, cursor.identifier.2)
  | .number => (.ofResult .number cursor.number.1, cursor.number.2)
  | .skipBlanks => (.done, cursor.skipBlanks)
  | .expect symbol =>
    (.ofResult (fun _ => .done) (cursor.expect symbol).1, (cursor.expect symbol).2)
  | .consume symbol => (.flag (cursor.consume symbol).1, (cursor.consume symbol).2)
  | .peek => (.next cursor.peek?, cursor)
  | .unread => (.text cursor.rest, cursor)
  | .atEnd => (.flag cursor.atEnd, cursor)

/-- Where the cursor is after operations, whatever the answers. -/
def performAll (cursor : Cursor) (operations : List Operation) : Cursor :=
  operations.foldl (fun c operation => (c.perform operation).2) cursor

theorem performAll_append (cursor : Cursor) (before after : List Operation) :
    cursor.performAll (before ++ after) = (cursor.performAll before).performAll after :=
  List.foldl_append

/-! ## What one operation does -/

theorem run_isGraphic_of_isWordChar (h : Run isWordChar text) : Run isGraphic text :=
  fun c hc => isGraphic_of_isWordChar (h c hc)

theorem identifier_cases (cursor : Cursor) :
    (∃ word next, cursor.Passes word next ∧ cursor.identifier = (.ok (String.ofList word), next)) ∨
    cursor.identifier = (.error .identifierExpected, cursor) := by
  have hword : Run isGraphic (cursor.rest.takeWhile isWordChar) :=
    run_isGraphic_of_isWordChar run_takeWhile
  unfold identifier
  split
  · exact .inr rfl
  · refine .inl ⟨_, _, ⟨List.takeWhile_append_dropWhile.symm, ?_⟩, rfl⟩
    rw [byteSize_of_isGraphic hword]

theorem consume_cases (cursor : Cursor) (symbol : Char) :
    (∃ next, cursor.Passes [symbol] next ∧ cursor.consume symbol = (true, next)) ∨
    cursor.consume symbol = (false, cursor) := by
  unfold consume
  split
  · next c rest htext =>
    by_cases hc : c = symbol
    · subst hc
      exact .inl ⟨⟨_, rest⟩, ⟨htext, rfl⟩, if_pos rfl⟩
    · exact .inr (if_neg hc)
  · exact .inr rfl

theorem skipBlanks_passes (cursor : Cursor) :
    cursor.Passes (cursor.rest.takeWhile isBlank) cursor.skipBlanks :=
  ⟨List.takeWhile_append_dropWhile.symm, rfl⟩

/-- A text begins with a numeral, the longest there is, whose number is not finite. -/
def Overflows (text numeral : List Char) : Prop :=
  ∃ d x, Numeral.IsLongest text numeral d ∧ d.RoundsTo x ∧ x.isFinite = false

/-- **What one operation does.** It passes some characters, and if it fails none, unless it has read
a number that is out of range. -/
theorem perform_cases (cursor : Cursor) (operation : Operation) :
    ∃ taken, cursor.Passes taken (cursor.perform operation).2 ∧
      ((cursor.perform operation).1.isRefusal →
        taken = [] ∧ (cursor.perform operation).1.isOutOfRange = false ∨
        operation = .number ∧ Overflows cursor.rest taken ∧
          (cursor.perform operation).1 = .fault (.numberOutOfRange (String.ofList taken))) := by
  cases operation with
  | identifier =>
    rcases cursor.identifier_cases with ⟨word, next, hpasses, hword⟩ | hnone
    · exact ⟨word, by simpa [perform, hword] using hpasses,
        by simp [perform, hword, Answer.ofResult, Answer.isRefusal]⟩
    · exact ⟨[], by simpa [perform, hnone] using .refl cursor,
        by simp [perform, hnone, Answer.ofResult, Answer.isOutOfRange]⟩
  | number =>
    rcases cursor.number_cases with ⟨numeral, d, hlongest, hnumber⟩ | ⟨-, hnumber⟩
    · obtain ⟨rest, htext⟩ := hlongest.atFront
      refine ⟨numeral, ⟨by simp [perform, hnumber, ← htext], by simp [perform, hnumber]⟩, ?_⟩
      by_cases hfinite : d.toBinary64.isFinite
      · simp [perform, hnumber, hfinite, Answer.ofResult, Answer.isRefusal]
      · intro _
        refine .inr ⟨rfl, ⟨d, _, hlongest, Decimal.roundsTo_iff.2 rfl, by simpa using hfinite⟩, ?_⟩
        simp [perform, hnumber, hfinite, Answer.ofResult]
    · exact ⟨[], by simpa [perform, hnumber] using .refl cursor,
        by simp [perform, hnumber, Answer.ofResult, Answer.isOutOfRange]⟩
  | skipBlanks => exact ⟨_, cursor.skipBlanks_passes, nofun⟩
  | expect symbol =>
    rcases cursor.consume_cases symbol with ⟨next, hpasses, hconsume⟩ | hconsume
    · exact ⟨[symbol], by simpa [perform, expect, hconsume] using hpasses,
        by simp [perform, expect, hconsume, Answer.ofResult, Answer.isRefusal]⟩
    · exact ⟨[], by simpa [perform, expect, hconsume] using .refl cursor,
        by simp [perform, expect, hconsume, Answer.ofResult, Answer.isOutOfRange]⟩
  | consume symbol =>
    rcases cursor.consume_cases symbol with ⟨next, hpasses, hconsume⟩ | hconsume
    · exact ⟨[symbol], by simpa [perform, hconsume] using hpasses,
        by simp [perform, hconsume, Answer.isRefusal]⟩
    · exact ⟨[], by simpa [perform, hconsume] using .refl cursor,
        by simp [perform, hconsume, Answer.isOutOfRange]⟩
  | peek => exact ⟨[], .refl cursor, fun _ => .inl ⟨rfl, rfl⟩⟩
  | unread => exact ⟨[], .refl cursor, fun _ => .inl ⟨rfl, rfl⟩⟩
  | atEnd => exact ⟨[], .refl cursor, fun _ => .inl ⟨rfl, rfl⟩⟩

theorem exists_performAll_passes (cursor : Cursor) (operations : List Operation) :
    ∃ taken, cursor.Passes taken (cursor.performAll operations) := by
  induction operations generalizing cursor with
  | nil => exact ⟨[], .refl cursor⟩
  | cons operation operations ih =>
    obtain ⟨taken, hpasses, -⟩ := cursor.perform_cases operation
    obtain ⟨more, hmore⟩ := ih (cursor.perform operation).2
    exact ⟨taken ++ more, hpasses.trans hmore⟩

/-! ## Failures -/

variable {operation : Operation}

theorem Answer.isRefusal_of_isOutOfRange {answer : Answer} (h : answer.isOutOfRange) :
    answer.isRefusal := by
  cases answer with
  | fault reason => rfl
  | _ => cases h

/-- **An operation that fails leaves the cursor where it was**, unless it has read a number that is
out of range. -/
theorem perform_of_isRefusal (h : (cursor.perform operation).1.isRefusal)
    (hrange : (cursor.perform operation).1.isOutOfRange = false) :
    (cursor.perform operation).2 = cursor := by
  obtain ⟨taken, hpasses, hrefused⟩ := cursor.perform_cases operation
  rcases hrefused h with ⟨rfl, -⟩ | ⟨-, -, hanswer⟩
  · exact hpasses.eq_of_nil
  · rw [hanswer] at hrange
    cases hrange

/-- A number that is out of range has been read: what is unread begins behind it. -/
theorem exists_overflows_of_isOutOfRange (h : (cursor.perform operation).1.isOutOfRange) :
    operation = .number ∧ ∃ numeral, Overflows cursor.rest numeral ∧
      (cursor.perform operation).1 = .fault (.numberOutOfRange (String.ofList numeral)) ∧
      cursor.rest = numeral ++ (cursor.perform operation).2.rest := by
  obtain ⟨taken, hpasses, hrefused⟩ := cursor.perform_cases operation
  rcases hrefused (Answer.isRefusal_of_isOutOfRange h) with ⟨-, hrange⟩ | ⟨hnumber, hover, hanswer⟩
  · rw [hrange] at h
    cases h
  · exact ⟨hnumber, taken, hover, hanswer, hpasses.rest_eq⟩

/-- **A failure takes nothing**, wherever operations have led from the start of a text. If an
operation answers with a fault or with no, the cursor is where it was, and what comes after goes on
as if the operation had not been asked. Only a number that is out of range is taken: what is unread
after it is what follows its numeral, the longest that came next. -/
theorem perform_refused_or_outOfRange (text : String) (before : List Operation)
    (operation : Operation) :
    let cursor := (ofText text).performAll before
    let answer := (cursor.perform operation).1
    let next := (cursor.perform operation).2
    (answer.isRefusal → answer.isOutOfRange = false → next = cursor ∧
      ∀ after, (ofText text).performAll (before ++ operation :: after) =
        (ofText text).performAll (before ++ after)) ∧
    (answer.isOutOfRange → operation = .number ∧ ∃ numeral, Overflows cursor.rest numeral ∧
      answer = .fault (.numberOutOfRange (String.ofList numeral)) ∧
      cursor.rest = numeral ++ next.rest) := by
  intro cursor answer next
  refine ⟨fun hrefused hrange => ?_, exists_overflows_of_isOutOfRange⟩
  have hnext : next = cursor := perform_of_isRefusal hrefused hrange
  refine ⟨hnext, fun after => ?_⟩
  calc (ofText text).performAll (before ++ operation :: after)
      = next.performAll after := performAll_append _ before (operation :: after)
    _ = cursor.performAll after := by rw [hnext]
    _ = (ofText text).performAll (before ++ after) := (performAll_append _ before after).symm

/-- **A number that is out of range is taken, though reading it fails.** -/
theorem perform_number_tooGreat :
    let cursor := ofText "1e999 2"
    let answer := (cursor.perform .number).1
    let next := (cursor.perform .number).2
    answer = .fault (.numberOutOfRange "1e999") ∧ answer.isRefusal ∧
      next.rest = " 2".toList ∧ next.rest ≠ cursor.rest := by
  decide +kernel

end Cursor

end Fairweather
