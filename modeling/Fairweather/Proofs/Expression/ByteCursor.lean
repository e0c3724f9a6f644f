import Mathlib
import Fairweather.Proofs.Expression.Cursor
import Fairweather.Proofs.Text.Slices

/-!
# A cursor never splits a character

A cursor counts bytes, and it counts one byte for a character that it has seen to be a word
character, a digit or a sign. This module shows that its offset lies between two characters of the
text all the same, wherever operations have led it.

**A cursor that cuts its text** (`ByteCursor`) holds the whole text and the offset, and nothing
else. Whenever it looks at what is unread it cuts the text there, and it cuts out words and numerals
between two offsets. It goes on character by character, one byte or the size of the character at a
time, and goes back to an offset that it has kept. A cut inside a character has no answer.

**Loops.** A loop ends whatever its text is cut into, since it goes on only while something is
unread (`offset_lt_of_peek?`), and by at least a byte. Behind some characters of a text it goes past
whole characters, if it counts each by its size (`skipWhile_between`); one that counts one byte for
each does, if they are all of ASCII (`skipBytesWhile_between`). So each part of an operation leads
from behind some characters to behind some more.

**In step.** Therefore an operation always has an answer, the same as that of `Cursor`, and the
offset is then the same too (`perform_between`); so it is after any operations
(`performAll_of_passes`).

Main result: `Cursor.performAll_between_characters`.
-/

namespace Fairweather

open Text

/-! ## A cursor that cuts its text -/

/-- A text, and the byte offset from which on it is unread. -/
structure ByteCursor where
  text : String
  offset : Nat

namespace ByteCursor

/-- The start of a text. -/
def ofText (text : String) : ByteCursor := ⟨text, 0⟩

/-- What is unread. -/
def rest? (cursor : ByteCursor) : Option String :=
  slice? cursor.text cursor.offset cursor.text.utf8ByteSize

/-- The next character, if anything is unread. -/
def peek? (cursor : ByteCursor) : Option (Option Char) := cursor.rest?.map (·.toList.head?)

/-- Nothing is unread. -/
def atEnd (cursor : ByteCursor) : Bool := cursor.text.utf8ByteSize ≤ cursor.offset

/-- Some bytes further. -/
def advance (cursor : ByteCursor) (bytes : Nat) : ByteCursor :=
  { cursor with offset := cursor.offset + bytes }

theorem offset_lt_of_peek? {cursor : ByteCursor} {c : Char} (h : cursor.peek? = some (some c)) :
    cursor.offset < cursor.text.utf8ByteSize := by
  obtain ⟨rest, hrest, hhead⟩ := Option.map_eq_some_iff.1 h
  obtain ⟨before, after, -, hstart, hstop⟩ := slice?_eq_some_iff.1 hrest
  have hne : rest ≠ "" := by
    rintro rfl
    cases hhead
  rw [hstart, hstop, String.utf8ByteSize_append]
  exact Nat.lt_add_of_pos_right (Nat.pos_of_ne_zero (mt String.utf8ByteSize_eq_zero_iff.1 hne))

/-- Past all characters of a kind that come next, by as many bytes for each as `width` says. -/
def skipWhile (kind : Char → Bool) (width : Char → Nat) (hwidth : ∀ c, 0 < width c)
    (cursor : ByteCursor) : Option ByteCursor :=
  match _ : cursor.peek? with
  | none => none
  | some none => some cursor
  | some (some c) =>
    if kind c then skipWhile kind width hwidth (cursor.advance (width c)) else some cursor
termination_by cursor.text.utf8ByteSize - cursor.offset
decreasing_by
  have hoffset := offset_lt_of_peek? ‹cursor.peek? = some (some c)›
  have hpos := hwidth c
  simp only [advance]
  omega

theorem skipWhile_eq {kind : Char → Bool} {width : Char → Nat} {hwidth : ∀ c, 0 < width c}
    {cursor : ByteCursor} :
    cursor.skipWhile kind width hwidth =
      cursor.peek?.bind fun
        | none => some cursor
        | some c =>
          if kind c then (cursor.advance (width c)).skipWhile kind width hwidth
          else some cursor := by
  rw [skipWhile]
  split <;> next hpeek => rw [hpeek]; rfl

/-- Past all characters of a kind that come next, by one byte for each. -/
def skipBytesWhile (kind : Char → Bool) (cursor : ByteCursor) : Option ByteCursor :=
  cursor.skipWhile kind (fun _ => 1) fun _ => Nat.one_pos

/-- Past all blanks that come next. -/
def skipBlanks (cursor : ByteCursor) : Option ByteCursor :=
  cursor.skipWhile isBlank Char.utf8Size Char.utf8Size_pos

/-- The longest word that comes next. -/
def identifier (cursor : ByteCursor) : Option (Except String String × ByteCursor) := do
  let next ← cursor.skipBytesWhile Cursor.isWordChar
  if next.offset = cursor.offset then
    some (.error CursorFault.identifierExpected.message, next)
  else
    let word ← slice? cursor.text cursor.offset next.offset
    some (.ok word, next)

/-- Past a given character, if it comes next. -/
def consume (cursor : ByteCursor) (symbol : Char) : Option (Bool × ByteCursor) := do
  if (← cursor.peek?) = some symbol then some (true, cursor.advance symbol.utf8Size)
  else some (false, cursor)

/-- Past a given character, which has to come next. -/
def expect (cursor : ByteCursor) (symbol : Char) :
    Option (Except String Unit × ByteCursor) := do
  match ← cursor.consume symbol with
  | (true, next) => some (.ok (), next)
  | (false, next) => some (.error (CursorFault.symbolExpected symbol).message, next)

/-- Past a sign, if one comes next. -/
def skipSign (cursor : ByteCursor) : Option ByteCursor := do
  match ← cursor.peek? with
  | some '+' | some '-' => some (cursor.advance 1)
  | _ => some cursor

/-- Past all digits that come next, and how many there are. -/
def skipDigits (cursor : ByteCursor) : Option (Nat × ByteCursor) := do
  let next ← cursor.skipBytesWhile Char.isDigit
  some (next.offset - cursor.offset, next)

/-- Past a point and the digits behind it, if a point comes next, and how many digits there are. -/
def skipFraction (cursor : ByteCursor) : Option (Nat × ByteCursor) := do
  match ← cursor.consume '.' with
  | (true, next) => next.skipDigits
  | (false, next) => some (0, next)

/-- Past an exponent, if one comes next. A marker that no digits belong to is none. -/
def skipExponent (cursor : ByteCursor) : Option ByteCursor := do
  match ← cursor.peek? with
  | some c =>
    if c = 'e' ∨ c = 'E' then
      let signed ← (cursor.advance 1).skipSign
      match ← signed.skipDigits with
      | (0, _) => some cursor
      | (_ + 1, next) => some next
    else some cursor
  | none => some cursor

/-- The finite number that a text denotes. -/
def finiteNumber (numeral : String) : Except String Binary64 :=
  match Binary64.ofText? numeral with
  | none => .error ("bad number `" ++ numeral ++ "`")
  | some x => if x.isFinite then .ok x else .error (CursorFault.numberOutOfRange numeral).message

/-- The value of the longest numeral that comes next. -/
def number (cursor : ByteCursor) : Option (Except String Binary64 × ByteCursor) := do
  let signed ← cursor.skipSign
  let (whole, afterWhole) ← signed.skipDigits
  let (fraction, afterFraction) ← afterWhole.skipFraction
  if whole + fraction = 0 then
    some (.error CursorFault.numberExpected.message, cursor)
  else
    let next ← afterFraction.skipExponent
    let numeral ← slice? cursor.text cursor.offset next.offset
    some (finiteNumber numeral, next)

/-- The answer to an operation, or the message of a fault, and where the cursor is then. -/
def perform (cursor : ByteCursor) :
    Cursor.Operation → Option (Except String Cursor.Answer × ByteCursor)
  | .identifier => cursor.identifier.map fun (word, next) => (word.map .word, next)
  | .number => cursor.number.map fun (x, next) => (x.map .number, next)
  | .skipBlanks => cursor.skipBlanks.map fun next => (.ok .done, next)
  | .expect symbol => (cursor.expect symbol).map fun (done, next) => (done.map fun _ => .done, next)
  | .consume symbol => (cursor.consume symbol).map fun (yes, next) => (.ok (.flag yes), next)
  | .peek => cursor.peek?.map fun c => (.ok (.next c), cursor)
  | .unread => cursor.rest?.map fun rest => (.ok (.text rest.toList), cursor)
  | .atEnd => some (.ok (.flag cursor.atEnd), cursor)

/-- Where the cursor is after operations, whatever the answers. -/
def performAll (cursor : ByteCursor) (operations : List Cursor.Operation) : Option ByteCursor :=
  operations.foldlM (fun c operation => (c.perform operation).map (·.2)) cursor

end ByteCursor

namespace Cursor

/-- The cursor behind the first of two parts of a text. -/
def between (before rest : List Char) : Cursor := ⟨byteSize before, rest⟩

theorem Passes.exists_between {text : String} {taken : List Char} {cursor : Cursor}
    (h : (ofText text).Passes taken cursor) :
    ∃ rest, text = String.ofList (taken ++ rest) ∧ cursor = between taken rest := by
  obtain ⟨hrest, hoffset⟩ := h
  refine ⟨cursor.rest, ?_, ?_⟩
  · rw [← hrest, ofText, String.ofList_toList]
  · rw [between, ← Nat.zero_add (byteSize taken)]
    exact congrArg (Cursor.mk · cursor.rest) hoffset

/-- The answer, or the message of the fault that it is. -/
def Answer.result : Answer → Except String Answer
  | .fault reason => .error reason.message
  | answer => .ok answer

end Cursor

namespace ByteCursor

/-! ## Between two parts of a text -/

variable {before rest : List Char}

/-- The cursor behind the first of two parts of a text. -/
def between (before rest : List Char) : ByteCursor :=
  ⟨String.ofList (before ++ rest), Cursor.byteSize before⟩

theorem slice?_between (before part rest : List Char) :
    slice? (String.ofList (before ++ (part ++ rest))) (Cursor.byteSize before)
      (Cursor.byteSize (before ++ part)) = some (String.ofList part) := by
  refine slice?_eq_some_iff.2 ⟨String.ofList before, String.ofList rest, ?_, ?_, ?_⟩
  · simp only [String.ofList_append, String.append_assoc]
  · rw [Cursor.utf8ByteSize_ofList]
  · rw [← String.ofList_append, Cursor.utf8ByteSize_ofList]

theorem rest?_between : (between before rest).rest? = some (String.ofList rest) := by
  have h := slice?_between before rest []
  rwa [List.append_nil, ← Cursor.utf8ByteSize_ofList (before ++ rest)] at h

theorem peek?_between : (between before rest).peek? = some rest.head? := by
  rw [peek?, rest?_between, Option.map_some, String.toList_ofList]

theorem atEnd_between : (between before rest).atEnd = rest.isEmpty := by
  cases rest with
  | nil => simp [atEnd, between, Cursor.utf8ByteSize_ofList]
  | cons c rest =>
    have hsize : 0 < c.utf8Size := c.utf8Size_pos
    simp only [atEnd, between, Cursor.utf8ByteSize_ofList, Cursor.byteSize_append,
      Cursor.byteSize_cons, List.isEmpty_cons, decide_eq_false_iff_not]
    omega

theorem advance_between {c : Char} {bytes : Nat} (h : bytes = c.utf8Size) :
    (between before (c :: rest)).advance bytes = between (before ++ [c]) rest := by
  simp [advance, between, h]

/-! ## Loops -/

/-- **A loop goes past whole characters**, if it counts each by its size. -/
theorem skipWhile_between {kind : Char → Bool} {width : Char → Nat} (hpos : ∀ c, 0 < width c)
    (hwidth : ∀ c, kind c → width c = c.utf8Size) :
    (between before rest).skipWhile kind width hpos =
      some (between (before ++ rest.takeWhile kind) (rest.dropWhile kind)) := by
  induction rest generalizing before with
  | nil =>
    rw [skipWhile_eq, peek?_between]
    simp
  | cons c rest ih =>
    rw [skipWhile_eq, peek?_between]
    by_cases hc : kind c
    · simp [hc, advance_between (hwidth c hc), ih]
    · simp [hc]

/-- A loop that counts one byte for each character does, if they are all of ASCII. -/
theorem skipBytesWhile_between {kind : Char → Bool} (hkind : ∀ c, kind c → isGraphic c) :
    (between before rest).skipBytesWhile kind =
      some (between (before ++ rest.takeWhile kind) (rest.dropWhile kind)) := by
  refine skipWhile_between _ fun c hc => ?_
  have hsize := Cursor.byteSize_of_isGraphic (run_cons.2 ⟨hkind c hc, run_nil⟩)
  simpa using hsize.symm

theorem skipDigits_between :
    (between before rest).skipDigits =
      some ((rest.takeWhile Char.isDigit).length,
        between (before ++ rest.takeWhile Char.isDigit) (rest.dropWhile Char.isDigit)) := by
  have hdigits : Run isGraphic (rest.takeWhile Char.isDigit) :=
    fun c hc => isGraphic_of_isDigit (run_takeWhile c hc)
  rw [skipDigits, skipBytesWhile_between fun _ => isGraphic_of_isDigit]
  simp [between, Cursor.byteSize_of_isGraphic hdigits]

/-! ## The parts of a numeral -/

theorem skipSign_between :
    (between before rest).skipSign =
      some (between (before ++ (Numeral.scanSign rest).1) (Numeral.scanSign rest).2.2) := by
  rw [skipSign, peek?_between]
  unfold Numeral.scanSign
  split
  · exact congrArg some (advance_between rfl)
  · exact congrArg some (advance_between rfl)
  · next hplus hminus =>
    cases rest with
    | nil => simp
    | cons c rest =>
      have hc : c ≠ '+' ∧ c ≠ '-' :=
        ⟨fun h => hplus rest (h ▸ rfl), fun h => hminus rest (h ▸ rfl)⟩
      simp [hc]

theorem consume_between_cons (symbol : Char) :
    (between before (symbol :: rest)).consume symbol =
      some (true, between (before ++ [symbol]) rest) := by
  rw [consume, peek?_between]
  simp [advance_between]

theorem consume_between_of_stops {symbol : Char} (h : Stops (· = symbol) rest) :
    (between before rest).consume symbol = some (false, between before rest) := by
  rw [consume, peek?_between]
  cases rest with
  | nil => simp
  | cons c rest =>
    have hc : c ≠ symbol := by simpa using stops_cons.1 h
    simp [hc]

theorem skipFraction_between :
    (between before rest).skipFraction =
      some ((Numeral.scanFraction rest).2.1.length,
        between (before ++ (Numeral.scanFraction rest).1 ++ (Numeral.scanFraction rest).2.1)
          (Numeral.scanFraction rest).2.2) := by
  rw [skipFraction]
  unfold Numeral.scanFraction
  split
  · rw [consume_between_cons]
    exact skipDigits_between
  · next hpoint =>
    have hstops : Stops (· = '.') rest := by
      cases rest with
      | nil => exact stops_nil
      | cons c rest => exact stops_cons.2 (decide_eq_false fun hc => hpoint rest (hc ▸ rfl))
    rw [consume_between_of_stops hstops]
    simp

theorem skipExponent_between :
    (between before rest).skipExponent =
      some (between (before ++ (Numeral.scanExponent rest).1) (Numeral.scanExponent rest).2.2) := by
  rw [skipExponent, peek?_between]
  cases rest with
  | nil => simp [Numeral.scanExponent]
  | cons marker rest =>
    unfold Numeral.scanExponent
    dsimp only [List.head?_cons, Option.bind_eq_bind, Option.bind_some]
    by_cases hmarker : marker = 'e' ∨ marker = 'E'
    · have hsize : 1 = marker.utf8Size := by rcases hmarker with rfl | rfl <;> rfl
      rw [if_pos hmarker, advance_between hsize, skipSign_between]
      dsimp only [Option.bind_some]
      rw [skipDigits_between]
      generalize Numeral.scanSign rest = scanned
      obtain ⟨sign, negative, behind⟩ := scanned
      dsimp only [Option.bind_some]
      -- without digits the cursor goes back in front of the marker
      cases hdigits : behind.takeWhile Char.isDigit with
      | nil => simp
      | cons d ds => simp [hmarker]
    · simp [hmarker]

theorem number_between_scan :
    (between before rest).number =
      match Numeral.scan rest with
      | none => some (.error CursorFault.numberExpected.message, between before rest)
      | some (numeral, behind) =>
        some (finiteNumber (String.ofList numeral.text),
          between (before ++ numeral.text) behind) := by
  have hslice : ∀ numeral behind, rest = numeral ++ behind →
      slice? (between before rest).text (between before rest).offset
        (between (before ++ numeral) behind).offset = some (String.ofList numeral) := by
    rintro numeral behind rfl
    exact slice?_between before numeral behind
  have hsound := @Numeral.scan_sound rest
  rw [number, skipSign_between]
  unfold Numeral.scan at hsound ⊢
  generalize Numeral.scanSign rest = scanned at *
  obtain ⟨sign, negative, afterSign⟩ := scanned
  dsimp only [Option.bind_eq_bind, Option.bind_some] at hsound ⊢
  rw [skipDigits_between]
  dsimp only [Option.bind_some]
  rw [skipFraction_between]
  generalize afterSign.takeWhile Char.isDigit = whole at *
  generalize Numeral.scanFraction (afterSign.dropWhile Char.isDigit) = scanned at *
  obtain ⟨point, fraction, afterFraction⟩ := scanned
  dsimp only [Option.bind_some] at hsound ⊢
  rw [skipExponent_between]
  generalize Numeral.scanExponent afterFraction = scanned at *
  obtain ⟨exponent, power, behind⟩ := scanned
  dsimp only [Option.bind_some] at hsound ⊢
  by_cases hnone : whole = [] ∧ fraction = []
  · obtain ⟨rfl, rfl⟩ := hnone
    rfl
  · rw [if_neg hnone] at hsound
    have hcount : ¬ whole.length + fraction.length = 0 := by
      simpa [Nat.add_eq_zero_iff] using hnone
    have hnumeral := hslice _ _ (hsound rfl).1
    simp only [← List.append_assoc] at hnumeral
    rw [if_neg hnone, if_neg hcount, hnumeral]
    simp

theorem finiteNumber_of_isNumeral {numeral : List Char} {d : Decimal}
    (h : Numeral.IsNumeral numeral d) :
    finiteNumber (String.ofList numeral) =
      if d.toBinary64.isFinite then .ok d.toBinary64
      else .error (CursorFault.numberOutOfRange (String.ofList numeral)).message := by
  rw [finiteNumber, h.ofText?_eq]

/-! ## In step -/

/-- What an operation gives for one who holds the text and the offset: a fault is its message. -/
def shown {α : Type} (text : String) (outcome : Except CursorFault α × Cursor) :
    Except String α × ByteCursor :=
  (outcome.1.mapError CursorFault.message, ⟨text, outcome.2.offset⟩)

theorem map_shown {α : Type} {answer : α → Cursor.Answer}
    (hanswer : ∀ a, (answer a).result = .ok (answer a)) (text : String)
    (outcome : Except CursorFault α × Cursor) :
    (some (shown text outcome)).map (fun (a, next) => (a.map answer, next)) =
      some ((Cursor.Answer.ofResult answer outcome.1).result, ⟨text, outcome.2.offset⟩) := by
  obtain ⟨r, next⟩ := outcome
  cases r with
  | ok a =>
    show _ = some ((answer a).result, _)
    rw [hanswer]
    rfl
  | error reason => rfl

theorem identifier_between (before rest : List Char) :
    (between before rest).identifier =
      some (shown (String.ofList (before ++ rest)) (Cursor.between before rest).identifier) := by
  have hword : Run isGraphic (rest.takeWhile Cursor.isWordChar) :=
    Cursor.run_isGraphic_of_isWordChar run_takeWhile
  have htext : rest.takeWhile Cursor.isWordChar ++ rest.dropWhile Cursor.isWordChar = rest :=
    List.takeWhile_append_dropWhile
  rw [identifier, skipBytesWhile_between fun _ => isGraphic_of_isWordChar, Cursor.between]
  unfold Cursor.identifier
  dsimp only [Option.bind_eq_bind, Option.bind_some]
  generalize rest.takeWhile Cursor.isWordChar = word at *
  generalize rest.dropWhile Cursor.isWordChar = behind at *
  subst htext
  cases word with
  | nil => simp [between, shown, Except.mapError]
  | cons c word =>
    have hslice := slice?_between before (c :: word) behind
    simp only [between, Cursor.byteSize_append, Cursor.byteSize_of_isGraphic hword,
      List.append_assoc] at hslice ⊢
    rw [if_neg (by simp), hslice]
    simp [shown, Except.mapError]

theorem number_between (before rest : List Char) :
    (between before rest).number =
      some (shown (String.ofList (before ++ rest)) (Cursor.between before rest).number) := by
  rw [number_between_scan, Cursor.between]
  unfold Cursor.number
  cases hscan : Numeral.scan rest with
  | none => rfl
  | some found =>
    obtain ⟨numeral, behind⟩ := found
    obtain ⟨rfl, hnumeral⟩ := Numeral.scan_sound hscan
    simp only [finiteNumber_of_isNumeral hnumeral, shown, between, Cursor.byteSize_append,
      List.append_assoc, Cursor.byteSize_of_isGraphic hnumeral.run_isGraphic]
    split <;> rfl

theorem consume_between (before rest : List Char) (symbol : Char) :
    let outcome := (Cursor.between before rest).consume symbol
    (between before rest).consume symbol =
      some (outcome.1, ⟨String.ofList (before ++ rest), outcome.2.offset⟩) := by
  unfold Cursor.consume
  cases rest with
  | nil => exact consume_between_of_stops stops_nil
  | cons c rest =>
    by_cases hc : c = symbol
    · subst hc
      rw [consume_between_cons]
      simp [between, Cursor.between]
    · rw [consume_between_of_stops (stops_cons.2 (decide_eq_false hc))]
      simp [hc, between, Cursor.between]

theorem expect_between (before rest : List Char) (symbol : Char) :
    (between before rest).expect symbol =
      some (shown (String.ofList (before ++ rest))
        ((Cursor.between before rest).expect symbol)) := by
  rw [expect, consume_between]
  unfold Cursor.expect
  rcases (Cursor.between before rest).consume symbol with ⟨yes, next⟩
  cases yes <;> rfl

theorem skipBlanks_between (before rest : List Char) :
    (between before rest).skipBlanks =
      some ⟨String.ofList (before ++ rest), (Cursor.between before rest).skipBlanks.offset⟩ := by
  rw [skipBlanks, skipWhile_between _ fun _ _ => rfl]
  simp [between, Cursor.between, Cursor.skipBlanks]

/-- **An operation always has its answer**, wherever the text is cut between two characters, and
the two cursors stay in step. -/
theorem perform_between (before rest : List Char) (operation : Cursor.Operation) :
    let outcome := (Cursor.between before rest).perform operation
    (between before rest).perform operation =
      some (outcome.1.result, ⟨String.ofList (before ++ rest), outcome.2.offset⟩) := by
  cases operation with
  | identifier =>
    rw [perform, identifier_between]
    exact map_shown (fun _ => rfl) _ _
  | number =>
    rw [perform, number_between]
    exact map_shown (fun _ => rfl) _ _
  | skipBlanks =>
    rw [perform, skipBlanks_between]
    rfl
  | expect symbol =>
    rw [perform, expect_between]
    exact map_shown (fun _ => rfl) _ _
  | consume symbol =>
    rw [perform, consume_between]
    rfl
  | peek =>
    rw [perform, peek?_between]
    rfl
  | unread =>
    rw [perform, rest?_between, Option.map_some, String.toList_ofList]
    rfl
  | atEnd =>
    rw [perform, atEnd_between]
    rfl

variable {text : String} {taken : List Char} {cursor : Cursor}

theorem perform_of_passes (h : (Cursor.ofText text).Passes taken cursor)
    (operation : Cursor.Operation) :
    perform ⟨text, cursor.offset⟩ operation =
      some ((cursor.perform operation).1.result, ⟨text, (cursor.perform operation).2.offset⟩) := by
  obtain ⟨rest, rfl, rfl⟩ := h.exists_between
  exact perform_between taken rest operation

/-- The two cursors stay in step through any operations. -/
theorem performAll_of_passes (h : (Cursor.ofText text).Passes taken cursor)
    (operations : List Cursor.Operation) :
    performAll ⟨text, cursor.offset⟩ operations =
      some ⟨text, (cursor.performAll operations).offset⟩ := by
  induction operations generalizing taken cursor with
  | nil => rfl
  | cons operation operations ih =>
    obtain ⟨more, hpasses, -⟩ := cursor.perform_cases operation
    rw [performAll, List.foldlM_cons, perform_of_passes h]
    exact ih (h.trans hpasses)

end ByteCursor

namespace Cursor

theorem Passes.cut {text : String} {taken : List Char} {cursor : Cursor}
    (h : (ofText text).Passes taken cursor) :
    String.Pos.Raw.IsValid text ⟨cursor.offset⟩ ∧
      slice? text 0 cursor.offset = some (String.ofList taken) ∧
      slice? text cursor.offset text.utf8ByteSize = some (String.ofList cursor.rest) ∧
      String.ofList taken ++ String.ofList cursor.rest = text := by
  obtain ⟨rest, rfl, rfl⟩ := h.exists_between
  refine ⟨String.Pos.Raw.isValid_iff_exists_append.2 ⟨String.ofList taken, String.ofList rest,
    String.ofList_append, ?_⟩, ?_, ByteCursor.rest?_between, String.ofList_append.symm⟩
  · rw [String.rawEndPos, utf8ByteSize_ofList, between]
  · exact ByteCursor.slice?_between [] taken rest

/-- **A cursor never splits a character**, whatever operations have led it from the start of a text,
those that fail included.

Its offset lies between two characters of the text and not beyond its end, and no operation leads it
back. A cursor that cuts the text at its offsets finds an answer to all operations, since it never
cuts inside a character; the answers and the offsets are the same. And what the text is cut into at
the offset, what has been consumed and what is unread, makes the text. -/
theorem performAll_between_characters (text : String) (before : List Operation)
    (operation : Operation) :
    let cursor := (ofText text).performAll before
    let (answer, next) := cursor.perform operation
    (String.Pos.Raw.IsValid text ⟨cursor.offset⟩ ∧ cursor.offset ≤ text.utf8ByteSize ∧
      cursor.offset ≤ next.offset) ∧
    ((ByteCursor.ofText text).performAll before = some ⟨text, cursor.offset⟩ ∧
      ByteCursor.perform ⟨text, cursor.offset⟩ operation =
        some (answer.result, ⟨text, next.offset⟩)) ∧
    ∃ consumed, slice? text 0 cursor.offset = some consumed ∧
      slice? text cursor.offset text.utf8ByteSize = some (String.ofList cursor.rest) ∧
      consumed ++ String.ofList cursor.rest = text := by
  intro cursor
  obtain ⟨taken, hpasses⟩ := exists_performAll_passes (ofText text) before
  obtain ⟨more, hmore, -⟩ := cursor.perform_cases operation
  have hle : cursor.offset ≤ (cursor.perform operation).2.offset :=
    hmore.offset_eq ▸ Nat.le_add_right _ _
  obtain ⟨hvalid, hparts⟩ := hpasses.cut
  exact ⟨⟨hvalid, hvalid.le_utf8ByteSize, hle⟩,
    ⟨ByteCursor.performAll_of_passes (.refl _) before,
      ByteCursor.perform_of_passes hpasses operation⟩, _, hparts⟩

end Cursor

end Fairweather
