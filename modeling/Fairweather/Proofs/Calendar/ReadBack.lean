import Mathlib
import Fairweather.Calendar.Writing
import Fairweather.Proofs.Calendar.Days
import Fairweather.Proofs.Calendar.Reading
import Fairweather.Proofs.Text.Digits

/-!
# Written timestamps read back

A timestamp is written by its date, hour, minute and second, which a format lists as parts with
separators between them. This module shows that what is written is read as the timestamp that it
was written for, in any year of the calendar, if it is a time that a clock shows.

**On a clock** a leap second is at the end of a minute and is second 60. A timestamp may have one
anywhere, but there it is written as the second behind it (`Timestamp.onClock`).

**Parts.** Each part is read as it is written (`Part.read_chars`), when what follows is not taken
for more of it (`Part.EndsBefore`). Two-digit numbers are read to their width; a year within 9999 is
read to four digits, and any other by its sign and up to the separator.

**Formats.** By induction over the parts, a format reads what it writes (`readParts_formatChars`).
The fields of a timestamp make it again, as it is on a clock (`Timestamp.timestamp?_fields`), since
the date of a day leads back to the day. The format of records has a part for every field, so it
reads what is written of any timestamp (`Timestamp.ofRecord_text`).

**Both formats.** The format without seconds is the beginning of the one with them. A text that the
first reads to its end leaves nothing for the rest of the second (`readParts_append`), so no text
has both, and it does not matter which is tried first.

Main result: `Timestamp.ofForecast?_text_and_formats_apart`.
-/

namespace Fairweather

open Text

namespace Calendar

/-! ## Numbers -/

theorem padded_ne_nil (width n : Nat) : padded width n ≠ [] :=
  List.append_ne_nil_of_right_ne_nil _ Nat.toDigits_ne_nil

theorem run_padded (width n : Nat) : Run Char.isDigit (padded width n) :=
  run_append (run_zeros _) (run_toDigits n)

theorem length_padded {width n : Nat} (hwidth : 0 < width) (h : n < 10 ^ width) :
    (padded width n).length = width := by
  have := (Nat.length_toDigits_le_iff (by decide) hwidth).2 h
  simp only [padded, List.length_append, List.length_replicate]
  omega

theorem readDigits_run {most : Nat} {digits rest : List Char} (hne : digits ≠ [])
    (hrun : Run Char.isDigit digits) (hmost : digits.length ≤ most)
    (hrest : Stops Char.isDigit rest) : readDigits most (digits ++ rest) = .ok (digits, rest) := by
  have hstops : Stops Char.isDigit (rest.take (most - digits.length)) := by
    cases rest with
    | nil => simp
    | cons c rest =>
      cases most - digits.length with
      | zero => simp
      | succ _ => simpa using hrest
  cases digits with
  | nil => exact absurd rfl hne
  | cons c digits =>
    rw [List.cons_append, readDigits, ← List.cons_append, List.take_append,
      List.take_of_length_le hmost, takeWhile_run hrun hstops]
    simp

theorem readNumber_padded {most least greatest width n : Nat} {rest : List Char}
    (hmost : (padded width n).length ≤ most) (hleast : least ≤ n) (hgreatest : n ≤ greatest)
    (hrest : Stops Char.isDigit rest) :
    readNumber most least greatest (padded width n ++ rest) = .ok (n, rest) := by
  have hvalue : Nat.ofDigitChars 10 (padded width n) 0 = n := ofDigitChars_zeros_toDigits _ n
  rw [readNumber, readDigits_run (padded_ne_nil width n) (run_padded width n) hmost hrest]
  simp [bind, Except.bind, pure, Except.pure, hvalue, hleast, hgreatest]

/-- **A year is read as it is written**, with a sign or without. -/
theorem readYear_yearChars {year : Int} {rest : List Char} (hleast : -2147483648 ≤ year)
    (hgreatest : year ≤ 2147483647) (hrest : Stops Char.isDigit rest) :
    readYear (yearChars year ++ rest) = .ok (year, rest) := by
  cases year with
  | ofNat n =>
    rw [yearChars]
    split_ifs with hshort
    · have hlength : (padded 4 n).length ≤ 4 :=
        (length_padded (by decide) (Nat.lt_succ_of_le hshort)).le
      have hread := readNumber_padded hlength (Nat.zero_le n) hshort hrest
      -- the first digit is no sign
      obtain ⟨c, digits, hcons⟩ := List.exists_cons_of_ne_nil (padded_ne_nil 4 n)
      have hc := run_padded 4 n c (by simp [hcons])
      rw [hcons, List.cons_append] at hread ⊢
      have hminus : c ≠ '-' := by rintro rfl; cases hc
      have hplus : c ≠ '+' := by rintro rfl; cases hc
      rw [readYear]
      · simp [hread, Except.map]
      · simpa using hminus
      · simpa using hplus
    · have hread : readNumber (padded 4 n ++ rest).length 0 2147483647 (padded 4 n ++ rest) =
          .ok (n, rest) :=
        readNumber_padded (by simp) (Nat.zero_le n) (Int.ofNat_le.1 hgreatest) hrest
      rw [List.cons_append]
      exact congrArg (Except.map fun p => ((p.1 : Int), p.2)) hread
  | negSucc n =>
    have hread : readNumber (padded 4 (n + 1) ++ rest).length 0 2147483648
        (padded 4 (n + 1) ++ rest) = .ok (n + 1, rest) :=
      readNumber_padded (by simp) (Nat.zero_le _) (by omega) hrest
    exact congrArg (Except.map fun p => (-(p.1 : Int), p.2)) hread

theorem dropWhile_isBlank_padded (width n : Nat) (rest : List Char) :
    (padded width n ++ rest).dropWhile isBlank = padded width n ++ rest := by
  obtain ⟨c, digits, hcons⟩ := List.exists_cons_of_ne_nil (padded_ne_nil width n)
  have hc := run_padded width n c (by simp [hcons])
  simp [hcons, not_blank_of_isDigit c hc]

theorem dropWhile_isBlank_yearChars (year : Int) (rest : List Char) :
    (yearChars year ++ rest).dropWhile isBlank = yearChars year ++ rest := by
  have hplus : isBlank '+' = false := by decide
  have hminus : isBlank '-' = false := by decide
  cases year with
  | ofNat n =>
    rw [yearChars]
    split_ifs
    · exact dropWhile_isBlank_padded 4 n rest
    · simp [hplus]
  | negSucc n => simp [yearChars, hminus]

theorem readFraction_fractionChars {nanosecond : Nat} {rest : List Char}
    (hlt : nanosecond < 1000000000) (hrest : Stops Char.isDigit rest)
    (hpoint : rest.head? ≠ some '.') :
    readFraction (fractionChars nanosecond ++ rest) = .ok (nanosecond, rest) := by
  have hread : ∀ width n, 0 < width → width ≤ 9 → n < 10 ^ width →
      n * 10 ^ (9 - width) = nanosecond →
      readFraction ('.' :: padded width n ++ rest) = .ok (nanosecond, rest) := by
    intro width n hpos hwidth hn hvalue
    have hlength := length_padded hpos hn
    have hdigits := readDigits_run (padded_ne_nil width n) (run_padded width n)
      (hlength.trans_le hwidth) hrest
    have hofDigits : Nat.ofDigitChars 10 (padded width n) 0 = n := ofDigitChars_zeros_toDigits _ n
    have hdrop : rest.dropWhile Char.isDigit = rest := dropWhile_run run_nil hrest
    rw [List.cons_append, readFraction, hdigits]
    simp [bind, Except.bind, pure, Except.pure, hofDigits, hlength, hdrop, hvalue]
  unfold fractionChars
  split_ifs with h₀ h₃ h₆
  · subst h₀
    cases rest with
    | nil => rfl
    | cons c rest =>
      have hc : c ≠ '.' := by simpa using hpoint
      rw [List.nil_append, readFraction]
      · rfl
      · simpa using hc
  · exact hread 3 _ (by decide) (by decide) (by omega) (by omega)
  · exact hread 6 _ (by decide) (by decide) (by omega) (by omega)
  · exact hread 9 _ (by decide) (by decide) (by omega) (by omega)

/-! ## Parts -/

/-- The numbers are in the ranges that a reader accepts. -/
structure Fields.InRange (fields : Fields) : Prop where
  year : -2147483648 ≤ fields.year ∧ fields.year ≤ 2147483647
  month : 1 ≤ fields.month ∧ fields.month ≤ 12
  day : 1 ≤ fields.day ∧ fields.day ≤ 31
  hour : fields.hour ≤ 23
  minute : fields.minute ≤ 59
  second : fields.second ≤ 60
  nanosecond : fields.nanosecond < 1000000000

namespace Part

/-- How a part is written. -/
def chars (fields : Fields) : Part → List Char
  | year => yearChars fields.year
  | month => padded 2 fields.month
  | day => padded 2 fields.day
  | hour => padded 2 fields.hour
  | minute => padded 2 fields.minute
  | second => padded 2 fields.second
  | fraction => fractionChars fields.nanosecond
  | blanks => []
  | symbol c => [c]

/-- What is known of `target` when a part of `source` has been read as well. -/
def copy (source target : Fields) : Part → Fields
  | year => { target with year := source.year }
  | month => { target with month := source.month }
  | day => { target with day := source.day }
  | hour => { target with hour := source.hour }
  | minute => { target with minute := source.minute }
  | second => { target with second := source.second }
  | fraction => { target with nanosecond := source.nanosecond }
  | blanks | symbol _ => target

/-- The text that follows a part is not taken for more of it. -/
def EndsBefore (rest : List Char) : Part → Prop
  | symbol _ => True
  | blanks => Stops isBlank rest
  | fraction => Stops Char.isDigit rest ∧ rest.head? ≠ some '.'
  | year | month | day | hour | minute | second => Stops Char.isDigit rest

theorem readNumber_two {least greatest n : Nat} {rest : List Char} (hbound : greatest < 100)
    (hleast : least ≤ n) (hgreatest : n ≤ greatest) (hrest : Stops Char.isDigit rest) :
    readNumber 2 least greatest ((padded 2 n ++ rest).dropWhile isBlank) = .ok (n, rest) := by
  have hlength := length_padded (show 0 < 2 by decide) (hgreatest.trans_lt hbound)
  rw [dropWhile_isBlank_padded]
  exact readNumber_padded hlength.le hleast hgreatest hrest

/-- **A part is read as it is written.** -/
theorem read_chars {source : Fields} (h : source.InRange) (target : Fields) {part : Part}
    {rest : List Char} (hrest : part.EndsBefore rest) :
    part.read target (part.chars source ++ rest) = .ok (part.copy source target, rest) := by
  cases part with
  | year =>
    have hread := readYear_yearChars h.year.1 h.year.2 hrest
    simp [read, chars, copy, dropWhile_isBlank_yearChars, hread, bind, Except.bind, pure,
      Except.pure]
  | month =>
    have hread := readNumber_two (by decide) h.month.1 h.month.2 hrest
    simp only [read, chars, hread]
    rfl
  | day =>
    have hread := readNumber_two (by decide) h.day.1 h.day.2 hrest
    simp only [read, chars, hread]
    rfl
  | hour =>
    have hread := readNumber_two (by decide) (Nat.zero_le _) h.hour hrest
    simp only [read, chars, hread]
    rfl
  | minute =>
    have hread := readNumber_two (by decide) (Nat.zero_le _) h.minute hrest
    simp only [read, chars, hread]
    rfl
  | second =>
    have hread := readNumber_two (by decide) (Nat.zero_le _) h.second hrest
    simp only [read, chars, hread]
    rfl
  | fraction =>
    have hread := readFraction_fractionChars h.nanosecond hrest.1 hrest.2
    simp only [read, chars, hread]
    rfl
  | blanks =>
    have hdrop : rest.dropWhile isBlank = rest := dropWhile_run run_nil hrest
    simp [read, chars, copy, hdrop, pure, Except.pure]
  | symbol c => simp [read, chars, copy, pure, Except.pure]

end Part

/-! ## Formats -/

/-- The fields as a format writes them. -/
def formatChars (fields : Fields) (format : List Part) : List Char :=
  format.flatMap (Part.chars fields)

/-- No part of the written text is taken for more of the part before it. -/
def Delimited (fields : Fields) : List Part → Prop
  | [] => True
  | part :: format => part.EndsBefore (formatChars fields format) ∧ Delimited fields format

/-- **What a format writes it reads**: the fields that it has parts for. -/
theorem readParts_formatChars {source : Fields} (h : source.InRange) {format : List Part}
    (hformat : Delimited source format) (target : Fields) :
    readParts format target (formatChars source format) =
      .ok (format.foldl (fun fields part => part.copy source fields) target) := by
  induction format generalizing target with
  | nil => rfl
  | cons part format ih =>
    obtain ⟨hpart, hformat⟩ := hformat
    have hread := Part.read_chars h target hpart
    rw [formatChars, List.flatMap_cons, ← formatChars, readParts, hread]
    exact ih hformat _

/-- A text that a format has to its end, a longer format reads on behind. -/
theorem readParts_append {format : List Part} {fields fields' : Fields} {text : List Char}
    (h : readParts format fields text = .ok fields') (more : List Part) :
    readParts (format ++ more) fields text = readParts more fields' [] := by
  induction format generalizing fields text with
  | nil =>
    cases text with
    | nil =>
      cases h
      rfl
    | cons _ _ => cases h
  | cons part format ih =>
    rw [readParts] at h
    rw [List.cons_append, readParts]
    split at h
    · exact ih h
    · cases h

/-- The format of forecasts that leaves out the seconds. -/
def minutesFormat : List Part :=
  [.year, .symbol '-', .month, .symbol '-', .day, .symbol 'T', .hour, .symbol ':', .minute]

/-- The format of forecasts that gives the seconds. -/
def secondsFormat : List Part := minutesFormat ++ [.symbol ':', .second]

theorem forecastFormats_eq : forecastFormats = [minutesFormat, secondsFormat] := rfl

/-- **No text has both formats**: where the first has come to the end of the text, the second asks
for a colon. -/
theorem not_secondsFormat_of_minutesFormat {text : List Char} {t : Timestamp}
    (h : readTimestamp minutesFormat text = .ok t) (u : Timestamp) :
    readTimestamp secondsFormat text ≠ .ok u := by
  obtain ⟨fields, hfields, -⟩ := bind_eq_ok.1 h
  have hseconds : readParts secondsFormat .zero text = .error .tooShort :=
    readParts_append hfields _
  rw [readTimestamp, hseconds]
  exact nofun

end Calendar

open Calendar

namespace Timestamp

/-- A clock shows this time: if it is in a leap second, this is at the end of a minute. -/
def IsClockTime (t : Timestamp) : Prop := t.isLeap → t.second % 60 = 59

instance (t : Timestamp) : Decidable t.IsClockTime :=
  inferInstanceAs (Decidable (t.isLeap → t.second % 60 = 59))

/-- The timestamp as a clock shows it: a leap second within a minute is the second behind it. -/
def onClock (t : Timestamp) : Timestamp :=
  if h : t.isLeap ∧ t.second % 60 ≠ 59 then
    { t with
      second := t.second + 1
      nanosecond := t.nanosecond - 1000000000
      second_lt := by
        have := t.second_lt
        omega
      nanosecond_lt := by
        have := t.nanosecond_lt
        omega }
  else t

theorem onClock_eq_iff {t : Timestamp} : t.onClock = t ↔ t.IsClockTime := by
  unfold onClock IsClockTime
  split_ifs with h
  · refine iff_of_false (fun heq => ?_) fun himp => h.2 (himp h.1)
    have hsecond := congrArg Timestamp.second heq
    exact absurd hsecond (Nat.succ_ne_self t.second)
  · exact iff_of_true rfl fun hleap => not_not.1 fun hne => h ⟨hleap, hne⟩

theorem onClock_day (t : Timestamp) : t.onClock.day = t.day := by
  unfold onClock
  split_ifs <;> rfl

/-- The fields that a timestamp is written with. A leap second is second 60. -/
def fields (t : Timestamp) : Fields where
  year := (Civil.ofDay t.day).year
  month := (Civil.ofDay t.day).month
  day := (Civil.ofDay t.day).day
  hour := t.second / 3600
  minute := t.second / 60 % 60
  second := t.second % 60 + t.nanosecond / 1000000000
  nanosecond := t.nanosecond % 1000000000

theorem fields_inRange (t : Timestamp) : t.fields.InRange := by
  obtain ⟨hyear, hmonth, hday⟩ := Civil.ofDay_mem t.day_mem
  have hsecond := t.second_lt
  have hnanosecond := t.nanosecond_lt
  constructor <;> simp only [fields] <;> omega

theorem time_fields (t : Timestamp) :
    t.fields.time = (t.onClock.second, t.onClock.nanosecond) := by
  have hnanosecond := t.nanosecond_lt
  unfold Fields.time fields onClock
  simp only [isLeap_iff]
  split_ifs <;> simp only [Prod.mk.injEq] <;> omega

/-- **The fields of a timestamp** make the timestamp that a clock shows. -/
theorem timestamp?_fields (t : Timestamp) : t.fields.timestamp? = some t.onClock := by
  have hday : (Civil.mk t.fields.year t.fields.month t.fields.day).toDay? = some t.onClock.day :=
    (Civil.toDay?_ofDay t.day).trans (congrArg some t.onClock_day.symm)
  rw [Fields.timestamp?, hday, time_fields]
  exact dif_pos ⟨t.onClock.day_mem, t.onClock.second_lt, t.onClock.nanosecond_lt⟩

/-- **A format reads what it writes of a timestamp**, if it has a part for every field that is not
zero. -/
theorem readTimestamp_formatChars {t : Timestamp} {format : List Part}
    (hdelimited : Delimited t.fields format)
    (hfields : format.foldl (fun fields part => part.copy t.fields fields) .zero = t.fields) :
    readTimestamp format (formatChars t.fields format) = .ok t.onClock := by
  rw [readTimestamp, readParts_formatChars t.fields_inRange hdelimited, hfields]
  simp [bind, Except.bind, timestamp?_fields, pure, Except.pure]

/-- **A whole second is read as it is written**, in the format that gives the seconds. -/
theorem readTimestamp_chars {t : Timestamp} (h : t.IsWholeSecond) :
    readTimestamp secondsFormat (t.chars 'T') = .ok t.onClock := by
  have hnanosecond : t.nanosecond % 1000000000 = 0 := by
    rcases h with h | h <;> simp [h]
  have hchars : t.chars 'T' = formatChars t.fields secondsFormat := by
    simp [chars, timeChars, Civil.chars, formatChars, secondsFormat, minutesFormat, Part.chars,
      fields, fractionChars, hnanosecond]
  have hdelimited : Delimited t.fields secondsFormat := by
    simp [Delimited, secondsFormat, minutesFormat, Part.EndsBefore, formatChars, Part.chars]
  have hfields : secondsFormat.foldl (fun fields part => part.copy t.fields fields) .zero =
      t.fields := by
    simp [secondsFormat, minutesFormat, Part.copy, Fields.zero, fields, hnanosecond]
  rw [hchars, readTimestamp_formatChars hdelimited hfields]

/-- **Any timestamp is read as it is written**, in the format of records. -/
theorem ofRecord_text (t : Timestamp) : ofRecord t.text = .ok t.onClock := by
  have hchars : t.chars 'T' = formatChars t.fields recordFormat := by
    simp [chars, timeChars, Civil.chars, formatChars, recordFormat, Part.chars, fields]
  have hfraction : Stops Char.isDigit (fractionChars t.fields.nanosecond) := by
    unfold fractionChars
    split_ifs <;> simp
  have hminus : isBlank '-' = false := by decide
  have hcolon : isBlank ':' = false := by decide
  have hletter : isBlank 'T' = false := by decide
  have hdelimited : Delimited t.fields recordFormat := by
    simp [Delimited, recordFormat, Part.EndsBefore, formatChars, Part.chars, hfraction, hminus,
      hcolon, hletter]
  have hfields : recordFormat.foldl (fun fields part => part.copy t.fields fields) .zero =
      t.fields := by
    simp [recordFormat, Part.copy, Fields.zero, fields]
  rw [ofRecord, text, String.toList_ofList, hchars, readTimestamp_formatChars hdelimited hfields]

/-! ## Both formats -/

theorem eq_of_readTimestamp {f g : List Part} (hf : f ∈ forecastFormats) (hg : g ∈ forecastFormats)
    {text : List Char} {t u : Timestamp} (ht : readTimestamp f text = .ok t)
    (hu : readTimestamp g text = .ok u) : f = g := by
  simp only [forecastFormats_eq, List.mem_cons, List.not_mem_nil, or_false] at hf hg
  rcases hf with rfl | rfl <;> rcases hg with rfl | rfl
  · rfl
  · exact absurd hu (not_secondsFormat_of_minutesFormat ht u)
  · exact absurd ht (not_secondsFormat_of_minutesFormat hu t)
  · rfl

/-- **The order of the formats does not matter**: a text has the timestamp that it has in any of
them. -/
theorem findSome?_readTimestamp_eq_some_iff {formats : List (List Part)}
    (h : formats.Perm forecastFormats) {text : List Char} {t : Timestamp} :
    (formats.findSome? fun format => (readTimestamp format text).toOption) = some t ↔
      ∃ format ∈ forecastFormats, readTimestamp format text = .ok t := by
  simp only [← h.mem_iff]
  constructor
  · intro hfind
    obtain ⟨format, hformat, hread⟩ := List.exists_of_findSome?_eq_some hfind
    exact ⟨format, hformat, toOption_eq_some_iff.1 hread⟩
  · rintro ⟨format, hformat, hread⟩
    -- what is found first is read in the same format
    cases hfind : formats.findSome? fun format => (readTimestamp format text).toOption with
    | none =>
      have hnone := List.findSome?_eq_none_iff.1 hfind format hformat
      rw [toOption_eq_some_iff.2 hread] at hnone
      cases hnone
    | some u =>
      obtain ⟨other, hother, hu⟩ := List.exists_of_findSome?_eq_some hfind
      have hu := toOption_eq_some_iff.1 hu
      obtain rfl := eq_of_readTimestamp (h.mem_iff.1 hother) (h.mem_iff.1 hformat) hu hread
      rw [hread] at hu
      cases hu
      rfl

theorem ofForecast?_eq_some_iff {text : String} {t : Timestamp} :
    ofForecast? text = some t ↔
      ∃ format ∈ forecastFormats, readTimestamp format text.toList = .ok t :=
  findSome?_readTimestamp_eq_some_iff (.refl _)

/-- **Written timestamps can be loaded again, and no text has two formats.** A whole second of the
calendar is what its text is read as, just if a clock shows it, leap seconds among them; no text is
a timestamp in both formats of forecasts, so their order makes no difference. -/
theorem ofForecast?_text_and_formats_apart :
    (∀ t : Timestamp, t.IsWholeSecond → (ofForecast? t.text = some t ↔ t.IsClockTime)) ∧
    (forecastFormats.Pairwise fun f g => ∀ text t u,
      ¬ (readTimestamp f text = .ok t ∧ readTimestamp g text = .ok u)) ∧
    ∀ formats : List (List Part), formats.Perm forecastFormats → ∀ text : String,
      (formats.findSome? fun format => (readTimestamp format text.toList).toOption) =
        ofForecast? text := by
  refine ⟨fun t ht => ?_, ?_, fun formats h text => ?_⟩
  · have hread : ofForecast? t.text = some t.onClock := by
      refine ofForecast?_eq_some_iff.2 ⟨secondsFormat, by simp [forecastFormats_eq], ?_⟩
      rw [text, String.toList_ofList]
      exact readTimestamp_chars ht
    rw [hread, Option.some.injEq, onClock_eq_iff]
  · rw [forecastFormats_eq, List.pairwise_pair]
    exact fun text t u h => not_secondsFormat_of_minutesFormat h.1 u h.2
  · ext t
    rw [findSome?_readTimestamp_eq_some_iff h, ofForecast?_eq_some_iff]

/-- The leap second that ends the calendar, with the formats in the other order. -/
theorem ofForecast?_text_and_formats_apart_lastLeapSecond :
    ∃ t : Timestamp, t.IsWholeSecond ∧ t.IsClockTime ∧ t.text = "+262142-12-31T23:59:60" ∧
      ofForecast? t.text = some t ∧ forecastFormats.reverse.Perm forecastFormats ∧
      (forecastFormats.reverse.findSome? fun format =>
        (readTimestamp format t.text.toList).toOption) = some t := by
  obtain ⟨hread, -, horder⟩ := ofForecast?_text_and_formats_apart
  have hperm : forecastFormats.reverse.Perm forecastFormats := List.reverse_perm _
  let t : Timestamp := ⟨lastDay, 86399, 1000000000, by decide, by decide, by decide⟩
  have hwhole : t.IsWholeSecond := .inr rfl
  have hclock : t.IsClockTime := by decide
  have hload : ofForecast? t.text = some t := (hread t hwhole).2 hclock
  refine ⟨t, hwhole, hclock, by decide +kernel, hload, hperm, ?_⟩
  rw [horder _ hperm, hload]

end Timestamp

end Fairweather
