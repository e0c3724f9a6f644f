import Fairweather.Calendar.Reading
import Fairweather.Proofs.Calendar.Order
import Fairweather.Proofs.Results

/-!
# Times without seconds, times without a fraction

The fields that no part of a format is about keep what they begin with (`readParts_ok`). So a
timestamp that is read without seconds is in no leap second (`not_isLeap_of_readTimestamp`), and one
that is read without a fraction is a whole second (`isWholeSecond_of_readTimestamp`), as all times
of a forecast are.
-/

namespace Fairweather

namespace Calendar

theorem Part.read_ok {part : Part} {fields fields' : Fields} {text rest : List Char}
    (h : part.read fields text = .ok (fields', rest)) :
    (part ≠ .second → fields'.second = fields.second) ∧
      (part ≠ .fraction → fields'.nanosecond = fields.nanosecond) := by
  cases part with
  | blanks =>
    cases h
    exact ⟨fun _ => rfl, fun _ => rfl⟩
  | symbol c =>
    cases text with
    | nil => cases h
    | cons d text =>
      simp only [read] at h
      split at h <;> cases h
      exact ⟨fun _ => rfl, fun _ => rfl⟩
  | year | month | day | hour | minute | second | fraction =>
    obtain ⟨_, _, h⟩ := bind_eq_ok.1 h
    cases h
    simp

theorem readParts_ok {parts : List Part} {fields fields' : Fields} {text : List Char}
    (h : readParts parts fields text = .ok fields') :
    (.second ∉ parts → fields'.second = fields.second) ∧
      (.fraction ∉ parts → fields'.nanosecond = fields.nanosecond) := by
  induction parts generalizing fields text with
  | nil =>
    cases text <;> cases h
    exact ⟨fun _ => rfl, fun _ => rfl⟩
  | cons part parts ih =>
    rw [readParts] at h
    split at h
    · next hread =>
      obtain ⟨hsecond, hnanosecond⟩ := Part.read_ok hread
      simp only [List.mem_cons, not_or]
      refine ⟨fun ⟨hne, hnot⟩ => ?_, fun ⟨hne, hnot⟩ => ?_⟩
      · rw [(ih h).1 hnot, hsecond (Ne.symm hne)]
      · rw [(ih h).2 hnot, hnanosecond (Ne.symm hne)]
    · cases h

theorem nanosecond_of_timestamp? {fields : Fields} {t : Timestamp}
    (h : fields.timestamp? = some t) : t.nanosecond = fields.time.2 := by
  unfold Fields.timestamp? at h
  split at h
  · cases h
  · dsimp only at h
    split at h <;> cases h
    rfl

/-- A time that is read has the nanoseconds of the fields that were read. -/
theorem exists_fields_of_readTimestamp {format : List Part} {text : List Char} {t : Timestamp}
    (h : readTimestamp format text = .ok t) :
    ∃ fields, readParts format .zero text = .ok fields ∧ t.nanosecond = fields.time.2 := by
  obtain ⟨fields, hparts, h⟩ := bind_eq_ok.1 h
  refine ⟨fields, hparts, ?_⟩
  split at h
  · next u hu =>
    cases h
    exact nanosecond_of_timestamp? hu
  · cases h

/-- **A time without seconds is in no leap second.** -/
theorem not_isLeap_of_readTimestamp {format : List Part} {text : List Char} {t : Timestamp}
    (hsecond : .second ∉ format) (hfraction : .fraction ∉ format)
    (h : readTimestamp format text = .ok t) : t.isLeap = false := by
  obtain ⟨fields, hparts, hnanosecond⟩ := exists_fields_of_readTimestamp h
  obtain ⟨hs, hn⟩ := readParts_ok hparts
  rw [Timestamp.not_isLeap_iff, hnanosecond]
  simp [Fields.time, hs hsecond, hn hfraction, Fields.zero]

/-- **A time without a fraction is a whole second**, which may be a leap second. -/
theorem isWholeSecond_of_readTimestamp {format : List Part} {text : List Char} {t : Timestamp}
    (hfraction : .fraction ∉ format) (h : readTimestamp format text = .ok t) :
    t.IsWholeSecond := by
  obtain ⟨fields, hparts, hnanosecond⟩ := exists_fields_of_readTimestamp h
  have hn := (readParts_ok hparts).2 hfraction
  rw [Timestamp.IsWholeSecond, hnanosecond, Fields.time]
  by_cases hsixty : fields.second = 60
  · simp [hsixty, hn, Fields.zero]
  · simp [hsixty, hn, Fields.zero]

end Calendar

theorem Timestamp.isWholeSecond_of_ofForecast? {text : String} {t : Timestamp}
    (h : ofForecast? text = some t) : t.IsWholeSecond := by
  obtain ⟨format, hformat, hread⟩ := List.exists_of_findSome?_eq_some h
  have hfraction : ∀ format ∈ Calendar.forecastFormats, .fraction ∉ format := by decide
  cases hresult : Calendar.readTimestamp format text.toList with
  | error fault => simp [hresult, Except.toOption] at hread
  | ok u =>
    simp only [hresult, Except.toOption, Option.some.injEq] at hread
    exact hread ▸ Calendar.isWholeSecond_of_readTimestamp (hfraction format hformat) hresult

end Fairweather
