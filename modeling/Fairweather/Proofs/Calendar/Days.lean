import Mathlib
import Fairweather.Calendar.Day

/-!
# Days and their dates

The year of a day is guessed from the mean length of a year and corrected by one. The guess is good
enough for all days, also before the year 0 (`Calendar.yearOf_spec`). Within the year, going through
the lengths of the months splits the day of the year into whole months and what is left of it
(`Calendar.splitMonths_spec`).

So the date of a day is one that its month has (`Civil.ofDay_spec`), and the day of that date is the
day again (`Civil.toDay?_ofDay`).
-/

namespace Fairweather

namespace Calendar

/-! ## Years -/

theorem yearStart_succ (year : Int) :
    yearStart (year + 1) = yearStart year + if isLeapYear year then 366 else 365 := by
  unfold yearStart isLeapYear
  simp only [Bool.and_eq_true, Bool.or_eq_true, decide_eq_true_eq]
  split_ifs <;> omega

theorem yearStart_strictMono : StrictMono yearStart := by
  refine strictMono_int_of_lt_succ fun year => ?_
  rw [yearStart_succ]
  split_ifs <;> omega

/-- **The year of a day holds the day.** The guess is off by at most one year. -/
theorem yearOf_spec (day : Int) :
    yearStart (yearOf day) ≤ day ∧ day < yearStart (yearOf day + 1) := by
  have hbefore : yearStart (day * 400 / 146097 - 1) ≤ day := by
    unfold yearStart
    omega
  have hafter : day < yearStart (day * 400 / 146097 + 1 + 1) := by
    unfold yearStart
    omega
  unfold yearOf
  dsimp only
  split_ifs with hearly hlate
  · rw [Int.sub_add_cancel]
    exact ⟨hbefore, hearly⟩
  · exact ⟨hlate, hafter⟩
  · exact ⟨not_lt.1 hearly, not_le.1 hlate⟩

theorem yearOf_mem {day : Int} (h : firstDay ≤ day ∧ day ≤ lastDay) :
    -262143 ≤ yearOf day ∧ yearOf day ≤ 262142 := by
  obtain ⟨hstart, hend⟩ := yearOf_spec day
  unfold firstDay lastDay at h
  have hleast := yearStart_strictMono.lt_iff_lt.1 (h.1.trans_lt hend)
  have hgreatest := yearStart_strictMono.lt_iff_lt.1 (hstart.trans_lt (Int.lt_of_le_sub_one h.2))
  omega

/-! ## Months -/

theorem monthLengths_sum (year : Int) :
    (monthLengths year).sum = if isLeapYear year then 366 else 365 := by
  unfold monthLengths
  cases isLeapYear year <;> rfl

theorem le_of_mem_monthLengths {year : Int} {length : Nat} (h : length ∈ monthLengths year) :
    length ≤ 31 := by
  have hall : ∀ february ≤ 29,
      ∀ l ∈ [31, february, 31, 30, 31, 30, 31, 31, 30, 31, 30, 31], l ≤ 31 := by decide
  exact hall _ (by split_ifs <;> omega) length h

/-- **Whole months and the days behind them** make up the day of the year. -/
theorem splitMonths_spec {lengths : List Nat} {days : Nat} (h : days < lengths.sum) :
    ∃ length, lengths[(splitMonths lengths days).1]? = some length ∧
      (splitMonths lengths days).2 < length ∧
      (lengths.take (splitMonths lengths days).1).sum + (splitMonths lengths days).2 = days := by
  induction lengths generalizing days with
  | nil => simp at h
  | cons length rest ih =>
    rw [splitMonths]
    split_ifs with hlt
    · exact ⟨length, rfl, hlt, by simp⟩
    · rw [List.sum_cons] at h
      obtain ⟨found, hfound, hdays, hsum⟩ := ih (show days - length < rest.sum by omega)
      refine ⟨found, by simpa using hfound, hdays, ?_⟩
      simp only [List.take_succ_cons, List.sum_cons]
      omega

end Calendar

namespace Civil

open Calendar

/-- **The date of a day**: its year holds the day, and its month has such a day. -/
theorem ofDay_spec (day : Int) :
    ∃ months days length, ofDay day = ⟨yearOf day, months + 1, days + 1⟩ ∧
      (monthLengths (yearOf day))[months]? = some length ∧ days < length ∧
      yearStart (yearOf day) + ((monthLengths (yearOf day)).take months).sum + days = day := by
  obtain ⟨hstart, hend⟩ := yearOf_spec day
  rw [yearStart_succ] at hend
  have hdays : (day - yearStart (yearOf day)).toNat < (monthLengths (yearOf day)).sum := by
    rw [monthLengths_sum]
    split_ifs at * <;> omega
  obtain ⟨length, hlength, hlt, hsum⟩ := splitMonths_spec hdays
  cases hsplit : splitMonths (monthLengths (yearOf day)) (day - yearStart (yearOf day)).toNat with
  | mk months days =>
    rw [hsplit] at hlength hlt hsum
    refine ⟨months, days, length, by simp [ofDay, hsplit], hlength, hlt, ?_⟩
    dsimp only at hsum
    omega

/-- **The day of the date of a day** is the day. -/
theorem toDay?_ofDay (day : Int) : (ofDay day).toDay? = some day := by
  obtain ⟨months, days, length, hdate, hlength, hlt, hday⟩ := ofDay_spec day
  rw [hdate]
  simp only [toDay?, hlength, if_pos hlt]
  exact congrArg some hday

theorem ofDay_mem {day : Int} (h : firstDay ≤ day ∧ day ≤ lastDay) :
    (-262143 ≤ (ofDay day).year ∧ (ofDay day).year ≤ 262142) ∧
    (1 ≤ (ofDay day).month ∧ (ofDay day).month ≤ 12) ∧
    1 ≤ (ofDay day).day ∧ (ofDay day).day ≤ 31 := by
  obtain ⟨months, days, length, hdate, hlength, hlt, -⟩ := ofDay_spec day
  have hmonths : months < 12 := (List.getElem?_eq_some_iff.1 hlength).1
  have hle := le_of_mem_monthLengths (List.mem_of_getElem? hlength)
  rw [hdate]
  exact ⟨yearOf_mem h, by dsimp only; omega, by dsimp only; omega⟩

end Civil

end Fairweather
