import Mathlib.Tactic.IntervalCases
import Fairweather.Proofs.Text.Runs
import Fairweather.Text.Blank

/-!
# Digits

Digits are visible characters, so no blank is one. A number that is written in decimal digits, with
any number of zeros in front, is a run of digits that denotes the number.
-/

namespace Fairweather

theorem not_blank_of_visible {c : Char} (hlow : 32 < c.toNat) (hhigh : c.toNat < 127) :
    isBlank c = false := by
  unfold isBlank
  simp only [Bool.or_eq_false_iff, Bool.and_eq_false_iff, decide_eq_false_iff_not,
    beq_eq_false_iff_ne]
  omega

theorem visible_of_isDigit {c : Char} (h : c.isDigit) : 32 < c.toNat ∧ c.toNat < 127 := by
  simp only [Char.isDigit, Bool.and_eq_true, decide_eq_true_eq, ge_iff_le,
    UInt32.le_iff_toNat_le] at h
  exact ⟨Nat.lt_of_lt_of_le (by decide) h.1, Nat.lt_of_le_of_lt h.2 (by decide)⟩

theorem not_blank_of_isDigit (c : Char) (h : c.isDigit) : isBlank c = false :=
  not_blank_of_visible (visible_of_isDigit h).1 (visible_of_isDigit h).2

namespace Text

theorem run_append {kind : Char → Bool} {text rest : List Char} (htext : Run kind text)
    (hrest : Run kind rest) : Run kind (text ++ rest) := by
  intro c hc
  rcases List.mem_append.1 hc with h | h
  · exact htext c h
  · exact hrest c h

theorem run_toDigits (n : Nat) : Run Char.isDigit (Nat.toDigits 10 n) :=
  fun _ h => Nat.isDigit_of_mem_toDigits (by decide) (by decide) h

theorem head?_toDigits_ne {n : Nat} (h : 0 < n) : (Nat.toDigits 10 n).head? ≠ some '0' := by
  induction n using Nat.strongRecOn with
  | ind n ih =>
    by_cases hn : n < 10
    · rw [Nat.toDigits_of_lt_base hn]
      interval_cases n <;> decide
    · have hfirst := ih (n / 10) (by omega) (by omega)
      rw [Nat.toDigits_of_base_le (by decide) (not_lt.1 hn)]
      cases hdigits : Nat.toDigits 10 (n / 10) with
      | nil => exact absurd hdigits Nat.toDigits_ne_nil
      | cons c digits => simpa [hdigits] using hfirst

theorem run_zeros (n : Nat) : Run Char.isDigit (List.replicate n '0') := by
  intro c hc
  rw [List.eq_of_mem_replicate hc]
  decide

theorem ofDigitChars_zeros_toDigits (zeros n : Nat) :
    Nat.ofDigitChars 10 (List.replicate zeros '0' ++ Nat.toDigits 10 n) 0 = n := by
  rw [Nat.ofDigitChars_append, Nat.ofDigitChars_replicate_zero, Nat.mul_zero,
    Nat.ofDigitChars_ten_toDigits]

end Text

end Fairweather
