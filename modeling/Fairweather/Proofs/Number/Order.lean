import Fairweather.Expression.Token

/-!
# The order of numbers

The numbers stand in a line by their signed ranks, the infinities at its ends and both zeros at one
place; what is not a number stands nowhere. So an order between two numbers is one between whole
numbers, and exactly one comparison holds of any two of them (`Comparison.exists_holds_eq`), none of
what is not a number.
-/

namespace Fairweather

namespace Binary64

variable {x y z : Binary64}

theorem exists_signedRank (h : x ≠ .nan) : ∃ a, x.signedRank = some a := by
  cases x with
  | nan => exact absurd rfl h
  | signed negative rank => exact ⟨_, rfl⟩

theorem le_eq_true_iff :
    x.le y = true ↔ ∃ a b, x.signedRank = some a ∧ y.signedRank = some b ∧ a ≤ b := by
  unfold le
  cases x.signedRank <;> cases y.signedRank <;> simp

theorem lt_eq_true_iff :
    x.lt y = true ↔ ∃ a b, x.signedRank = some a ∧ y.signedRank = some b ∧ a < b := by
  unfold lt
  cases x.signedRank <;> cases y.signedRank <;> simp

theorem le_trans (hxy : x.le y) (hyz : y.le z) : x.le z := by
  obtain ⟨a, b, hx, hy, hab⟩ := le_eq_true_iff.1 hxy
  obtain ⟨b', c, hy', hz, hbc⟩ := le_eq_true_iff.1 hyz
  rw [hy, Option.some.injEq] at hy'
  exact le_eq_true_iff.2 ⟨a, c, hx, hz, by omega⟩

theorem lt_of_le_of_lt (hxy : x.le y) (hyz : y.lt z) : x.lt z := by
  obtain ⟨a, b, hx, hy, hab⟩ := le_eq_true_iff.1 hxy
  obtain ⟨b', c, hy', hz, hbc⟩ := lt_eq_true_iff.1 hyz
  rw [hy, Option.some.injEq] at hy'
  exact lt_eq_true_iff.2 ⟨a, c, hx, hz, by omega⟩

theorem lt_of_lt_of_le (hxy : x.lt y) (hyz : y.le z) : x.lt z := by
  obtain ⟨a, b, hx, hy, hab⟩ := lt_eq_true_iff.1 hxy
  obtain ⟨b', c, hy', hz, hbc⟩ := le_eq_true_iff.1 hyz
  rw [hy, Option.some.injEq] at hy'
  exact lt_eq_true_iff.2 ⟨a, c, hx, hz, by omega⟩

end Binary64

namespace Comparison

variable {x y : Binary64}

theorem holds_nan (c : Comparison) (bound : Binary64) : c.holds .nan bound = false := by
  cases c <;> cases bound <;> rfl

/-- **Exactly one comparison holds** of two numbers. -/
theorem exists_holds_eq (hx : x ≠ .nan) (hy : y ≠ .nan) :
    ∃ c : Comparison, ∀ c', c'.holds x y = decide (c' = c) := by
  obtain ⟨a, ha⟩ := Binary64.exists_signedRank hx
  obtain ⟨b, hb⟩ := Binary64.exists_signedRank hy
  have hholds : greater.holds x y = decide (b < a) ∧ less.holds x y = decide (a < b) ∧
      equal.holds x y = decide (a = b) := by
    simp [holds, Binary64.lt, Binary64.equals, ha, hb]
  obtain ⟨hgreater, hless, hequal⟩ := hholds
  rcases Int.lt_trichotomy a b with hlt | heq | hgt
  · refine ⟨less, fun c' => ?_⟩
    cases c' <;> simp [hgreater, hless, hequal] <;> omega
  · refine ⟨equal, fun c' => ?_⟩
    cases c' <;> simp [hgreater, hless, hequal] <;> omega
  · refine ⟨greater, fun c' => ?_⟩
    cases c' <;> simp [hgreater, hless, hequal] <;> omega

end Comparison

end Fairweather
