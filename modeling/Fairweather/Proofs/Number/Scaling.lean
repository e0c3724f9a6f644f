import Mathlib
import Fairweather.Number.Scaling
import Fairweather.Proofs.Number.Rounding

/-!
# When scaling is exact

Scaling rounds up to three times: the coefficient, the power of ten, and what the two make. This
module shows that it is correct rounding where the first two of these change nothing.

**Small numbers are exact.** A natural number up to `2 ^ 53` is a number of its own
(`units_rankOfNat`), and so are the powers of ten up to `10 ^ 22`, which have few digits once their
factors of two are taken out (`units_tenRank`).

**One rounding.** The product or quotient of exact magnitudes is that of the decimal, over a common
factor, and a quotient is rounded alike over any common factor (`nearestRank_mul`).

Main result: `Decimal.scaled_eq_toBinary64`. With more digits, scaling can miss the nearest number
(`Decimal.seventeenDigits`).
-/

namespace Fairweather

/-! ## Rounding over a common factor -/

theorem nearestQuotient_mul (num den : Nat) {k : Nat} (hk : 0 < k) :
    nearestQuotient (num * k) (den * k) = nearestQuotient num den := by
  have hexcess : 2 * (num % den * k) = 2 * (num % den) * k := (Nat.mul_assoc 2 _ k).symm
  simp only [nearestQuotient, Nat.mul_div_mul_right _ _ hk, Nat.mul_mod_mul_right, hexcess,
    Nat.mul_lt_mul_right hk]

namespace Binary64

/-- **A quotient is rounded alike over any common factor.** -/
theorem nearestRank_mul (num den : Nat) {k : Nat} (hk : 0 < k) :
    nearestRank (num * k) (den * k) = nearestRank num den := by
  simp only [nearestRank, Nat.mul_div_mul_right _ _ hk, Nat.mul_right_comm den k,
    nearestQuotient_mul _ _ hk]

/-! ## Exact magnitudes -/

theorem isNearest_units (rank : Nat) : IsNearest (units rank) 1 rank where
  below := by
    intro k hk
    have := units_strictMono (show k < rank by omega)
    rw [middle, hk]
    omega
  above := by
    have := step_pos rank
    rw [middle_eq]
    omega

theorem nearestRank_units {rank : Nat} (h : rank ≤ infinityRank) :
    nearestRank (units rank) 1 = rank := by
  rw [nearestRank_eq one_pos (isNearest_units rank), Nat.min_eq_right h]

/-- Few binary digits with zeros behind them are the magnitude of a rank. -/
theorem exists_units_eq {m e : Nat} (hm : m ≤ 2 ^ 53) (he : 52 ≤ e) :
    ∃ rank, units rank = m * 2 ^ e := by
  by_cases hfull : 2 ^ 52 ≤ m
  · exact ⟨_, units_binade hm (.inr hfull)⟩
  rcases Nat.eq_zero_or_pos m with rfl | hpos
  · exact ⟨0, by simp [units]⟩
  -- zeros are taken in until the digits fill the binade
  have hlow := Nat.log2_self_le hpos.ne'
  have hhigh : m < 2 ^ (m.log2 + 1) := Nat.lt_log2_self
  have hlog : m.log2 < 52 :=
    (Nat.pow_lt_pow_iff_right (by decide)).1 (hlow.trans_lt (not_le.1 hfull))
  generalize m.log2 = l at *
  obtain ⟨j, hj⟩ : ∃ j, l + j = 52 := ⟨52 - l, by omega⟩
  have hbelow : 2 ^ 52 ≤ m * 2 ^ j := by
    rw [← hj, pow_add]
    exact Nat.mul_le_mul_right _ hlow
  have habove : m * 2 ^ j ≤ 2 ^ 53 := by
    rw [show 53 = l + 1 + j by omega, pow_add]
    exact Nat.mul_le_mul_right _ hhigh.le
  refine ⟨_, (units_binade habove (.inr hbelow)).trans (b := m * 2 ^ j * 2 ^ (e - j)) ?_⟩
  rw [Nat.mul_assoc, ← pow_add]
  congr 2
  omega

/-- **Few binary digits** with up to 100 zeros behind them are a number of their own. -/
theorem units_rankOfNat {m e : Nat} (hm : m ≤ 2 ^ 53) (he : e ≤ 100) :
    units (rankOfNat (m * 2 ^ e)) = m * 2 ^ e * unitsInOne := by
  have hmagnitude : m * 2 ^ (e + 1074) = m * 2 ^ e * unitsInOne := by
    rw [unitsInOne_eq, pow_add, Nat.mul_assoc]
  obtain ⟨rank, hrank⟩ := exists_units_eq hm (show 52 ≤ e + 1074 by omega)
  rw [hmagnitude] at hrank
  have hfinite : rank ≤ infinityRank := by
    refine units_strictMono.le_iff_le.1 ?_
    have hplaces : 53 + e ≤ 1024 := by omega
    rw [hrank, units_infinityRank]
    refine Nat.mul_le_mul_right _ ((Nat.mul_le_mul_right _ hm).trans ?_)
    rw [← pow_add]
    exact pow_le_pow_right₀ one_le_two hplaces
  rw [rankOfNat, ← hrank, nearestRank_units hfinite, hrank]

theorem units_tenRank {exponent : Nat} (h : exponent ≤ 22) :
    units (tenRank exponent) = 10 ^ exponent * unitsInOne := by
  have hfive : 5 ^ exponent ≤ 2 ^ 53 :=
    (Nat.pow_le_pow_right (by decide) h).trans (by decide)
  have hten : 10 ^ exponent = 5 ^ exponent * 2 ^ exponent := Nat.mul_pow 5 2 exponent
  rw [tenRank, Nat.pow_eq, hten]
  exact units_rankOfNat hfive (h.trans (by decide))

end Binary64

/-! ## Decimals -/

namespace Decimal

open Binary64

theorem rank_eq_nearestRank (d : Decimal) : d.rank = nearestRank d.numerator d.denominator := by
  obtain ⟨rank, hnearest, hrank⟩ := exists_isNearest d.numerator d.denominator_pos
  rw [hrank, rank_eq hnearest]

/-- **Scaling is correct rounding** where the coefficient and the power of ten are exact. -/
theorem scaled_eq_toBinary64 {d : Decimal} (hcoefficient : d.coefficient ≤ 2 ^ 53)
    (hexponent : d.exponent.natAbs ≤ 22) : d.scaled = d.toBinary64 := by
  have hunits : units (rankOfNat d.coefficient) = d.coefficient * unitsInOne := by
    simpa using units_rankOfNat hcoefficient (Nat.zero_le 100)
  have hscaled : d.scaledRank = d.rank := by
    rw [rank_eq_nearestRank, scaledRank, numerator, denominator]
    cases hexp : d.exponent with
    | ofNat e =>
      have he : e ≤ 22 := by simpa [hexp] using hexponent
      have hmagnitude : d.coefficient * unitsInOne * (10 ^ e * unitsInOne) =
          d.coefficient * 10 ^ e * unitsInOne * unitsInOne := by ring
      have hround := nearestRank_mul (d.coefficient * 10 ^ e * unitsInOne) 1 unitsInOne_pos
      dsimp only
      rw [mulTenRank, if_pos (he.trans (by decide)), mulRank, hunits, units_tenRank he, hmagnitude]
      simpa using hround
    | negSucc e =>
      have he : e + 1 ≤ 22 := by simpa [hexp] using hexponent
      have hround := nearestRank_mul (d.coefficient * unitsInOne) (10 ^ (e + 1)) unitsInOne_pos
      dsimp only
      rw [divTenRank, if_pos (he.trans (by decide)), divRank, hunits, units_tenRank he, hround]
      simp
  rw [scaled, toBinary64, hscaled]

/-- A decimal hardly above 11.52. Its coefficient is no number of its own. -/
def seventeenDigits : Decimal := ⟨false, 11520000000000001, -15⟩

example : seventeenDigits.scaled = toBinary64 ⟨false, 1152, -2⟩ := by decide +kernel

example : (toBinary64 ⟨false, 1152, -2⟩).lt seventeenDigits.toBinary64 := by decide +kernel

end Decimal

end Fairweather
