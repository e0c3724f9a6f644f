import Mathlib
import Fairweather.Number.Shortest

/-!
# Rounding is to the nearest number

What it means that a number is the correctly rounded value of a decimal, and that
`Decimal.toBinary64` is that number.

**Midpoints.** Ranks follow each other in steps that double from binade to binade
(`units_succ`), so the magnitude of a rank is strictly increasing. A quotient `num / den` of units
belongs to a rank when it lies between the midpoints to the ranks beside it, the midpoints
themselves only when the rank is even (`IsNearest`). This determines the rank
(`IsNearest.unique`).

**The algorithm.** `nearestRank` finds the binade, rounds the quotient by its step, and counts
ranks. Within a binade that is `IsNearest` for the step; at the two ends of the binade the step to
one side is another, but there the quotient is known to lie on the side where it does not matter
(`isNearest_binade`).

**Decimals.** The two shortcuts of `Decimal.rank` agree with the quotient of units
(`Decimal.rank_eq`), and in rational numbers the result is the nearest number, a half going to the
even rank (`Decimal.RoundsTo`).

Main results: `Decimal.roundsTo_iff`, and `Decimal.rank_of_readsBack`, by which the test that
searches for short decimals is the test whether they round to the number.
-/

namespace Fairweather

/-! ## Quotients -/

/-- **A quotient is rounded to the nearest whole number**: it lies within a half of the result, and
exactly a half away only when the result is even. -/
theorem nearestQuotient_spec (num : Nat) {den : Nat} (h : 0 < den) :
    (2 * num < (2 * nearestQuotient num den + 1) * den ∨
      2 * num = (2 * nearestQuotient num den + 1) * den ∧ nearestQuotient num den % 2 = 0) ∧
    (2 * nearestQuotient num den * den < 2 * num + den ∨
      2 * nearestQuotient num den * den = 2 * num + den ∧ nearestQuotient num den % 2 = 0) := by
  have hm := Nat.mod_lt num h
  have hd := Nat.div_add_mod num den
  unfold nearestQuotient
  generalize num / den = k at *
  generalize num % den = m at *
  subst hd
  have expand : (2 * (k + 1) + 1) * den = 2 * (den * k) + 3 * den := by ring
  have expand' : (2 * k + 1) * den = 2 * (den * k) + den := by ring
  have double : 2 * (k + 1) * den = 2 * (den * k) + 2 * den := by ring
  have double' : 2 * k * den = 2 * (den * k) := by ring
  dsimp only
  split_ifs with h₁ h₂
  · omega
  · omega
  · -- a half: up from an odd quotient, and not from an even one
    rcases Nat.mod_two_eq_zero_or_one k with hk | hk
    · simp only [hk, Nat.add_zero, and_true]
      omega
    · simp only [hk]
      omega

theorem nearestQuotient_bounds (num den : Nat) :
    num / den ≤ nearestQuotient num den ∧ nearestQuotient num den ≤ num / den + 1 := by
  unfold nearestQuotient
  dsimp only
  split_ifs <;> omega

namespace Binary64

/-! ## Ranks and their magnitudes -/

/-- How far the magnitude of a rank is from that of the next. -/
def step (rank : Nat) : Nat := 2 ^ (rank / 2 ^ 52 - 1)

theorem step_pos (rank : Nat) : 0 < step rank := Nat.two_pow_pos _

theorem step_eq {rank shift : Nat} (h : rank / 2 ^ 52 - 1 = shift) : step rank = 2 ^ shift := by
  rw [step, h]

/-- The magnitudes of a binade and of the rank behind it: whole multiples of its step. -/
theorem units_binade {shift q : Nat} (hq : q ≤ 2 ^ 53) (h : shift = 0 ∨ 2 ^ 52 ≤ q) :
    units (shift * 2 ^ 52 + q) = q * 2 ^ shift := by
  unfold units
  simp only [Nat.pow_eq]
  by_cases hsmall : q < 2 ^ 52
  · obtain rfl : shift = 0 := by omega
    rw [if_pos (by omega)]
    omega
  rw [if_neg (by omega)]
  by_cases hend : q < 2 ^ 53
  · have hdiv : (shift * 2 ^ 52 + q) / 2 ^ 52 = shift + 1 := by omega
    have hmod : 2 ^ 52 + (shift * 2 ^ 52 + q) % 2 ^ 52 = q := by omega
    rw [hdiv, hmod, Nat.add_sub_cancel]
  · have hdiv : (shift * 2 ^ 52 + q) / 2 ^ 52 = shift + 2 := by omega
    have hmod : (shift * 2 ^ 52 + q) % 2 ^ 52 = 0 := by omega
    have hq : q = 2 * 2 ^ 52 := by omega
    rw [hdiv, hmod, hq, show shift + 2 - 1 = shift + 1 from rfl, pow_succ]
    ring

theorem exists_binade (rank : Nat) :
    ∃ shift q, rank = shift * 2 ^ 52 + q ∧ q < 2 ^ 53 ∧ (shift = 0 ∨ 2 ^ 52 ≤ q) ∧
      rank / 2 ^ 52 - 1 = shift :=
  ⟨rank / 2 ^ 52 - 1, rank - (rank / 2 ^ 52 - 1) * 2 ^ 52, by omega, by omega, by omega, rfl⟩

theorem units_succ (rank : Nat) : units (rank + 1) = units rank + step rank := by
  obtain ⟨shift, q, rfl, hq, hlow, hstep⟩ := exists_binade rank
  rw [Nat.add_assoc, units_binade hq.le hlow, units_binade (by omega) (by omega), step_eq hstep]
  ring

theorem units_strictMono : StrictMono units :=
  strictMono_nat_of_lt_succ fun rank => by
    rw [units_succ]
    exact Nat.lt_add_of_pos_right (step_pos rank)

theorem unitsInOne_eq : unitsInOne = 2 ^ 1074 := by decide +kernel

theorem unitsInOne_pos : 0 < unitsInOne := by
  rw [unitsInOne_eq]
  positivity

theorem cast_unitsInOne_pos : (0 : ℚ) < unitsInOne := Nat.cast_pos.2 unitsInOne_pos

/-- The exact magnitude of a rank. -/
def place (rank : Nat) : ℚ := units rank / unitsInOne

theorem place_strictMono : StrictMono place := fun _ _ h =>
  div_lt_div_of_pos_right (by exact_mod_cast units_strictMono h) cast_unitsInOne_pos

theorem place_zero : place 0 = 0 := by
  rw [place, show units 0 = 0 from rfl, Nat.cast_zero, zero_div]

/-- The exact value of a number, infinity taken where the binade behind the largest numbers would
begin. -/
def value : Binary64 → ℚ
  | .nan => 0
  | .signed negative rank => if negative then -place rank.val else place rank.val

theorem sign_mul_place (rank : Nat) : ((rank : Int).sign : ℚ) * place rank = place rank := by
  cases rank with
  | zero => rw [place_zero, mul_zero]
  | succ rank => rw [Int.sign_eq_one_of_pos (by omega), Int.cast_one, one_mul]

theorem signedPlace_strictMono : StrictMono fun k : Int => (k.sign : ℚ) * place k.natAbs := by
  refine strictMono_of_odd_strictMonoOn_nonneg (fun k => by simp) fun a ha b hb h => ?_
  obtain ⟨a, rfl⟩ := Int.eq_ofNat_of_zero_le ha
  obtain ⟨b, rfl⟩ := Int.eq_ofNat_of_zero_le hb
  rw [Int.natAbs_natCast, Int.natAbs_natCast, sign_mul_place, sign_mul_place]
  exact place_strictMono (by omega)

theorem value_eq {x : Binary64} {k : Int} (h : x.signedRank = some k) :
    x.value = k.sign * place k.natAbs := by
  cases x with
  | nan => cases h
  | signed negative rank =>
    cases h
    cases negative with
    | false =>
      rw [if_neg Bool.false_ne_true, Int.natAbs_natCast, sign_mul_place]
      rfl
    | true =>
      rw [if_pos rfl, Int.natAbs_neg, Int.natAbs_natCast, Int.sign_neg, Int.cast_neg, neg_mul,
        sign_mul_place]
      rfl

/-- **The order of numbers is the order of their values.** -/
theorem lt_iff_value_lt {x y : Binary64} (hx : x ≠ .nan) (hy : y ≠ .nan) :
    x.lt y ↔ x.value < y.value := by
  cases x with
  | nan => exact absurd rfl hx
  | signed s a =>
    cases y with
    | nan => exact absurd rfl hy
    | signed t b =>
      rw [value_eq rfl, value_eq rfl, lt, signedRank, signedRank, decide_eq_true_eq]
      exact signedPlace_strictMono.lt_iff_lt.symm

/-! ## Midpoints -/

/-- The midpoint between a rank and the next, in half units. -/
def middle (rank : Nat) : Nat := units rank + units (rank + 1)

theorem middle_eq (rank : Nat) : middle rank = 2 * units rank + step rank := by
  rw [middle, units_succ]
  ring

theorem middle_add_step (rank : Nat) : middle rank + step rank = 2 * units (rank + 1) := by
  rw [middle, units_succ]
  ring

theorem middle_strictMono : StrictMono middle := fun _ _ h =>
  Nat.add_lt_add (units_strictMono h) (units_strictMono (Nat.succ_lt_succ h))

/-- Of all ranks this one is nearest to `num / den` units, and of two that are it is the even
one. -/
structure IsNearest (num den rank : Nat) : Prop where
  below : ∀ k, k + 1 = rank →
    middle k * den < 2 * num ∨ middle k * den = 2 * num ∧ rank % 2 = 0
  above : 2 * num < middle rank * den ∨ 2 * num = middle rank * den ∧ rank % 2 = 0

theorem IsNearest.not_lt {num den r s : Nat} (hden : 0 < den) (hr : IsNearest num den r)
    (hs : IsNearest num den s) : ¬ r < s := by
  intro hlt
  obtain ⟨k, rfl⟩ : ∃ k, s = k + 1 := ⟨s - 1, by omega⟩
  have hle : middle r * den ≤ middle k * den :=
    Nat.mul_le_mul_right den (middle_strictMono.monotone (by omega))
  have hbelow := hs.below k rfl
  have habove := hr.above
  -- both lie on the one midpoint between them, so `s` is next to `r` and they cannot both be even
  have heq : middle r * den = middle k * den := by omega
  have : r = k := middle_strictMono.injective (Nat.eq_of_mul_eq_mul_right hden heq)
  omega

/-- **The nearest rank is unique.** -/
theorem IsNearest.unique {num den r s : Nat} (hden : 0 < den) (hr : IsNearest num den r)
    (hs : IsNearest num den s) : r = s := by
  have h₁ := hr.not_lt hden hs
  have h₂ := hs.not_lt hden hr
  omega

/-! ## The algorithm -/

/-- Rounding by the step of a binade gives the nearest rank, for a quotient in the binade. -/
theorem isNearest_binade {num den shift : Nat} (hden : 0 < den)
    (hlt : num / den < 2 ^ 53 * 2 ^ shift) (hge : shift = 0 ∨ 2 ^ 52 * 2 ^ shift ≤ num / den) :
    IsNearest num den (shift * 2 ^ 52 + nearestQuotient num (den * 2 ^ shift)) := by
  have hstep : 0 < 2 ^ shift := Nat.two_pow_pos shift
  obtain ⟨hupper, hlower⟩ := nearestQuotient_spec num (Nat.mul_pos hden hstep)
  obtain ⟨hfloor, hceil⟩ := nearestQuotient_bounds num (den * 2 ^ shift)
  rw [← Nat.div_div_eq_div_mul] at hfloor hceil
  have hfloor_lt : num / den / 2 ^ shift < 2 ^ 53 := (Nat.div_lt_iff_lt_mul hstep).2 hlt
  have hfloor_ge : shift = 0 ∨ 2 ^ 52 ≤ num / den / 2 ^ shift :=
    hge.imp_right (Nat.le_div_iff_mul_le hstep).2
  generalize nearestQuotient num (den * 2 ^ shift) = q at *
  have hq : q ≤ 2 ^ 53 := by omega
  have hq' : shift = 0 ∨ 2 ^ 52 ≤ q := by omega
  have hunits := units_binade hq hq'
  constructor
  · intro k hk
    have hmid : middle k * den + step k * den = 2 * q * (den * 2 ^ shift) := by
      rw [← Nat.add_mul, middle_add_step, hk, hunits]
      ring
    by_cases hopen : shift = 0 ∨ 2 ^ 52 < q
    · have : step k * den = den * 2 ^ shift := by
        rw [step_eq (show k / 2 ^ 52 - 1 = shift by omega), Nat.mul_comm]
      omega
    · -- the rank opens the binade: below it the step is smaller, but no quotient lies there
      have hopening : q = 2 ^ 52 := by omega
      have hnum : q * 2 ^ shift * den ≤ num := by
        rw [← Nat.le_div_iff_mul_le hden, hopening]
        omega
      have : 2 * q * (den * 2 ^ shift) = 2 * (q * 2 ^ shift * den) := by ring
      have := Nat.mul_pos (step_pos k) hden
      omega
  · have hmid : middle (shift * 2 ^ 52 + q) * den =
        2 * q * (den * 2 ^ shift) + step (shift * 2 ^ 52 + q) * den := by
      rw [middle_eq, hunits]
      ring
    have hodd : (2 * q + 1) * (den * 2 ^ shift) = 2 * q * (den * 2 ^ shift) + den * 2 ^ shift := by
      ring
    by_cases hend : q < 2 ^ 53
    · have : step (shift * 2 ^ 52 + q) * den = den * 2 ^ shift := by
        rw [step_eq (show (shift * 2 ^ 52 + q) / 2 ^ 52 - 1 = shift by omega), Nat.mul_comm]
      omega
    · -- the quotient was carried into the next binade, where the step is twice as large
      have : step (shift * 2 ^ 52 + q) * den = 2 * (den * 2 ^ shift) := by
        rw [step_eq (show (shift * 2 ^ 52 + q) / 2 ^ 52 - 1 = shift + 1 by omega), pow_succ]
        ring
      have := Nat.mul_pos hden hstep
      omega

/-- **`nearestRank` is the nearest rank**, as far as infinity's. -/
theorem exists_isNearest (num : Nat) {den : Nat} (hden : 0 < den) :
    ∃ rank, IsNearest num den rank ∧ nearestRank num den = min infinityRank rank := by
  refine ⟨_, isNearest_binade hden ?_ ?_, rfl⟩
  · have hlog : num / den < 2 ^ ((num / den).log2 + 1) := Nat.lt_log2_self
    refine hlog.trans_le ?_
    rw [← pow_add]
    exact Nat.pow_le_pow_right (by norm_num) (by omega)
  · by_cases hlog : (num / den).log2 ≤ 52
    · exact .inl (by omega)
    · right
      have hne : num / den ≠ 0 := by
        intro h
        rw [h, Nat.log2_zero] at hlog
        omega
      rw [← pow_add, show 52 + ((num / den).log2 - 52) = (num / den).log2 by omega]
      exact Nat.log2_self_le hne

theorem nearestRank_eq {num den rank : Nat} (hden : 0 < den) (h : IsNearest num den rank) :
    nearestRank num den = min infinityRank rank := by
  obtain ⟨r, hr, heq⟩ := exists_isNearest num hden
  rw [heq, hr.unique hden h]

/-! ## Far out -/

theorem units_infinityRank : units infinityRank = 2 ^ 1024 * unitsInOne := by
  rw [show infinityRank = 2046 * 2 ^ 52 + 2 ^ 52 from rfl, units_binade (by norm_num) (.inr le_rfl),
    unitsInOne_eq, ← pow_add, ← pow_add]

theorem isNearest_zero {num den : Nat} (h : 2 * num < den) : IsNearest num den 0 where
  below k hk := absurd hk (Nat.succ_ne_zero k)
  above := by
    have : middle 0 = 1 := rfl
    rw [this, Nat.one_mul]
    exact .inl h

theorem IsNearest.le_of_lt_infinityRank {num den rank : Nat} (h : IsNearest num den rank)
    (hfinite : rank < infinityRank) : num ≤ units infinityRank * den := by
  have hmid : middle rank ≤ 2 * units infinityRank := by
    have h₁ := units_strictMono.monotone hfinite.le
    have h₂ : units (rank + 1) ≤ units infinityRank := units_strictMono.monotone hfinite
    rw [middle]
    omega
  have hle : middle rank * den ≤ 2 * (units infinityRank * den) := by
    rw [← Nat.mul_assoc]
    exact Nat.mul_le_mul_right den hmid
  have habove := h.above
  omega

end Binary64

namespace Decimal

open Binary64

/-! ## Decimals -/

/-- The magnitude of a decimal in units, as a quotient: its numerator. -/
def numerator (d : Decimal) : Nat := d.coefficient * 10 ^ d.exponent.toNat * unitsInOne

/-- The magnitude of a decimal in units, as a quotient: its denominator. -/
def denominator (d : Decimal) : Nat := 10 ^ (-d.exponent).toNat

theorem denominator_pos (d : Decimal) : 0 < d.denominator := Nat.pow_pos (by norm_num)

/-- A decimal with few digits and many places is below half a unit. -/
theorem two_mul_lt_of_log2 {coefficient places : Nat} (h : coefficient.log2 + 1076 < 3 * places) :
    2 * (coefficient * unitsInOne) < 10 ^ places := by
  have hlog : coefficient < 2 ^ (coefficient.log2 + 1) := Nat.lt_log2_self
  calc
    2 * (coefficient * unitsInOne) = coefficient * 2 ^ 1075 := by
      rw [unitsInOne_eq, Nat.mul_left_comm, ← pow_succ']
    _ < 2 ^ (coefficient.log2 + 1) * 2 ^ 1075 :=
      Nat.mul_lt_mul_of_pos_right hlog (by positivity)
    _ = 2 ^ (coefficient.log2 + 1076) := by rw [← pow_add]
    _ ≤ 2 ^ (3 * places) := Nat.pow_le_pow_right (by norm_num) h.le
    _ = 8 ^ places := by rw [pow_mul]; norm_num
    _ ≤ 10 ^ places := Nat.pow_le_pow_left (by norm_num) places

theorem lt_of_coefficient_ne_zero {coefficient zeros : Nat} (h₀ : coefficient ≠ 0)
    (h : 308 < zeros) : 2 ^ 1024 * unitsInOne < coefficient * 10 ^ zeros * unitsInOne := by
  have hten : 2 ^ 1024 < 10 ^ 309 := by decide +kernel
  have hzeros : 10 ^ 309 ≤ 10 ^ zeros := pow_le_pow_right₀ (by norm_num) h
  have hcoefficient : 10 ^ zeros ≤ coefficient * 10 ^ zeros :=
    Nat.le_mul_of_pos_left _ (Nat.pos_of_ne_zero h₀)
  exact Nat.mul_lt_mul_of_pos_right (hten.trans_le (hzeros.trans hcoefficient)) unitsInOne_pos

/-- **The rank of a decimal is the nearest**, shortcuts included. -/
theorem rank_eq {d : Decimal} {rank : Nat} (h : IsNearest d.numerator d.denominator rank) :
    d.rank = min infinityRank rank := by
  have hden := d.denominator_pos
  obtain ⟨negative, coefficient, exponent⟩ := d
  unfold numerator denominator at h
  unfold denominator at hden
  unfold Decimal.rank
  simp only [Nat.pow_eq]
  cases exponent with
  | ofNat e =>
    dsimp only
    have hone : (10 : Nat) ^ (-Int.ofNat e).toNat = 1 := by
      rw [show (-Int.ofNat e).toNat = 0 by simp, pow_zero]
    rw [hone] at h hden
    simp only [Int.ofNat_eq_natCast, Int.toNat_natCast] at h
    split_ifs with h₀ h₁
    · have hnum : 2 * (coefficient * 10 ^ e * unitsInOne) < 1 := by
        rw [h₀, Nat.zero_mul, Nat.zero_mul]
        norm_num
      rw [h.unique hden (isNearest_zero hnum), Nat.min_zero]
    · have hinfinite : ¬ rank < infinityRank := by
        intro hlt
        have hle := h.le_of_lt_infinityRank hlt
        rw [units_infinityRank, Nat.mul_one] at hle
        exact absurd hle (Nat.not_le.2 (lt_of_coefficient_ne_zero h₀ h₁))
      rw [Nat.min_eq_left (Nat.not_lt.1 hinfinite)]
    · simp only [nearestRank_eq hden h]
  | negSucc e =>
    dsimp only
    have hplaces : (-Int.negSucc e).toNat = e + 1 := rfl
    rw [hplaces] at h hden
    simp only [Int.toNat_negSucc, pow_zero, mul_one] at h
    split_ifs with h₁
    · rw [h.unique hden (isNearest_zero (two_mul_lt_of_log2 h₁)), Nat.min_zero]
    · simp only [nearestRank_eq hden h]

/-- **A decimal that reads back** as a number rounds to it. -/
theorem rank_of_readsBack {negative : Bool} {rank coefficient : Nat} {exponent : Int}
    (hpos : 0 < rank) (hfinite : rank < infinityRank)
    (h : Shortest.readsBack rank coefficient exponent) :
    rank = (Decimal.mk negative coefficient exponent).rank := by
  have hnearest : IsNearest (Decimal.mk negative coefficient exponent).numerator
      (Decimal.mk negative coefficient exponent).denominator rank := by
    have hpoint : 2 * coefficient * 10 ^ exponent.toNat * unitsInOne =
        2 * (Decimal.mk negative coefficient exponent).numerator := by
      rw [numerator, Nat.mul_assoc 2, Nat.mul_assoc 2]
    simp only [Shortest.readsBack, Shortest.tenPower, Nat.pow_eq, hpoint] at h
    split_ifs at h with heven <;> simp only [Bool.and_eq_true, decide_eq_true_eq] at h
    · exact {
        below := fun k hk => by
          subst hk
          have := h.1
          rw [Nat.add_sub_cancel] at this
          exact (Nat.lt_or_eq_of_le this).imp_right (⟨·, heven⟩)
        above := (Nat.lt_or_eq_of_le h.2).imp_right (⟨·, heven⟩) }
    · exact {
        below := fun k hk => by
          subst hk
          have := h.1
          rw [Nat.add_sub_cancel] at this
          exact .inl this
        above := .inl h.2 }
  rw [rank_eq hnearest, Nat.min_eq_right hfinite.le]

/-! ## Correct rounding -/

/-- The exact magnitude of a decimal. -/
def magnitude (d : Decimal) : ℚ := d.coefficient * (10 : ℚ) ^ d.exponent

/-- Of all places this rank's is nearest to the decimal, and of two that are it is the even
rank's. The place of infinity counts as where the binade behind the largest numbers would begin. -/
structure IsNearestPlace (d : Decimal) (rank : Nat) : Prop where
  le_infinity : rank ≤ infinityRank
  nearest : ∀ other ≤ infinityRank, other ≠ rank →
    |d.magnitude - place rank| < |d.magnitude - place other| ∨
      |d.magnitude - place rank| = |d.magnitude - place other| ∧ rank % 2 = 0

/-- **Correct rounding.** The number has the sign of the decimal and the rank whose place is nearest
to its magnitude. -/
def RoundsTo (d : Decimal) (x : Binary64) : Prop :=
  ∃ rank, d.IsNearestPlace rank ∧ x = ofRank d.negative rank

theorem magnitude_eq (d : Decimal) :
    d.magnitude = d.numerator / d.denominator / unitsInOne := by
  have hten : (10 : ℚ) ^ d.exponent = 10 ^ d.exponent.toNat / 10 ^ (-d.exponent).toNat := by
    rw [← zpow_natCast, ← zpow_natCast, ← zpow_sub₀ (by norm_num)]
    congr 1
    omega
  have hunit := cast_unitsInOne_pos.ne'
  rw [magnitude, numerator, denominator, hten]
  push_cast
  field_simp

theorem two_mul_magnitude (d : Decimal) :
    2 * d.magnitude * (d.denominator * unitsInOne) = (2 * d.numerator : ℕ) := by
  have hden : (d.denominator : ℚ) ≠ 0 := by exact_mod_cast d.denominator_pos.ne'
  have hunit := cast_unitsInOne_pos.ne'
  rw [magnitude_eq, div_div, mul_assoc, div_mul_cancel₀ _ (mul_ne_zero hden hunit), Nat.cast_mul,
    Nat.cast_ofNat]

/-- A place between two ranks is compared with a decimal as the midpoint in units is. -/
theorem cmp_middle (d : Decimal) (k : Nat) :
    cmp (place k + place (k + 1)) (2 * d.magnitude) =
      cmp (middle k * d.denominator) (2 * d.numerator) := by
  have hden : (0 : ℚ) < d.denominator := by exact_mod_cast d.denominator_pos
  have hunit := cast_unitsInOne_pos
  have hplaces : (place k + place (k + 1)) * (d.denominator * unitsInOne) =
      (middle k * d.denominator : ℕ) := by
    rw [place, place, middle]
    push_cast
    field_simp
  rw [← cmp_mul_pos_right (mul_pos hden hunit), hplaces, two_mul_magnitude]
  exact Nat.strictMono_cast.cmp_map_eq _ _

theorem abs_sub_lt_of_lt {a b v : ℚ} (hab : a < b) (hv : 2 * v < a + b) :
    |v - a| < |v - b| := by
  rw [abs_of_neg (show v - b < 0 by linarith), abs_lt]
  constructor <;> linarith

theorem abs_sub_lt_of_gt {a b v : ℚ} (hab : a < b) (hv : a + b < 2 * v) :
    |v - b| < |v - a| := by
  rw [abs_of_pos (show 0 < v - a by linarith), abs_lt]
  constructor <;> linarith

theorem abs_sub_eq_of_eq {a b v : ℚ} (hv : a + b = 2 * v) : |v - a| = |v - b| := by
  rw [show v - a = -(v - b) by linarith, abs_neg]

/-- **The rank of a decimal has the nearest place.** -/
theorem isNearestPlace_rank (d : Decimal) : d.IsNearestPlace d.rank := by
  obtain ⟨r, hr, -⟩ := exists_isNearest d.numerator d.denominator_pos
  have hrank := rank_eq hr
  have hinfinity : infinityRank % 2 = 0 := rfl
  generalize d.rank = rank at *
  refine ⟨by omega, fun other hle hne => ?_⟩
  rcases Nat.lt_or_gt_of_ne hne with hlt | hgt
  · obtain ⟨k, hk⟩ : ∃ k, rank = k + 1 := ⟨rank - 1, by omega⟩
    have hother : place other ≤ place k := place_strictMono.monotone (by omega)
    have hstep : place k < place rank := place_strictMono (by omega)
    -- the midpoint below the rank is at or below the decimal, also where infinity cuts ranks off
    have hbelow : middle k * d.denominator < 2 * d.numerator ∨
        middle k * d.denominator = 2 * d.numerator ∧ rank % 2 = 0 := by
      by_cases hcut : r ≤ infinityRank
      · obtain rfl : rank = r := by omega
        exact hr.below k hk.symm
      · have hlast := hr.below (r - 1) (by omega)
        have hmid : middle k < middle (r - 1) := middle_strictMono (by omega)
        have := Nat.mul_lt_mul_of_pos_right hmid d.denominator_pos
        omega
    subst hk
    rcases hbelow with hmid | ⟨hmid, heven⟩
    · have := (lt_iff_lt_of_cmp_eq_cmp (d.cmp_middle k)).2 hmid
      exact .inl (abs_sub_lt_of_gt (by linarith) (by linarith))
    · have hmid := (eq_iff_eq_of_cmp_eq_cmp (d.cmp_middle k)).2 hmid
      rcases hother.lt_or_eq with h | h
      · exact .inl (abs_sub_lt_of_gt (by linarith) (by linarith))
      · exact .inr ⟨(abs_sub_eq_of_eq (by rw [h]; exact hmid)).symm, heven⟩
  · obtain rfl : rank = r := by omega
    have hother : place (rank + 1) ≤ place other := place_strictMono.monotone hgt
    have hstep : place rank < place (rank + 1) := place_strictMono (Nat.lt_succ_self rank)
    rcases hr.above with hmid | ⟨hmid, heven⟩
    · have := (lt_iff_lt_of_cmp_eq_cmp (cmp_eq_cmp_symm.1 (d.cmp_middle rank))).2 hmid
      exact .inl (abs_sub_lt_of_lt (by linarith) (by linarith))
    · have hmid := (eq_iff_eq_of_cmp_eq_cmp (d.cmp_middle rank)).2 hmid.symm
      rcases hother.lt_or_eq with h | h
      · exact .inl (abs_sub_lt_of_lt (by linarith) (by linarith))
      · exact .inr ⟨abs_sub_eq_of_eq (by rw [← h]; exact hmid), heven⟩

theorem IsNearestPlace.not_lt {d : Decimal} {r s : Nat} (hr : d.IsNearestPlace r)
    (hs : d.IsNearestPlace s) : ¬ r < s := by
  intro hlt
  have hsle := hs.le_infinity
  have hrs := hr.nearest s hs.le_infinity hlt.ne'
  have hsr := hs.nearest r hr.le_infinity hlt.ne
  have heq : |d.magnitude - place r| = |d.magnitude - place s| := by
    rcases hrs with h | h
    · rcases hsr with h' | h'
      · exact absurd h h'.le.not_gt
      · exact h'.1.symm
    · exact h.1
  -- both are even, so a rank lies between them, and its place is nearer than either
  have heven : r % 2 = 0 ∧ s % 2 = 0 :=
    ⟨(hrs.resolve_left heq.not_lt).2, (hsr.resolve_left heq.symm.not_lt).2⟩
  have hr₁ : place r < place (r + 1) := place_strictMono (by omega)
  have h₁s : place (r + 1) < place s := place_strictMono (by omega)
  have hmiddle : d.magnitude - place r = -(d.magnitude - place s) := by
    rcases abs_eq_abs.1 heq with h | h
    · linarith
    · exact h
  have hnearer : |d.magnitude - place (r + 1)| < |d.magnitude - place r| := by
    rw [abs_of_pos (show 0 < d.magnitude - place r by linarith), abs_lt]
    constructor <;> linarith
  rcases hr.nearest (r + 1) (by omega) (by omega) with h | h
  · exact absurd h hnearer.le.not_gt
  · exact absurd h.1 hnearer.ne'

theorem IsNearestPlace.unique {d : Decimal} {r s : Nat} (hr : d.IsNearestPlace r)
    (hs : d.IsNearestPlace s) : r = s := by
  have h₁ := hr.not_lt hs
  have h₂ := hs.not_lt hr
  omega

/-- **The number that a decimal is turned into is the correctly rounded one**, and no other is. -/
theorem roundsTo_iff {d : Decimal} {x : Binary64} : d.RoundsTo x ↔ x = d.toBinary64 := by
  constructor
  · intro hex
    obtain ⟨rank, hrank, rfl⟩ := hex
    rw [toBinary64, hrank.unique d.isNearestPlace_rank]
  · intro heq
    subst heq
    exact ⟨d.rank, d.isNearestPlace_rank, rfl⟩

end Decimal

end Fairweather
