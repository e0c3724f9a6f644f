import Fairweather.Number.Layout
import Fairweather.Proofs.Number.Rounding
import Fairweather.Proofs.Expression.Language

/-!
# Written numbers read back

A finite number is written as a numeral that rounds to it (`Binary64.writes_plainChars`), for both
signs, zero and the smallest numbers included. The argument is about grids, not about digits: the
search takes a point of a grid only if it reads back, and the last grid holds the number itself
(`readsBack_shortestDecimal`). The layout then writes this point, or the same point on the grid of
whole numbers (`positional_isMantissa`).
-/

namespace Fairweather

open Text

namespace Shortest

/-- A unit is `unitCoefficient` steps of the last grid, so every number is a point of it. -/
theorem tenPower_units : ∃ scale, 0 < scale ∧ tenPower (-1074) = (scale, 1) ∧
    unitCoefficient * Binary64.unitsInOne = scale :=
  ⟨(tenPower (-1074)).1, by decide +kernel, by decide +kernel, by decide +kernel⟩

theorem readsBack_search_zero (tie : TieRule) {rank : Nat} (h : 0 < rank) (step : Int) :
    readsBack rank (search tie rank 0 step).1 (search tie rank 0 step).2 := by
  obtain ⟨scale, hscale, hten, hunit⟩ := tenPower_units
  have hbelow : Binary64.units (rank - 1) < Binary64.units rank :=
    Binary64.units_strictMono (Nat.sub_lt h one_pos)
  have habove : Binary64.units rank < Binary64.units (rank + 1) :=
    Binary64.units_strictMono (Nat.lt_succ_self rank)
  have hpoint : 2 * (Binary64.units rank * unitCoefficient) * 1 * Binary64.unitsInOne =
      2 * Binary64.units rank * scale := by
    rw [← hunit]
    ring
  have hlower : (Binary64.units (rank - 1) + Binary64.units rank) * scale <
      2 * Binary64.units rank * scale := Nat.mul_lt_mul_of_pos_right (by omega) hscale
  have hupper : 2 * Binary64.units rank * scale <
      (Binary64.units rank + Binary64.units (rank + 1)) * scale :=
    Nat.mul_lt_mul_of_pos_right (by omega) hscale
  simp only [search, readsBack, hten, hpoint]
  split_ifs
  · simp only [hlower.le, hupper.le, decide_true, Bool.and_self]
  · simp only [hlower, hupper, decide_true, Bool.and_self]

/-- Whatever the rule for ties, one of the two points around the number is taken. -/
theorem neighbour_of_tie {tie : TieRule} {below excess den coefficient : Nat}
    (h : (if excess < den then some below
      else if den < excess then some (below + 1)
      else match tie with
        | .up => some (below + 1)
        | .toEven => some (below + below % 2)) = some coefficient) :
    coefficient = below ∨ coefficient = below + 1 := by
  split_ifs at h
  · exact .inl (Option.some.inj h).symm
  · exact .inr (Option.some.inj h).symm
  · cases tie with
    | up => exact .inr (Option.some.inj h).symm
    | toEven =>
      have hcoefficient := Option.some.inj h
      omega

theorem readsBack_of_onGrid {tie : TieRule} {rank coefficient : Nat} {step : Int}
    (h : onGrid tie rank step = some coefficient) : readsBack rank coefficient step := by
  unfold onGrid at h
  split at h
  extract_lets num den below above at h
  split at h
  · cases h
  · next hbelow _ =>
    rw [← Option.some.inj h]
    exact hbelow
  · next _ habove =>
    rw [← Option.some.inj h]
    exact habove
  · next hbelow habove =>
    rcases neighbour_of_tie h with hcoefficient | hcoefficient
    · rw [hcoefficient]
      exact hbelow
    · rw [hcoefficient]
      exact habove

/-- Wherever the search begins and however long it is, what it finds reads back. -/
theorem readsBack_search (tie : TieRule) {rank : Nat} (h : 0 < rank) (tries : Nat) (step : Int) :
    readsBack rank (search tie rank tries step).1 (search tie rank tries step).2 := by
  induction tries generalizing step with
  | zero => exact readsBack_search_zero tie h step
  | succ tries ih =>
    rw [search]
    split
    · next hgrid => exact readsBack_of_onGrid hgrid
    · exact ih (step - 1)

theorem readsBack_shortestDecimal (tie : TieRule) {rank : Nat} (h : 0 < rank) :
    readsBack rank (shortestDecimal tie rank).1 (shortestDecimal tie rank).2 :=
  readsBack_search tie h _ _

theorem readsBack_zeros (rank coefficient zeros : Nat) :
    readsBack rank (coefficient * 10 ^ zeros) 0 = readsBack rank coefficient zeros := by
  simp only [readsBack, tenPower, Nat.pow_eq, Int.toNat_natCast, Int.toNat_neg_natCast, neg_zero,
    Int.toNat_zero, pow_zero, Nat.mul_one, Nat.mul_assoc]

end Shortest

namespace Layout

theorem sign_isSign (negative : Bool) : Numeral.IsSign (sign negative) negative := by
  cases negative with
  | false => exact .absent
  | true => exact .minus

/-- With places behind the point, the digits are written with zeros in front up to one place before
it. -/
theorem positional_negSucc (coefficient n : Nat) : ∃ padded : List Char,
    padded = List.replicate (n + 1 + 1 - (Nat.toDigits 10 coefficient).length) '0' ++
      Nat.toDigits 10 coefficient ∧
    Run Char.isDigit padded ∧ n + 1 < padded.length ∧
    positional coefficient (.negSucc n) =
      padded.take (padded.length - (n + 1)) ++ '.' :: padded.drop (padded.length - (n + 1)) := by
  refine ⟨_, rfl, run_append (run_zeros _) (run_toDigits coefficient), ?_, rfl⟩
  rw [List.length_append, List.length_replicate]
  omega

/-- **The positional layout** is a mantissa, and what it denotes reads back as the coefficient and
its power of ten do. -/
theorem positional_isMantissa (negative : Bool) (coefficient : Nat) (exponent : Int) :
    ∃ whole fraction coefficient' exponent',
      Numeral.IsMantissa (positional coefficient exponent) whole fraction ∧
      Decimal.ofDigits negative whole fraction 0 = ⟨negative, coefficient', exponent'⟩ ∧
      ∀ rank, Shortest.readsBack rank coefficient' exponent' =
        Shortest.readsBack rank coefficient exponent := by
  have hdigits := run_toDigits coefficient
  have hvalue : Nat.ofDigitChars 10 (Nat.toDigits 10 coefficient) 0 = coefficient :=
    Nat.ofDigitChars_ten_toDigits
  cases exponent with
  | ofNat zeros =>
    have hrun : Run Char.isDigit (positional coefficient (.ofNat zeros)) :=
      run_append hdigits (run_zeros zeros)
    refine ⟨_, [], coefficient * 10 ^ zeros, 0, .whole ⟨?_, hrun⟩, ?_,
      fun rank => Shortest.readsBack_zeros rank coefficient zeros⟩
    · exact List.append_ne_nil_of_left_ne_nil Nat.toDigits_ne_nil _
    · rw [Decimal.ofDigits, List.append_nil, positional, Nat.ofDigitChars_append, hvalue,
        Nat.ofDigitChars_replicate_zero, Nat.mul_comm]
      rfl
  | negSucc n =>
    obtain ⟨padded, hpadded, hrun, hlength, htext⟩ := positional_negSucc coefficient n
    have hvalue := ofDigitChars_zeros_toDigits (n + 1 + 1 - (Nat.toDigits 10 coefficient).length)
      coefficient
    rw [← hpadded] at hvalue
    rw [htext]
    refine ⟨_, _, coefficient, .negSucc n, .point ⟨?_, ?_⟩ ?_, ?_, fun _ => rfl⟩
    · rw [← List.length_pos_iff, List.length_take]
      omega
    · exact fun c hc => hrun c (List.mem_of_mem_take hc)
    · exact fun c hc => hrun c (List.mem_of_mem_drop hc)
    · rw [Decimal.ofDigits, List.take_append_drop, hvalue, List.length_drop]
      congr 1
      omega

end Layout

/-- A positive finite rank, written out behind a sign, is a numeral that rounds to it. -/
theorem writes_positional {negative : Bool} {rank coefficient : Nat} {exponent : Int}
    (hpos : 0 < rank) (hfinite : rank < Binary64.infinityRank)
    (h : Shortest.readsBack rank coefficient exponent) :
    Writes (Layout.sign negative ++ Layout.positional coefficient exponent)
      (Binary64.ofRank negative rank) := by
  obtain ⟨whole, fraction, coefficient', exponent', hmantissa, hdecimal, hreads⟩ :=
    Layout.positional_isMantissa negative coefficient exponent
  have hnumeral := Numeral.IsNumeral.intro (Layout.sign_isSign negative) hmantissa .absent
  rw [List.append_nil, hdecimal] at hnumeral
  refine ⟨_, hnumeral, Decimal.roundsTo_iff.2 ?_, ?_⟩
  · rw [Decimal.toBinary64, ← Decimal.rank_of_readsBack hpos hfinite ((hreads rank).trans h)]
  · rw [Binary64.ofRank, Binary64.isFinite, decide_eq_true_eq]
    exact (Nat.min_le_left _ _).trans_lt hfinite

theorem Binary64.signed_eq_ofRank (negative : Bool) (rank : Fin (infinityRank + 1)) :
    signed negative rank = ofRank negative rank.val := by
  rw [ofRank]
  congr 1
  exact Fin.ext (Nat.min_eq_left (Nat.le_of_lt_succ rank.isLt)).symm

/-- **A finite number is written as a numeral that rounds to it.** -/
theorem Binary64.writes_plainChars {x : Binary64} (h : x.isFinite) : Writes x.plainChars x := by
  cases x with
  | nan => cases h
  | signed negative rank =>
    have hfinite : rank.val < infinityRank := by simpa only [isFinite, decide_eq_true_eq] using h
    have hrank := signed_eq_ofRank negative rank
    rw [plainChars, if_neg hfinite.ne]
    split_ifs with hzero
    · refine ⟨⟨negative, 0, 0⟩, ?_, Decimal.roundsTo_iff.2 ?_, h⟩
      · have hdigit : Numeral.IsDigits ['0'] := ⟨by decide, run_cons.2 ⟨by decide, run_nil⟩⟩
        have := Numeral.IsNumeral.intro (Layout.sign_isSign negative) (.whole hdigit) .absent
        rwa [List.append_nil] at this
      · rw [hrank, hzero]
        rfl
    · rw [hrank]
      exact writes_positional (Nat.pos_of_ne_zero hzero) hfinite
        (Shortest.readsBack_shortestDecimal .up (Nat.pos_of_ne_zero hzero))

end Fairweather
