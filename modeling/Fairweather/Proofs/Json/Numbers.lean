import Fairweather.Json.Number
import Fairweather.Proofs.Number.ReadBack
import Fairweather.Proofs.Number.Scaling

/-!
# The language of JSON numbers

What a number of a JSON text looks like, said without the function that scans it: an optional minus
sign, digits without a zero in front, an optional fraction and an optional exponent
(`Json.IsNumber`). A number is scanned whole when nothing follows that could continue it
(`Json.Number.scan_append`).

**Reading is quick, not exact.** Numbers of few digits are read with correct rounding
(`Json.Number.readsNearest_of_le`), and others may be.

**Written numbers** are such numbers, in both notations (`Layout.denotes_serialised`). The notations
cut the digits up differently and make up for it by the power of ten, so what they denote has the
magnitude of what was laid out. The number that a decimal rounds to depends on the magnitude alone
(`Decimal.toBinary64_congr`). So what is written rounds to the number that it was written for
(`Binary64.exists_isNumber_jsonChars`), and is read as this number just if it is read with correct
rounding.
-/

namespace Fairweather

open Text

/-! ## Magnitudes -/

theorem Decimal.toBinary64_congr {d d' : Decimal} (hsign : d.negative = d'.negative)
    (h : d.magnitude = d'.magnitude) : d.toBinary64 = d'.toBinary64 := by
  have hnearest : d'.IsNearestPlace d.rank := by
    obtain ⟨hle, hnearest⟩ := d.isNearestPlace_rank
    rw [h] at hnearest
    exact ⟨hle, hnearest⟩
  rw [toBinary64, toBinary64, hsign, hnearest.unique d'.isNearestPlace_rank]

theorem Shortest.coefficient_pos {rank coefficient : Nat} {exponent : Int} (hrank : 0 < rank)
    (h : readsBack rank coefficient exponent) : 0 < coefficient := by
  refine Nat.pos_of_ne_zero fun hzero => ?_
  have hlower : 0 < (Binary64.units (rank - 1) + Binary64.units rank) * (tenPower exponent).1 := by
    have := Binary64.units_strictMono (Nat.sub_lt hrank one_pos)
    exact Nat.mul_pos (by omega) (Nat.pow_pos (by norm_num))
  subst hzero
  simp only [readsBack, Nat.mul_zero, Nat.zero_mul] at h
  split_ifs at h <;> simp only [Bool.and_eq_true, decide_eq_true_eq] at h <;> omega

namespace Json

/-! ## The language of numbers -/

/-- Digits without a zero in front, unless it is the only one. -/
def IsWhole (text : List Char) : Prop :=
  Numeral.IsDigits text ∧ (text = ['0'] ∨ text.head? ≠ some '0')

/-- A point and the digits behind it, or neither. -/
inductive IsFraction : List Char → List Char → Prop
  | absent : IsFraction [] []
  | point {ds : List Char} : Numeral.IsDigits ds → IsFraction ('.' :: ds) ds

/-- **A magnitude**: its digits before and behind the point, and its power of ten. It is integral
when it has neither a point nor an exponent. -/
inductive IsMagnitude : List Char → List Char → List Char → Int → Bool → Prop
  | intro {whole point fraction exponent : List Char} {power : Int} : IsWhole whole →
      IsFraction point fraction → Numeral.IsExponent exponent power →
      IsMagnitude (whole ++ point ++ exponent) whole fraction power
        (point.isEmpty && exponent.isEmpty)

/-- **A number** is a magnitude, behind a minus sign or not. -/
inductive IsNumber : List Char → Number → Prop
  | intro (negative : Bool) {text whole fraction : List Char} {power : Int} {integral : Bool} :
      IsMagnitude text whole fraction power integral →
      IsNumber (Layout.sign negative ++ text)
        ⟨negative, whole, fraction, power, integral, .complete⟩

theorem IsNumber.complete {text : List Char} {n : Number} (h : IsNumber text n) :
    n.ending = .complete := by
  cases h
  rfl

theorem IsNumber.opens {text : List Char} {n : Number} (h : IsNumber text n) :
    ∃ c more, text = c :: more ∧ (c = '-' ∨ c.isDigit) := by
  obtain ⟨negative, ⟨⟨hne, hrun⟩, -⟩, -, -⟩ := h
  obtain ⟨d, ds, rfl⟩ := List.exists_cons_of_ne_nil hne
  cases negative with
  | true => exact ⟨'-', _, rfl, .inl rfl⟩
  | false => exact ⟨d, _, rfl, .inr (run_cons.1 hrun).1⟩

namespace Number

/-! ## Numbers are scanned whole -/

theorem digits_run {ds rest : List Char} (hrun : Run Char.isDigit ds)
    (hrest : Stops Char.isDigit rest) : digits ((ds ++ rest).map some) = (ds, rest.map some) := by
  induction ds with
  | nil =>
    cases rest with
    | nil => rfl
    | cons c rest => simp [digits, stops_cons.1 hrest]
  | cons c ds ih =>
    obtain ⟨hc, hrun⟩ := run_cons.1 hrun
    simp only [List.cons_append, List.map_cons, digits, hc, ih hrun, if_true]

variable {exponent rest : List Char} {power : Int}

theorem scanExponent_append (negative integral : Bool) (whole fraction : List Char)
    (h : Numeral.IsExponent exponent power)
    (hrest : Stops Numeral.continues rest) :
    scanExponent ⟨negative, whole, fraction, 0, integral, .complete⟩ ((exponent ++ rest).map some) =
      (⟨negative, whole, fraction, power, integral && exponent.isEmpty, .complete⟩,
        rest.map some) := by
  cases h with
  | absent =>
    cases rest with
    | nil => simp [scanExponent]
    | cons c rest =>
      have hc := stops_cons.1 hrest
      simp only [Numeral.continues, Bool.or_eq_false_iff, decide_eq_false_iff_not] at hc
      simp [scanExponent, hc]
  | @power marker sign ds minus hmarker hsign hds =>
    have hstop : Stops Char.isDigit rest := by
      intro c hc
      have := hrest c hc
      simp only [Numeral.continues, Bool.or_eq_false_iff] at this
      exact this.1.1.1
    have hdigits := digits_run hds.2 hstop
    obtain ⟨d, ds, rfl⟩ := List.exists_cons_of_ne_nil hds.1
    have hne := Numeral.not_sign_of_isDigit d (run_cons.1 hds.2).1
    simp only [Bool.or_eq_false_iff, decide_eq_false_iff_not] at hne
    rw [List.cons_append, List.map_cons, List.map_append] at hdigits
    cases hsign <;> simp [scanExponent, hmarker, hdigits, hne]

theorem scanFraction_append (negative : Bool) (whole : List Char) {point fraction : List Char}
    (hpoint : IsFraction point fraction) (hexponent : Numeral.IsExponent exponent power)
    (hrest : Stops Numeral.continues rest) :
    scanFraction (ofWhole negative whole) ((point ++ (exponent ++ rest)).map some) =
      (⟨negative, whole, fraction, power, point.isEmpty && exponent.isEmpty, .complete⟩,
        rest.map some) := by
  have hstops := Numeral.stops_exponent hexponent hrest
  cases hpoint with
  | absent =>
    have hnoPoint : ∀ tail, (exponent ++ rest).map some ≠ some '.' :: tail := by
      intro tail heq
      cases hcons : exponent ++ rest with
      | nil => simp [hcons] at heq
      | cons c more =>
        simp only [hcons, List.map_cons, List.cons.injEq, Option.some.injEq] at heq
        simp [hcons, heq.1] at hstops
    rw [List.nil_append, scanFraction]
    · exact scanExponent_append negative true whole [] hexponent hrest
    · exact hnoPoint
  | @point ds hds =>
    have hdigits := digits_run hds.2 fun c hc => (Bool.or_eq_false_iff.1 (hstops c hc)).1
    obtain ⟨d, ds, rfl⟩ := List.exists_cons_of_ne_nil hds.1
    rw [List.cons_append, List.map_cons, scanFraction, hdigits]
    exact scanExponent_append negative false whole (d :: ds) hexponent hrest

theorem scan_sign_append (negative : Bool) {whole tail : List Char} (hwhole : IsWhole whole)
    (htail : Stops Char.isDigit tail) :
    scan ((Layout.sign negative ++ (whole ++ tail)).map some) =
      scanFraction (ofWhole negative whole) (tail.map some) := by
  obtain ⟨hds, hzero⟩ := hwhole
  have hdigits := digits_run hds.2 htail
  obtain ⟨d, ds, rfl⟩ := List.exists_cons_of_ne_nil hds.1
  have hminus : d ≠ '-' := by
    intro heq
    exact absurd (hds.2 d List.mem_cons_self) (by simp [heq])
  rw [List.cons_append, List.map_cons, List.map_append] at hdigits
  -- either the only digit is a zero, or the first is none
  rcases hzero with hzero | hfirst
  · cases hzero
    rw [List.map_nil, List.nil_append] at hdigits
    cases negative <;> simp [scan, Layout.sign, hdigits]
  · have hd : d ≠ '0' := by simpa using hfirst
    cases negative <;> simp [scan, Layout.sign, hdigits, hminus, hd]

/-- **A number is scanned whole** when nothing follows that could continue it. -/
theorem scan_append {text : List Char} {n : Number} (h : IsNumber text n)
    (hrest : Stops Numeral.continues rest) :
    scan ((text ++ rest).map some) = (n, rest.map some) := by
  obtain ⟨negative, hwhole, hpoint, hexponent⟩ := h
  simp only [List.append_assoc]
  rw [scan_sign_append negative hwhole, scanFraction_append negative _ hpoint hexponent hrest]
  cases hpoint with
  | absent => exact fun c hc =>
      (Bool.or_eq_false_iff.1 (Numeral.stops_exponent hexponent hrest c hc)).1
  | point _ => exact stops_cons.2 (by decide)

end Number

theorem IsNumber.unique {text : List Char} {n k : Number} (hn : IsNumber text n)
    (hk : IsNumber text k) : n = k := by
  have hscan := Number.scan_append hn stops_nil
  rw [Number.scan_append hk stops_nil] at hscan
  exact (Prod.ext_iff.1 hscan).1.symm

namespace Number

/-! ## Numbers are read quickly -/

/-- The number is read with correct rounding. -/
def ReadsNearest (n : Number) : Prop := n.value.RoundsTo n.held.scaled

theorem toBinary64_eq_ok_iff {n : Number} {x : Binary64} :
    n.toBinary64 = .ok x ↔ n.ending = .complete ∧ n.held.scaled = x ∧ x.isFinite := by
  unfold toBinary64
  split
  · next hending => simp [hending]
  · next hending => simp [hending]
  · next hending =>
    dsimp only
    split
    · next hfinite => simpa [hending] using fun heq => heq ▸ hfinite
    · next hfinite => simpa [hending] using fun heq => heq ▸ eq_false_of_ne_true hfinite

theorem ReadsNearest.roundsTo {n : Number} {x : Binary64} (hread : n.ReadsNearest)
    (h : n.toBinary64 = .ok x) : n.value.RoundsTo x := by
  obtain ⟨-, rfl, -⟩ := toBinary64_eq_ok_iff.1 h
  exact hread

theorem le_ofDigitChars (coefficient : Nat) (ds : List Char) :
    coefficient ≤ Nat.ofDigitChars 10 ds coefficient := by
  induction ds generalizing coefficient with
  | nil => exact le_rfl
  | cons d ds ih =>
    rw [Nat.ofDigitChars_cons]
    exact (show coefficient ≤ 10 * coefficient + (d.toNat - '0'.toNat) by omega).trans (ih _)

/-- Digits that 64 bits hold are put there to the last. -/
theorem putDigits_of_lt {coefficient : Nat} {ds : List Char}
    (h : Nat.ofDigitChars 10 ds coefficient < 2 ^ 64) :
    putDigits coefficient ds = (Nat.ofDigitChars 10 ds coefficient, []) := by
  induction ds generalizing coefficient with
  | nil => rfl
  | cons d ds ih =>
    have hstep : Nat.ofDigitChars 10 ds (Nat.ofDigitChars 10 [d] coefficient) =
        Nat.ofDigitChars 10 (d :: ds) coefficient := by
      rw [← Nat.ofDigitChars_append, List.singleton_append]
    rw [← hstep] at h ⊢
    rw [putDigits]
    exact (if_pos ((le_ofDigitChars _ ds).trans_lt h)).trans (ih h)

theorem held_eq_value {n : Number} (h : n.value.coefficient < 2 ^ 64) : n.held = n.value := by
  have hsplit : Nat.ofDigitChars 10 n.fraction (Nat.ofDigitChars 10 n.whole 0) =
      n.value.coefficient := (Nat.ofDigitChars_append ..).symm
  rw [← hsplit] at h
  rw [held, putDigits_of_lt ((le_ofDigitChars _ n.fraction).trans_lt h)]
  dsimp only
  rw [putDigits_of_lt h, hsplit]
  simp [value, Decimal.ofDigits]

/-- **Numbers of few digits are read with correct rounding.** -/
theorem readsNearest_of_le {n : Number} (hcoefficient : n.value.coefficient ≤ 2 ^ 53)
    (hexponent : n.value.exponent.natAbs ≤ 22) : n.ReadsNearest := by
  have hheld := held_eq_value (hcoefficient.trans_lt (by decide))
  rw [ReadsNearest, hheld, Decimal.scaled_eq_toBinary64 hcoefficient hexponent]
  exact Decimal.roundsTo_iff.2 rfl

end Number

end Json

/-! ## Written numbers -/

namespace Layout

open Json

theorem isDigits_toDigits (n : Nat) : Numeral.IsDigits (Nat.toDigits 10 n) :=
  ⟨Nat.toDigits_ne_nil, run_toDigits n⟩

theorem power_isExponent (exponent : Int) : Numeral.IsExponent (power exponent) exponent := by
  cases exponent with
  | ofNat n =>
    have h := Numeral.IsExponent.power (.inl rfl) .plus (isDigits_toDigits n)
    rwa [Nat.ofDigitChars_ten_toDigits] at h
  | negSucc n =>
    have h := Numeral.IsExponent.power (.inl rfl) .minus (isDigits_toDigits (n + 1))
    rwa [Nat.ofDigitChars_ten_toDigits] at h

/-- A text denotes a decimal: it is a magnitude, and of the same size. -/
def Denotes (text : List Char) (coefficient : Nat) (exponent : Int) : Prop :=
  ∃ whole fraction power integral, IsMagnitude text whole fraction power integral ∧
    ∀ negative, (Decimal.ofDigits negative whole fraction power).magnitude =
      (Decimal.mk negative coefficient exponent).magnitude

/-- Digits denote their number wherever the point stands, zeros in front or not, when the power of
ten makes up for the point. -/
theorem denotes_of_digits (coefficient zeros : Nat) {whole point fraction exponent : List Char}
    {power : Int} (hwhole : IsWhole whole) (hpoint : IsFraction point fraction)
    (hexponent : Numeral.IsExponent exponent power)
    (hdigits : whole ++ fraction = List.replicate zeros '0' ++ Nat.toDigits 10 coefficient) :
    Denotes (whole ++ point ++ exponent) coefficient (power - fraction.length) := by
  refine ⟨whole, fraction, power, _, .intro hwhole hpoint hexponent, fun negative => ?_⟩
  rw [Decimal.ofDigits, hdigits, ofDigitChars_zeros_toDigits]

theorem isFraction_of_run (d : Char) {ds : List Char} (h : Run Char.isDigit ds) :
    IsFraction ((if (d :: ds).length = 1 then [] else ['.']) ++ ds) ds := by
  cases ds with
  | nil => exact .absent
  | cons f fs => exact .point ⟨by simp, h⟩

variable {coefficient : Nat}

theorem denotes_scientific (h : 0 < coefficient) (exponent : Int) :
    Denotes (scientific coefficient exponent) coefficient exponent := by
  have hrun := run_toDigits coefficient
  have hfirst := head?_toDigits_ne h
  obtain ⟨d, ds, hdigits⟩ :=
    List.exists_cons_of_ne_nil (Nat.toDigits_ne_nil (n := coefficient) (b := 10))
  rw [hdigits] at hrun hfirst
  obtain ⟨hd, hrun⟩ := run_cons.1 hrun
  have hwhole : IsWhole [d] := ⟨⟨by simp, by simpa using hd⟩, .inr (by simpa using hfirst)⟩
  have hdenotes := denotes_of_digits coefficient 0 hwhole (isFraction_of_run d hrun)
    (power_isExponent (exponent + ds.length)) (by simp [hdigits])
  rw [Int.add_sub_cancel] at hdenotes
  have hplace : exponent + (d :: ds).length - 1 = exponent + ds.length := by simp; omega
  have htext : scientific coefficient exponent =
      [d] ++ ((if (d :: ds).length = 1 then [] else ['.']) ++ ds) ++
        power (exponent + ds.length) := by
    rw [scientific, hdigits, hplace]
    simp
  rwa [htext]

/-- Digits with zeros in front up to one place before the point: below one there is a zero before
the point, and above it there is none in front. -/
theorem isWhole_take (h : 0 < coefficient) {places : Nat} {padded : List Char}
    (hpadded : padded = List.replicate (places + 1 - (Nat.toDigits 10 coefficient).length) '0' ++
      Nat.toDigits 10 coefficient) : IsWhole (padded.take (padded.length - places)) := by
  have hdigits := isDigits_toDigits coefficient
  have hfirst := head?_toDigits_ne h
  subst hpadded
  generalize Nat.toDigits 10 coefficient = digits at *
  by_cases hlong : digits.length ≤ places
  · obtain ⟨k, hk⟩ : ∃ k, places + 1 - digits.length = k + 1 := ⟨places - digits.length, by omega⟩
    have hlength : k + 1 + digits.length - places = 1 := by omega
    rw [hk, List.length_append, List.length_replicate, hlength, List.replicate_succ]
    exact ⟨⟨by simp, run_cons.2 ⟨by decide, run_nil⟩⟩, .inl rfl⟩
  · have hnone : places + 1 - digits.length = 0 := by omega
    rw [hnone, List.replicate_zero, List.nil_append]
    obtain ⟨k, hk⟩ : ∃ k, digits.length - places = k + 1 := ⟨digits.length - places - 1, by omega⟩
    obtain ⟨d, ds, rfl⟩ := List.exists_cons_of_ne_nil hdigits.1
    rw [hk, List.take_succ_cons]
    obtain ⟨hd, hrun⟩ := run_cons.1 hdigits.2
    have htake : Run Char.isDigit (ds.take k) := fun c hc => hrun c (List.mem_of_mem_take hc)
    exact ⟨⟨by simp, run_cons.2 ⟨hd, htake⟩⟩, .inr (by simpa using hfirst)⟩

theorem denotes_positional_negSucc (h : 0 < coefficient) (n : Nat) :
    Denotes (positional coefficient (.negSucc n)) coefficient (.negSucc n) := by
  obtain ⟨padded, hpadded, hrun, hlength, htext⟩ := positional_negSucc coefficient n
  have hfraction : Numeral.IsDigits (padded.drop (padded.length - (n + 1))) := by
    refine ⟨?_, fun c hc => hrun c (List.mem_of_mem_drop hc)⟩
    rw [← List.length_pos_iff, List.length_drop]
    omega
  have hdenotes := denotes_of_digits coefficient _ (isWhole_take h hpadded)
    (.point hfraction) .absent (by rw [List.take_append_drop, hpadded])
  have hplaces : (0 : Int) - (padded.drop (padded.length - (n + 1))).length = .negSucc n := by
    rw [List.length_drop]
    omega
  rwa [List.append_nil, hplaces, ← htext] at hdenotes

theorem denotes_positional_ofNat (h : 0 < coefficient) (zeros : Nat) :
    Denotes (positional coefficient (.ofNat zeros) ++ ['.', '0']) coefficient (.ofNat zeros) := by
  have hdigits := isDigits_toDigits coefficient
  have hfirst := head?_toDigits_ne h
  have hwhole : IsWhole (Nat.toDigits 10 coefficient ++ List.replicate zeros '0') := by
    refine ⟨⟨List.append_ne_nil_of_left_ne_nil hdigits.1 _,
      run_append hdigits.2 (run_zeros zeros)⟩, .inr ?_⟩
    obtain ⟨d, ds, hcons⟩ := List.exists_cons_of_ne_nil hdigits.1
    rw [hcons] at hfirst ⊢
    simpa using hfirst
  have hfraction : IsFraction ['.', '0'] ['0'] := .point ⟨by simp, by simp [run_cons]⟩
  have hmagnitude := IsMagnitude.intro hwhole hfraction .absent
  rw [List.append_nil] at hmagnitude
  have hvalue : Nat.ofDigitChars 10
      (Nat.toDigits 10 coefficient ++ List.replicate zeros '0' ++ ['0']) 0 =
      coefficient * 10 ^ (zeros + 1) := by
    rw [List.append_assoc, ← List.replicate_succ', Nat.ofDigitChars_append,
      Nat.ofDigitChars_ten_toDigits, Nat.ofDigitChars_replicate_zero, Nat.mul_comm]
  refine ⟨_, _, _, _, hmagnitude, fun negative => ?_⟩
  rw [Decimal.ofDigits, hvalue, Decimal.magnitude, Decimal.magnitude]
  push_cast
  rw [pow_succ, mul_assoc, mul_assoc]
  norm_num

/-- **The layout of serialised records** denotes what is laid out, in both notations. -/
theorem denotes_serialised (h : 0 < coefficient) (exponent : Int) :
    Denotes (serialised coefficient exponent) coefficient exponent := by
  unfold serialised
  dsimp only
  split_ifs with hfar hbelow
  · exact denotes_scientific h exponent
  · cases exponent with
    | ofNat zeros => exact absurd hbelow (by simp)
    | negSucc n => exact denotes_positional_negSucc h n
  · cases exponent with
    | ofNat zeros => exact denotes_positional_ofNat h zeros
    | negSucc n => exact absurd (Int.negSucc_lt_zero n) hbelow

end Layout

/-- **A finite number is written as a number that rounds to it.** -/
theorem Binary64.exists_isNumber_jsonChars {x : Binary64} (h : x.isFinite) :
    ∃ n, Json.IsNumber x.jsonChars n ∧ n.value.RoundsTo x := by
  cases x with
  | nan => cases h
  | signed negative rank =>
    have hfinite : rank.val < infinityRank := by simpa only [isFinite, decide_eq_true_eq] using h
    rw [jsonChars, if_neg hfinite.ne]
    split_ifs with hzero
    · have hdigit : Numeral.IsDigits ['0'] := ⟨by simp, by simp [run_cons]⟩
      have hnumber := Json.IsNumber.intro negative
        (.intro ⟨hdigit, .inl rfl⟩ (.point hdigit) .absent)
      refine ⟨_, hnumber, Decimal.roundsTo_iff.2 (Eq.symm ?_)⟩
      have hdecimal : Decimal.ofDigits negative ['0'] ['0'] 0 = ⟨negative, 0, -1⟩ := rfl
      calc (Decimal.ofDigits negative ['0'] ['0'] 0).toBinary64
          = (Decimal.mk negative 0 0).toBinary64 :=
            Decimal.toBinary64_congr rfl (by simp [hdecimal, Decimal.magnitude])
        _ = signed negative rank := by
            rw [signed_eq_ofRank, hzero]
            rfl
    · have hpos : 0 < rank.val := Nat.pos_of_ne_zero hzero
      have hreads := Shortest.readsBack_shortestDecimal .toEven hpos
      unfold layOut
      generalize shortestDecimal .toEven rank.val = decimal at *
      obtain ⟨coefficient, exponent⟩ := decimal
      obtain ⟨whole, fraction, power, integral, hmagnitude, hsame⟩ :=
        Layout.denotes_serialised (Shortest.coefficient_pos hpos hreads) exponent
      have hnumber := Json.IsNumber.intro negative hmagnitude
      refine ⟨_, hnumber, Decimal.roundsTo_iff.2 (Eq.symm ?_)⟩
      calc (Decimal.ofDigits negative whole fraction power).toBinary64
          = (Decimal.mk negative coefficient exponent).toBinary64 :=
            Decimal.toBinary64_congr rfl (hsame negative)
        _ = ofRank negative rank.val := by
            rw [Decimal.toBinary64, ← Decimal.rank_of_readsBack hpos hfinite hreads]
        _ = signed negative rank := (signed_eq_ofRank negative rank).symm

/-- What is written for the number is read with correct rounding. -/
def Binary64.IsReadExactly (x : Binary64) : Prop :=
  ∀ n, Json.IsNumber x.jsonChars n → n.ReadsNearest

/-- **A written number is read as itself** just if it is read with correct rounding. -/
theorem Binary64.toBinary64_eq_ok_iff_isReadExactly {x : Binary64} {n : Json.Number}
    (h : Json.IsNumber x.jsonChars n) (hfinite : x.isFinite) :
    n.toBinary64 = .ok x ↔ x.IsReadExactly := by
  obtain ⟨k, hk, hrounds⟩ := exists_isNumber_jsonChars hfinite
  obtain rfl := h.unique hk
  rw [Json.Number.toBinary64_eq_ok_iff]
  constructor
  · rintro ⟨-, heq, -⟩ k hk
    obtain rfl := h.unique hk
    rwa [Json.Number.ReadsNearest, heq]
  · intro hread
    refine ⟨h.complete, ?_, hfinite⟩
    rw [Decimal.roundsTo_iff.1 (hread n h), Decimal.roundsTo_iff.1 hrounds]

end Fairweather
