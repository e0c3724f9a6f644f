import Mathlib
import Fairweather.Proofs.Number.Literals

/-!
# The longest numeral

Of the numerals at the front of a text, `Numeral.scan` takes the longest, and it takes none only
where there is none.

**Greedy steps.** The scanner takes a sign, digits, a point and digits again as far as each goes. A
numeral at the front that ends with its mantissa may end sooner, but then what is taken goes on from
it (`scanMantissa_extends`). One with an exponent ends its mantissa at a marker, where no digit and
no point can stand; so its mantissa is the one that is taken, and only the digits of the exponent
may go on (`scanExponent_extends`).

**A marker without digits** begins no exponent and stays in the text (`scan_dangling`).

What is taken is a number as a whole text, too: no numeral reads as a word for infinity or for what
is not a number (`IsNumeral.ofText?_eq`).

Main results: `scan_eq_some_iff` and `scan_eq_none_iff`.
-/

namespace Fairweather

namespace Numeral

open Text

/-! ## Numerals at the front of a text -/

variable {text numeral : List Char} {d e : Decimal}

/-- **The longest numeral** at the front of a text, and the decimal that it denotes. -/
structure IsLongest (text numeral : List Char) (d : Decimal) : Prop where
  isNumeral : IsNumeral numeral d
  atFront : numeral <+: text
  longest : ∀ other e, IsNumeral other e → other <+: text → other.length ≤ numeral.length

theorem IsNumeral.value_unique (h : IsNumeral numeral d) (h' : IsNumeral numeral e) : d = e :=
  (numeral_unique h stops_nil h' stops_nil rfl).2.1

theorem IsLongest.unique {numeral' : List Char} (h : IsLongest text numeral d)
    (h' : IsLongest text numeral' e) : numeral = numeral' ∧ d = e := by
  have hle := h'.longest _ _ h.isNumeral h.atFront
  have hge := h.longest _ _ h'.isNumeral h'.atFront
  have heq := (List.prefix_of_prefix_length_le h.atFront h'.atFront hle).eq_of_length_le hge
  subst heq
  exact ⟨rfl, h.isNumeral.value_unique h'.isNumeral⟩

/-! ## What is taken goes on from any numeral -/

theorem scanExponent_extends {exponent : List Char} {power : Int}
    (h : IsExponent exponent power) (rest : List Char) :
    exponent <+: (scanExponent (exponent ++ rest)).1 := by
  cases h with
  | absent => exact List.nil_prefix
  | @power marker sign ds negative hmarker hsign hds =>
    have hscan : scanSign (sign ++ ds ++ rest) = (sign, negative, ds ++ rest) := by
      rw [List.append_assoc]
      exact scanSign_append hsign (hds.stops not_sign_of_isDigit)
    have htake : (ds ++ rest).takeWhile Char.isDigit = ds ++ rest.takeWhile Char.isDigit :=
      List.takeWhile_append_of_pos hds.2
    have hne : ds ++ rest.takeWhile Char.isDigit ≠ [] := by simp [hds.1]
    rw [List.cons_append, List.cons_append]
    unfold scanExponent
    dsimp only
    rw [hscan]
    dsimp only
    rw [htake, if_pos ⟨hmarker, hne⟩]
    simp

/-- The digits, the point and the digits that are taken go on from any mantissa at the front. -/
theorem scanMantissa_extends {mantissa whole fraction : List Char}
    (h : IsMantissa mantissa whole fraction) (rest : List Char) :
    let ds := (mantissa ++ rest).takeWhile Char.isDigit
    let (point, fs, _) := scanFraction ((mantissa ++ rest).dropWhile Char.isDigit)
    mantissa <+: ds ++ point ++ fs ∧ ¬ (ds = [] ∧ fs = []) := by
  have hpoint : ∀ behind, Stops Char.isDigit ('.' :: behind) := fun _ => stops_cons.2 (by decide)
  cases h with
  | whole hds =>
    rw [List.takeWhile_append_of_pos hds.2]
    simp [hds.1]
  | point hds hfs =>
    have hsplit : whole ++ '.' :: fraction ++ rest = whole ++ '.' :: (fraction ++ rest) := by simp
    rw [hsplit, takeWhile_run hds.2 (hpoint _), dropWhile_run hds.2 (hpoint _), scanFraction,
      List.takeWhile_append_of_pos hfs]
    simp [hds.1]
  | fraction hfs =>
    have hsplit : '.' :: fraction ++ rest = [] ++ '.' :: (fraction ++ rest) := rfl
    rw [hsplit, takeWhile_run run_nil (hpoint _), dropWhile_run run_nil (hpoint _), scanFraction,
      List.takeWhile_append_of_pos hfs.2]
    simp [hfs.1]

theorem stops_marker {marker : Char} (h : marker = 'e' ∨ marker = 'E') (rest : List Char) :
    Stops (fun c => c.isDigit || c = '.') (marker :: rest) := by
  rcases h with rfl | rfl <;> exact stops_cons.2 (by decide)

/-- **What is taken goes on from any numeral at the front.** -/
theorem scan_extends (h : IsNumeral numeral d) (rest : List Char) :
    ∃ taken left, scan (numeral ++ rest) = some (taken, left) ∧ numeral <+: taken.text := by
  cases h with
  | @intro sign mantissa whole fraction exponent negative power hsign hmantissa hexponent =>
    by_cases hne : exponent = []
    · -- the numeral ends with its mantissa, which may go on in the rest
      have hscan : scanSign (sign ++ (mantissa ++ rest)) = (sign, negative, mantissa ++ rest) :=
        scanSign_append hsign (stops_mantissa hmantissa)
      have hmore := scanMantissa_extends hmantissa rest
      rw [hne, List.append_nil, List.append_assoc]
      unfold scan
      rw [hscan]
      dsimp only
      generalize scanFraction _ = scanned at *
      obtain ⟨point, fs, left⟩ := scanned
      dsimp only at hmore ⊢
      rw [if_neg hmore.2]
      refine ⟨_, _, rfl, ?_⟩
      simp only [List.append_assoc, List.prefix_append_right_inj] at hmore ⊢
      exact hmore.1.trans (by simp)
    · -- the marker of the exponent ends the mantissa
      have hstops : Stops (fun c => c.isDigit || c = '.') (exponent ++ rest) := by
        cases hexponent with
        | absent => exact absurd rfl hne
        | power hmarker _ _ => exact stops_marker hmarker _
      refine ⟨_, _, by rw [List.append_assoc]; exact scan_of_stops hsign hmantissa hstops, ?_⟩
      exact (List.prefix_append_right_inj _).2 (scanExponent_extends hexponent rest)

/-! ## The scanner takes the longest numeral -/

theorem scan_isLongest {rest : List Char} {taken : Numeral} (h : scan text = some (taken, rest)) :
    IsLongest text taken.text taken.value := by
  obtain ⟨htext, hnumeral⟩ := scan_sound h
  refine ⟨hnumeral, ⟨rest, htext.symm⟩, fun other e hother hfront => ?_⟩
  obtain ⟨left, rfl⟩ := hfront
  obtain ⟨taken', rest', hscan, hmore⟩ := scan_extends hother left
  rw [h, Option.some.injEq, Prod.mk.injEq] at hscan
  exact hscan.1 ▸ hmore.length_le

/-- **The longest numeral is taken**, and what stands behind it is left. -/
theorem scan_eq_some_iff {taken : Numeral} {rest : List Char} :
    scan text = some (taken, rest) ↔
      IsLongest text taken.text taken.value ∧ text = taken.text ++ rest := by
  refine ⟨fun h => ⟨scan_isLongest h, (scan_sound h).1⟩, fun ⟨hlongest, htext⟩ => ?_⟩
  obtain ⟨⟨numeral, d⟩, rest', hscan, -⟩ := scan_extends hlongest.isNumeral rest
  rw [← htext] at hscan
  obtain ⟨rfl, rfl⟩ := hlongest.unique (scan_isLongest hscan)
  rw [hscan, List.append_cancel_left (htext.symm.trans (scan_sound hscan).1)]

/-- **None is taken only where there is none.** -/
theorem scan_eq_none_iff :
    scan text = none ↔ ∀ numeral d, IsNumeral numeral d → ¬ numeral <+: text := by
  refine ⟨fun h numeral d hnumeral hfront => ?_, fun h => ?_⟩
  · obtain ⟨rest, rfl⟩ := hfront
    obtain ⟨taken, left, hscan, -⟩ := scan_extends hnumeral rest
    rw [h] at hscan
    cases hscan
  · cases hscan : scan text with
    | none => rfl
    | some found =>
      obtain ⟨taken, rest⟩ := found
      have hlongest := scan_isLongest hscan
      exact absurd hlongest.atFront (h _ _ hlongest.isNumeral)

/-- **A marker without digits is left in the text.** -/
theorem scan_dangling {sign mantissa whole fraction rest : List Char} {marker : Char}
    {negative : Bool} (hsign : IsSign sign negative)
    (hmantissa : IsMantissa mantissa whole fraction) (hmarker : marker = 'e' ∨ marker = 'E')
    (hnone : ∀ exponent power, IsExponent exponent power → exponent <+: marker :: rest →
      exponent = []) :
    scan (sign ++ mantissa ++ marker :: rest) =
      some (⟨sign ++ mantissa, Decimal.ofDigits negative whole fraction 0⟩, marker :: rest) := by
  obtain ⟨htext, hexponent⟩ := scanExponent_sound (marker :: rest)
  have hnil := hnone _ _ hexponent ⟨_, htext.symm⟩
  rw [scan_of_stops hsign hmantissa (stops_marker hmarker rest)]
  rw [hnil, List.nil_append] at htext
  rw [hnil] at hexponent
  generalize scanExponent (marker :: rest) = scanned at *
  obtain ⟨exponent, power, left⟩ := scanned
  dsimp only at *
  cases hexponent
  rw [hnil, List.append_nil, htext]

/-! ## Numerals as whole texts -/

theorem not_isAlpha_of_isDigit (c : Char) (h : c.isDigit) : c.isAlpha = false := by
  simp only [Char.isDigit, Bool.and_eq_true, decide_eq_true_eq] at h
  simp only [Char.isAlpha, Char.isUpper, Char.isLower, Bool.or_eq_false_iff, Bool.and_eq_false_iff,
    decide_eq_false_iff_not]
  exact ⟨fun hupper => absurd (UInt32.le_trans hupper.1 h.2) (by decide),
    .inl fun hlower => absurd (UInt32.le_trans hlower h.2) (by decide)⟩

theorem ofList_map_toLower_ne {word : String} (htext : Stops Char.isAlpha text)
    (hword : word.toList.head?.any Char.isAlpha) :
    String.ofList (text.map Char.toLower) ≠ word := by
  rintro rfl
  rw [String.toList_ofList] at hword
  cases text with
  | nil => cases hword
  | cons c rest =>
    have hc : c.isAlpha = false := stops_cons.1 htext
    simp [hc] at hword

/-- **A numeral as a whole text** is read as the number that it denotes. -/
theorem IsNumeral.ofText?_eq (h : IsNumeral numeral d) :
    Binary64.ofText? (String.ofList numeral) = some d.toBinary64 := by
  have hscan := scan_append h stops_nil
  rw [List.append_nil] at hscan
  cases h with
  | @intro sign mantissa whole fraction exponent negative power hsign hmantissa hexponent =>
    have hsigned : scanSign (sign ++ mantissa ++ exponent) =
        (sign, negative, mantissa ++ exponent) := by
      rw [List.append_assoc]
      exact scanSign_append hsign (stops_mantissa hmantissa)
    have hword : ∀ word : String, word.toList.head?.any Char.isAlpha →
        String.ofList ((mantissa ++ exponent).map Char.toLower) ≠ word :=
      fun word => ofList_map_toLower_ne (hmantissa.stops not_isAlpha_of_isDigit (by decide))
    unfold Binary64.ofText?
    rw [String.toList_ofList, hsigned]
    dsimp only
    rw [if_neg (not_or.2 ⟨hword "inf" (by decide), hword "infinity" (by decide)⟩),
      if_neg (hword "nan" (by decide)), hscan]

end Numeral

end Fairweather
