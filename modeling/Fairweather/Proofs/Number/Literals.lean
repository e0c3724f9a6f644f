import Fairweather.Number.Numeral
import Fairweather.Proofs.Text.Runs

/-!
# The language of numerals

Which texts are numerals, and what they denote, said without the function that scans them: an
optional sign, a mantissa with a digit on at least one side of its point, and an optional exponent
(`IsNumeral`).

`Numeral.scan` is held to it from both sides. What it takes is a numeral (`scan_sound`), and it
takes a numeral whole when no character follows that could continue one (`scan_append`). Hence a
text that begins with a numeral and goes on in such a way does so in one way only
(`numeral_unique`).
-/

namespace Fairweather

namespace Numeral

open Text

/-! ## The language -/

/-- An optional sign, and whether it is the minus sign. -/
inductive IsSign : List Char → Bool → Prop
  | absent : IsSign [] false
  | plus : IsSign ['+'] false
  | minus : IsSign ['-'] true

/-- One or more digits. -/
def IsDigits (text : List Char) : Prop := text ≠ [] ∧ Run Char.isDigit text

/-- Digits with at most one point among or around them, and the digits before and behind it. -/
inductive IsMantissa : List Char → List Char → List Char → Prop
  | whole {ds : List Char} : IsDigits ds → IsMantissa ds ds []
  | point {ds fs : List Char} : IsDigits ds → Run Char.isDigit fs →
      IsMantissa (ds ++ '.' :: fs) ds fs
  | fraction {fs : List Char} : IsDigits fs → IsMantissa ('.' :: fs) [] fs

/-- An optional exponent, and the power of ten that it stands for. -/
inductive IsExponent : List Char → Int → Prop
  | absent : IsExponent [] 0
  | power {marker : Char} {sign ds : List Char} {negative : Bool} :
      marker = 'e' ∨ marker = 'E' → IsSign sign negative → IsDigits ds →
      IsExponent (marker :: sign ++ ds)
        (if negative then -(Nat.ofDigitChars 10 ds 0 : Int) else Nat.ofDigitChars 10 ds 0)

/-- **A numeral**, and the decimal that it denotes. -/
inductive IsNumeral : List Char → Decimal → Prop
  | intro {sign mantissa whole fraction exponent : List Char} {negative : Bool} {power : Int} :
      IsSign sign negative → IsMantissa mantissa whole fraction → IsExponent exponent power →
      IsNumeral (sign ++ mantissa ++ exponent) (Decimal.ofDigits negative whole fraction power)

/-- The characters that can continue a numeral. -/
def continues (c : Char) : Bool := c.isDigit || c = '.' || c = 'e' || c = 'E'

theorem IsDigits.stops {text rest : List Char} {kind : Char → Bool} (h : IsDigits text)
    (hkind : ∀ c, c.isDigit → kind c = false) : Stops kind (text ++ rest) := by
  obtain ⟨hne, hrun⟩ := h
  cases text with
  | nil => exact absurd rfl hne
  | cons c text => exact stops_cons.2 (hkind c (run_cons.1 hrun).1)

theorem IsMantissa.stops {text whole fraction rest : List Char} {kind : Char → Bool}
    (h : IsMantissa text whole fraction) (hdigit : ∀ c, c.isDigit → kind c = false)
    (hpoint : kind '.' = false) : Stops kind (text ++ rest) := by
  cases h with
  | whole hds => exact hds.stops hdigit
  | point hds _ =>
    rw [List.append_assoc]
    exact hds.stops hdigit
  | fraction _ => exact stops_cons.2 hpoint

/-! ## What is scanned is a numeral -/

theorem scanSign_sound (text : List Char) :
    text = (scanSign text).1 ++ (scanSign text).2.2 ∧
      IsSign (scanSign text).1 (scanSign text).2.1 := by
  unfold scanSign
  split
  · exact ⟨rfl, .plus⟩
  · exact ⟨rfl, .minus⟩
  · exact ⟨rfl, .absent⟩

theorem isDigits_takeWhile {text : List Char} (h : text.takeWhile Char.isDigit ≠ []) :
    IsDigits (text.takeWhile Char.isDigit) := ⟨h, run_takeWhile⟩

theorem scanExponent_sound (text : List Char) :
    text = (scanExponent text).1 ++ (scanExponent text).2.2 ∧
      IsExponent (scanExponent text).1 (scanExponent text).2.1 := by
  cases text with
  | nil => exact ⟨rfl, .absent⟩
  | cons marker rest =>
    obtain ⟨hrest, hsign⟩ := scanSign_sound rest
    unfold scanExponent
    dsimp only
    split
    · next h =>
      refine ⟨?_, .power h.1 hsign (isDigits_takeWhile h.2)⟩
      rw [List.append_assoc, List.takeWhile_append_dropWhile, List.cons_append, ← hrest]
    · exact ⟨rfl, .absent⟩

/-- Digits, a point if there is one, and the digits behind it. -/
theorem scanMantissa_sound (text : List Char)
    (h : ¬ (text.takeWhile Char.isDigit = [] ∧
      (scanFraction (text.dropWhile Char.isDigit)).2.1 = [])) :
    let whole := text.takeWhile Char.isDigit
    let (point, fraction, rest) := scanFraction (text.dropWhile Char.isDigit)
    text = whole ++ point ++ fraction ++ rest ∧
      IsMantissa (whole ++ point ++ fraction) whole fraction := by
  have htext : text.takeWhile Char.isDigit ++ text.dropWhile Char.isDigit = text :=
    List.takeWhile_append_dropWhile
  have hrun : Run Char.isDigit (text.takeWhile Char.isDigit) := run_takeWhile
  dsimp only
  generalize text.takeWhile Char.isDigit = whole at *
  generalize text.dropWhile Char.isDigit = behind at *
  subst htext
  unfold scanFraction at h ⊢
  split at h
  · next rest =>
    dsimp only at h ⊢
    have hfraction : Run Char.isDigit (rest.takeWhile Char.isDigit) := run_takeWhile
    constructor
    · rw [List.append_assoc, List.append_assoc, List.takeWhile_append_dropWhile]
      rfl
    · rw [List.append_assoc, List.singleton_append]
      by_cases hwhole : whole = []
      · subst hwhole
        exact .fraction ⟨fun h' => h ⟨rfl, h'⟩, hfraction⟩
      · exact .point ⟨hwhole, hrun⟩ hfraction
  · dsimp only at h ⊢
    have hwhole : whole ≠ [] := fun h' => h ⟨h', rfl⟩
    simp only [List.append_nil, true_and]
    exact .whole ⟨hwhole, hrun⟩

/-- **What is scanned is a numeral** at the front of the text. -/
theorem scan_sound {text rest : List Char} {numeral : Numeral}
    (h : scan text = some (numeral, rest)) :
    text = numeral.text ++ rest ∧ IsNumeral numeral.text numeral.value := by
  unfold scan at h
  obtain ⟨hsign, hisSign⟩ := scanSign_sound text
  generalize scanSign text = scanned at *
  obtain ⟨sign, negative, afterSign⟩ := scanned
  dsimp only at h hsign hisSign
  have hmantissa := scanMantissa_sound afterSign
  generalize afterSign.takeWhile Char.isDigit = whole at *
  generalize scanFraction (afterSign.dropWhile Char.isDigit) = scanned at *
  obtain ⟨point, fraction, afterFraction⟩ := scanned
  dsimp only at h hmantissa
  obtain ⟨hexponent, hisExponent⟩ := scanExponent_sound afterFraction
  generalize scanExponent afterFraction = scanned at *
  obtain ⟨exponent, power, tail⟩ := scanned
  dsimp only at h hexponent hisExponent
  split at h
  · cases h
  · next hne =>
    obtain ⟨hafter, hisMantissa⟩ := hmantissa hne
    cases h
    constructor
    · rw [hsign, hafter, hexponent]
      simp only [List.append_assoc]
    · have := IsNumeral.intro hisSign hisMantissa hisExponent
      simpa only [List.append_assoc] using this

/-! ## Numerals are scanned whole -/

theorem scanSign_append {sign rest : List Char} {negative : Bool} (h : IsSign sign negative)
    (hrest : Stops (fun c => c = '+' || c = '-') rest) :
    scanSign (sign ++ rest) = (sign, negative, rest) := by
  cases h with
  | plus => rfl
  | minus => rfl
  | absent =>
    cases rest with
    | nil => rfl
    | cons c rest =>
      have hc := stops_cons.1 hrest
      simp only [Bool.or_eq_false_iff, decide_eq_false_iff_not] at hc
      rw [List.nil_append]
      unfold scanSign
      split
      · next heq => exact absurd (List.cons.inj heq).1 hc.1
      · next heq => exact absurd (List.cons.inj heq).1 hc.2
      · rfl

theorem not_sign_of_isDigit (c : Char) (h : c.isDigit) : (c = '+' || c = '-') = false := by
  simp only [Bool.or_eq_false_iff, decide_eq_false_iff_not]
  constructor
  · intro heq
    subst heq
    exact absurd h (by decide)
  · intro heq
    subst heq
    exact absurd h (by decide)

theorem scanExponent_append {exponent rest : List Char} {power : Int}
    (h : IsExponent exponent power) (hrest : Stops continues rest) :
    scanExponent (exponent ++ rest) = (exponent, power, rest) := by
  cases h with
  | absent =>
    cases rest with
    | nil => rfl
    | cons c rest =>
      have hc := stops_cons.1 hrest
      simp only [continues, Bool.or_eq_false_iff, decide_eq_false_iff_not] at hc
      have hnot : ¬ (c = 'e' ∨ c = 'E') := fun h => h.elim hc.1.2 hc.2
      rw [List.nil_append]
      unfold scanExponent
      dsimp only
      rw [if_neg fun h => hnot h.1]
  | @power marker sign ds negative hmarker hsign hds =>
    have hstop : Stops Char.isDigit rest := by
      intro c hc
      have := hrest c hc
      simp only [continues, Bool.or_eq_false_iff] at this
      exact this.1.1.1
    have hscan : scanSign (sign ++ (ds ++ rest)) = (sign, negative, ds ++ rest) :=
      scanSign_append hsign (hds.stops not_sign_of_isDigit)
    rw [List.append_assoc, List.cons_append]
    unfold scanExponent
    dsimp only
    rw [hscan]
    dsimp only
    rw [takeWhile_run hds.2 hstop, dropWhile_run hds.2 hstop, if_pos ⟨hmarker, hds.1⟩]

theorem stops_exponent {exponent rest : List Char} {power : Int}
    (h : IsExponent exponent power) (hrest : Stops continues rest) :
    Stops (fun c => c.isDigit || c = '.') (exponent ++ rest) := by
  cases h with
  | absent =>
    intro c hc
    have := hrest c hc
    simp only [continues, Bool.or_eq_false_iff] at this
    simp only [this.1.1, Bool.or_false]
  | power hmarker _ _ => rcases hmarker with rfl | rfl <;> exact stops_cons.2 (by decide)

theorem scanMantissa_append {mantissa whole fraction tail : List Char}
    (h : IsMantissa mantissa whole fraction) (htail : Stops (fun c => c.isDigit || c = '.') tail) :
    ∃ point, mantissa = whole ++ point ++ fraction ∧
      (mantissa ++ tail).takeWhile Char.isDigit = whole ∧
      scanFraction ((mantissa ++ tail).dropWhile Char.isDigit) = (point, fraction, tail) ∧
      ¬ (whole = [] ∧ fraction = []) := by
  have hdigit : Stops Char.isDigit tail := fun c hc => (Bool.or_eq_false_iff.1 (htail c hc)).1
  have hpoint : ∀ behind, Stops Char.isDigit ('.' :: behind) := fun _ => stops_cons.2 (by decide)
  cases h with
  | whole hds =>
    refine ⟨[], by simp, takeWhile_run hds.2 hdigit, ?_, fun h => hds.1 h.1⟩
    rw [dropWhile_run hds.2 hdigit]
    cases tail with
    | nil => rfl
    | cons c tail =>
      have hc := stops_cons.1 htail
      simp only [Bool.or_eq_false_iff, decide_eq_false_iff_not] at hc
      unfold scanFraction
      split
      · next heq => exact absurd (List.cons.inj heq).1 hc.2
      · rfl
  | point hds hfs =>
    have hsplit : whole ++ '.' :: fraction ++ tail = whole ++ '.' :: (fraction ++ tail) := by simp
    refine ⟨['.'], by simp, ?_, ?_, fun h => hds.1 h.1⟩
    · rw [hsplit, takeWhile_run hds.2 (hpoint _)]
    · rw [hsplit, dropWhile_run hds.2 (hpoint _), scanFraction, takeWhile_run hfs hdigit,
        dropWhile_run hfs hdigit]
  | fraction hfs =>
    have hsplit : '.' :: fraction ++ tail = [] ++ '.' :: (fraction ++ tail) := rfl
    refine ⟨['.'], rfl, ?_, ?_, fun h => hfs.1 h.2⟩
    · rw [hsplit, takeWhile_run run_nil (hpoint _)]
    · rw [hsplit, dropWhile_run run_nil (hpoint _), scanFraction, takeWhile_run hfs.2 hdigit,
        dropWhile_run hfs.2 hdigit]

theorem stops_mantissa {mantissa whole fraction tail : List Char}
    (h : IsMantissa mantissa whole fraction) :
    Stops (fun c => c = '+' || c = '-') (mantissa ++ tail) :=
  h.stops not_sign_of_isDigit (by decide)

/-- A mantissa that neither a digit nor a point follows is taken as it stands, and what follows it
is looked at for an exponent. -/
theorem scan_of_stops {sign mantissa whole fraction tail : List Char} {negative : Bool}
    (hsign : IsSign sign negative) (hmantissa : IsMantissa mantissa whole fraction)
    (htail : Stops (fun c => c.isDigit || c = '.') tail) :
    scan (sign ++ mantissa ++ tail) =
      some (⟨sign ++ mantissa ++ (scanExponent tail).1,
        Decimal.ofDigits negative whole fraction (scanExponent tail).2.1⟩,
        (scanExponent tail).2.2) := by
  obtain ⟨point, hparts, htake, hfraction, hne⟩ := scanMantissa_append hmantissa htail
  have hscan : scanSign (sign ++ (mantissa ++ tail)) = (sign, negative, mantissa ++ tail) :=
    scanSign_append hsign (stops_mantissa hmantissa)
  rw [List.append_assoc]
  unfold scan
  rw [hscan]
  dsimp only
  rw [htake, hfraction]
  dsimp only
  rw [if_neg hne, hparts]
  simp only [List.append_assoc]

/-- **A numeral is scanned whole** when nothing follows that could continue it. -/
theorem scan_append {text rest : List Char} {value : Decimal} (h : IsNumeral text value)
    (hrest : Stops continues rest) : scan (text ++ rest) = some (⟨text, value⟩, rest) := by
  cases h with
  | intro hsign hmantissa hexponent =>
    rw [List.append_assoc, scan_of_stops hsign hmantissa (stops_exponent hexponent hrest),
      scanExponent_append hexponent hrest]

theorem numeral_unique {text text' rest rest' : List Char} {value value' : Decimal}
    (h : IsNumeral text value) (hrest : Stops continues rest) (h' : IsNumeral text' value')
    (hrest' : Stops continues rest') (heq : text ++ rest = text' ++ rest') :
    text = text' ∧ value = value' ∧ rest = rest' := by
  have hscan := scan_append h hrest
  rw [heq, scan_append h' hrest'] at hscan
  cases hscan
  exact ⟨rfl, rfl, rfl⟩

end Numeral

end Fairweather
