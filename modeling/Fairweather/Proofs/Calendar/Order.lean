import Mathlib.Data.Prod.Lex
import Fairweather.Calendar.Timestamp

/-!
# The order of timestamps, and what differences and shifts make of it

Timestamps are ordered by their day, then by the second of the day, then by the nanoseconds, so
that a leap second lies behind the second that it belongs to.

**Away from leap seconds** a timestamp is an instant: the order is that of the instants, differences
are differences of instants, and a shift adds to the instant (`shift?_eq_some_iff`). So a difference
is what a shift undoes (`shift?_since`).

**With leap seconds** there is less. A timestamp that is later by a difference is later, but for the
leap second that ends a day, which differences lay over the first second of the next
(`lt_or_overlap_of_since_pos`). If this first second has no leap second of its own, that is all that
differences change in the order (`since_pos_iff`). A shift by a difference may miss the timestamp
that the difference was taken to; it does not go beyond it, unless that is itself within a leap
second (`shift?_since_le`).

**Whole seconds** are plainer, leap seconds among them or not. They do not overlap at midnight, and
a shift by a second or more counts from the second of the timestamp, so that it leads beyond the
calendar just when this does (`IsWholeSecond.shift?_eq_none_iff`).
-/

namespace Fairweather

namespace Timestamp

/-! ## The order -/

/-- Timestamps are ordered by day, second and nanoseconds. -/
instance : LinearOrder Timestamp :=
  LinearOrder.lift' (fun t => toLex (t.day, toLex (t.second, t.nanosecond))) fun a b h => by
    obtain ⟨_, _, _, _, _, _⟩ := a
    obtain ⟨_, _, _, _, _, _⟩ := b
    simpa using h

variable {a b t : Timestamp}

theorem lt_iff : a < b ↔ a.day < b.day ∨ a.day = b.day ∧
    (a.second < b.second ∨ a.second = b.second ∧ a.nanosecond < b.nanosecond) := by
  change toLex (a.day, toLex (a.second, a.nanosecond)) <
    toLex (b.day, toLex (b.second, b.nanosecond)) ↔ _
  simp [Prod.Lex.toLex_lt_toLex]

theorem le_iff : a ≤ b ↔ a.day < b.day ∨ a.day = b.day ∧
    (a.second < b.second ∨ a.second = b.second ∧ a.nanosecond ≤ b.nanosecond) := by
  rw [← not_lt, lt_iff]
  omega

theorem isLeap_iff : t.isLeap = true ↔ 1000000000 ≤ t.nanosecond := by simp [isLeap]

theorem not_isLeap_iff : t.isLeap = false ↔ t.nanosecond < 1000000000 := by simp [isLeap]

/-! ## Instants -/

theorem lt_iff_instant_lt (ha : a.isLeap = false) (hb : b.isLeap = false) :
    a < b ↔ a.instant < b.instant := by
  rw [not_isLeap_iff] at ha hb
  have := a.second_lt
  have := b.second_lt
  rw [lt_iff]
  unfold instant
  omega

theorem since_eq (ha : a.isLeap = false) (hb : b.isLeap = false) :
    b.since a = b.instant - a.instant := by
  simp [since, ha, hb]

/-- The timestamp at an instant is the one that has it and is in no leap second. -/
theorem ofInstant?_eq_some_iff {n : Int} :
    ofInstant? n = some t ↔ t.isLeap = false ∧ t.instant = n := by
  have hday := t.day_mem
  have hsecond := t.second_lt
  rw [not_isLeap_iff]
  unfold ofInstant? instant
  dsimp only
  split_ifs with h
  · rw [Option.some.injEq]
    obtain ⟨day, second, nanosecond, _, _, _⟩ := t
    rw [Timestamp.mk.injEq]
    dsimp only at *
    omega
  · constructor
    · exact nofun
    · intro heq
      obtain ⟨hleap, rfl⟩ := heq
      exact absurd (by omega) h

theorem shift?_of_not_isLeap (h : t.isLeap = false) (d : Int) :
    t.shift? d = ofInstant? (t.instant + d) := by
  simp [shift?, h]

/-- **A shift adds to the instant** of a timestamp that is in no leap second, and does not lead into
one. -/
theorem shift?_eq_some_iff {u : Timestamp} {d : Int} (h : t.isLeap = false) :
    t.shift? d = some u ↔ u.isLeap = false ∧ u.instant = t.instant + d := by
  rw [shift?_of_not_isLeap h, ofInstant?_eq_some_iff]

@[simp] theorem shift?_zero (t : Timestamp) : t.shift? 0 = some t := by
  cases h : t.isLeap with
  | false => exact (shift?_eq_some_iff h).2 ⟨h, by omega⟩
  | true =>
    have := t.nanosecond_lt
    simp [shift?, h, withNanosecond]

/-- **A shift by a difference leads back**, where no leap second is involved. -/
theorem shift?_since (ha : a.isLeap = false) (hb : b.isLeap = false) :
    a.shift? (b.since a) = some b := by
  rw [shift?_eq_some_iff ha, since_eq ha hb]
  exact ⟨hb, by omega⟩

/-! ## Leap seconds -/

/-- One timestamp lies in the first second of a day, and the other further into the leap second that
ends the day before. The first second may itself be prolonged by a leap second. -/
def OverlapAtMidnight (a b : Timestamp) : Prop :=
  a.day = b.day + 1 ∧ a.second = 0 ∧ b.second = 86399 ∧ a.nanosecond < b.nanosecond ∧
    (a.isLeap = false → a.nanosecond + 1000000000 < b.nanosecond)

theorem OverlapAtMidnight.lt_nanosecond (h : OverlapAtMidnight a b) :
    1000000000 < b.nanosecond := by
  obtain ⟨-, -, -, hlt, hplain⟩ := h
  rw [not_isLeap_iff] at hplain
  omega

/-- **What is later by a difference is later**, or overlaps at midnight. -/
theorem lt_or_overlap_of_since_pos (h : 0 < b.since a) : a < b ∨ OverlapAtMidnight a b := by
  have := a.second_lt
  have := b.second_lt
  have := a.nanosecond_lt
  have := b.nanosecond_lt
  rw [lt_iff]
  unfold since instant at h
  unfold OverlapAtMidnight
  simp only [isLeap_iff, not_isLeap_iff] at h ⊢
  split_ifs at h <;> omega

theorem lt_of_since_pos (hb : b.isLeap = false) (h : 0 < b.since a) : a < b := by
  refine (lt_or_overlap_of_since_pos h).resolve_right fun hoverlap => ?_
  have := hoverlap.lt_nanosecond
  rw [not_isLeap_iff] at hb
  omega

/-- Where differences see a timestamp: by day, second and nanoseconds, but with the leap second that
ends a day laid over the first second of the next. -/
def standing (t : Timestamp) : Int :=
  if t.second = 86399 ∧ t.isLeap then (t.day + 1) * 86400 * 2000000000 + (t.nanosecond - 1000000000)
  else (t.day * 86400 + t.second) * 2000000000 + t.nanosecond

/-- **A difference is positive** just between timestamps that stand in order, if neither is in a
leap second that prolongs the first second of a day. -/
theorem since_pos_iff (ha : a.second = 0 → a.isLeap = false)
    (hb : b.second = 0 → b.isLeap = false) : 0 < b.since a ↔ a.standing < b.standing := by
  have := a.second_lt
  have := b.second_lt
  have := a.nanosecond_lt
  have := b.nanosecond_lt
  unfold since standing instant
  simp only [isLeap_iff, not_isLeap_iff] at *
  split_ifs <;> omega

theorem lt_or_overlap_of_standing_lt (h : a.standing < b.standing) :
    a < b ∨ OverlapAtMidnight a b := by
  have := a.second_lt
  have := b.second_lt
  have := a.nanosecond_lt
  have := b.nanosecond_lt
  rw [lt_iff]
  unfold standing at h
  unfold OverlapAtMidnight
  simp only [isLeap_iff, not_isLeap_iff] at h ⊢
  split_ifs at h <;> omega

/-- **A forward shift from within a leap second** stays in it as long as it lasts, and counts from
the second before it otherwise. -/
theorem shift?_eq_some_of_isLeap {u : Timestamp} {d : Int} (ht : t.isLeap = true) (hd : 0 < d)
    (h : t.shift? d = some u) :
    (t.nanosecond + d < 2000000000 ∧ u.day = t.day ∧ u.second = t.second ∧
      u.nanosecond = t.nanosecond + d) ∨
    (2000000000 ≤ t.nanosecond + d ∧ u.isLeap = false ∧
      u.instant = t.instant - 1000000000 + d) := by
  have hquot := Int.tdiv_eq_ediv_of_nonneg hd.le (b := 1000000000)
  have hrem := Int.tmod_eq_emod_of_nonneg hd.le (b := 1000000000)
  have hleap := isLeap_iff.1 ht
  simp only [shift?, if_pos ht, hquot, hrem] at h
  split at h
  · next hbeyond =>
    obtain ⟨hu, hinstant⟩ := ofInstant?_eq_some_iff.1 h
    exact .inr ⟨by omega, hu, hinstant⟩
  · next hwithin =>
    rw [if_neg (by omega), Option.some.injEq] at h
    subst h
    refine .inl ⟨by omega, rfl, rfl, ?_⟩
    dsimp only [withNanosecond]
    omega

theorem since_le (a b : Timestamp) : b.since a ≤ b.instant - a.instant + 1000000000 := by
  unfold since
  dsimp only
  split_ifs <;> omega

/-- A shift by a difference does not go beyond a timestamp that is in no leap second. -/
theorem shift?_since_le {u : Timestamp} (hb : b.isLeap = false) (hpos : 0 < b.since a)
    (h : a.shift? (b.since a) = some u) : u ≤ b := by
  cases ha : a.isLeap with
  | false =>
    rw [shift?_since ha hb, Option.some.injEq] at h
    exact h.ge
  | true =>
    have hlt := lt_of_since_pos hb hpos
    rcases shift?_eq_some_of_isLeap ha hpos h with ⟨hwithin, hday, hsecond, hnanosecond⟩ |
      ⟨hbeyond, hu, hinstant⟩
    · -- a later timestamp that is in no leap second lies behind this one
      rw [isLeap_iff] at ha
      rw [not_isLeap_iff] at hb
      rw [lt_iff] at hlt
      rw [le_iff]
      omega
    · -- the shift lands on the timestamp itself or, over midnight, a second before it
      have hle : u.instant ≤ b.instant := by
        have := since_le a b
        omega
      exact not_lt.1 fun hgt => absurd ((lt_iff_instant_lt hb hu).1 hgt) (not_lt.2 hle)

/-! ## Whole seconds -/

/-- The timestamp is the beginning of a second, which may be a leap second. -/
def IsWholeSecond (t : Timestamp) : Prop := t.nanosecond = 0 ∨ t.nanosecond = 1000000000

/-- **Two whole seconds do not overlap at midnight**: a leap second begins no later than the second
behind it. -/
theorem IsWholeSecond.not_overlapAtMidnight (hb : b.IsWholeSecond) : ¬ OverlapAtMidnight a b := by
  intro h
  have := h.lt_nanosecond
  rcases hb with hb | hb <;> omega

theorem IsWholeSecond.le_since (ha : a.IsWholeSecond) (hb : b.IsWholeSecond)
    (h : 0 < b.since a) : 1000000000 ≤ b.since a := by
  unfold since instant at *
  dsimp only at *
  rcases ha with ha | ha <;> rcases hb with hb | hb <;> split_ifs at * <;> omega

/-! ## The end of the calendar -/

/-- The beginning of the second of a timestamp. A leap second belongs to the second before it. -/
def secondStart (t : Timestamp) : Int := (t.day * 86400 + t.second) * 1000000000

/-- Midnight after the last day of the calendar. -/
def calendarEnd : Int := (Calendar.lastDay + 1) * 86400 * 1000000000

theorem secondStart_le (h : a ≤ b) : a.secondStart ≤ b.secondStart := by
  have := a.second_lt
  have := b.second_lt
  rw [le_iff] at h
  unfold secondStart
  omega

theorem ofInstant?_eq_none_iff {n : Int} (h : t.secondStart ≤ n) :
    ofInstant? n = none ↔ calendarEnd ≤ n := by
  have hday := t.day_mem
  have hsecond := t.second_lt
  unfold secondStart at h
  unfold ofInstant? calendarEnd
  dsimp only
  split_ifs with hmem
  · simp only [false_iff]
    omega
  · simp only [true_iff]
    omega

/-- **A shift of a whole second leads beyond the calendar** when its second does. A shift by a
second or more leaves a leap second, so it counts from the second before. -/
theorem IsWholeSecond.shift?_eq_none_iff {d : Int} (ht : t.IsWholeSecond) (hd : 1000000000 ≤ d) :
    t.shift? d = none ↔ calendarEnd ≤ t.secondStart + d := by
  have hshift : t.shift? d = ofInstant? (t.secondStart + d) := by
    unfold shift? instant secondStart
    have hquot := Int.tdiv_eq_ediv_of_nonneg (a := d) (by omega) (b := 1000000000)
    rcases ht with ht | ht
    · simp [isLeap, ht]
    · have hbeyond : 0 < d / 1000000000 := by omega
      simp only [isLeap, ht, hquot]
      simp [hbeyond]
  rw [hshift, ofInstant?_eq_none_iff (t := t) (by omega)]

end Timestamp

end Fairweather
