import Fairweather.Proofs.Calendar.Reading
import Fairweather.Proofs.Plan.Chronology

/-!
# Windows are the blocks of selected positions

Where no timestamp is in a leap second, the observations of a dataset are instants in arithmetic
progression, and one ends where another begins just when it is the observation before it. So the
windows of a selection, which are made by comparing timestamps, are the blocks of consecutive
positions that are selected.

**Blocks.** A list of blocks, each with its first and its last position, belongs to an ascending
list of positions when the blocks lie apart and hold the same positions (`AreBlocks`). Such blocks
are the maximal ones (`AreBlocks.mem_iff_isBlock`). One more position at the front makes the first
block longer or is a block of its own (`AreBlocks.extend`), and the windows do the same
(`forall₂_spans_extend`). Between two blocks the position behind the first is not selected, and
there begins the observation that parts their windows (`exists_between_of_spans`).

Main result: `Planner.windows?_blocks`.
-/

namespace Fairweather

/-! ## Blocks of positions -/

/-- A block of positions that could not be longer. -/
structure IsBlock (positions : List Nat) (i j : Nat) : Prop where
  le : i ≤ j
  mem : ∀ k, i ≤ k → k ≤ j → k ∈ positions
  before : ∀ k, k + 1 = i → k ∉ positions
  after : j + 1 ∉ positions

theorem IsBlock.eq_of_mem {positions : List Nat} {i j i' j' : Nat} (h : IsBlock positions i j)
    (h' : IsBlock positions i' j') (hi : i' ≤ i) (hj : i ≤ j') : i = i' ∧ j = j' := by
  have hle := h.le
  constructor
  · by_contra hne
    exact h.before (i - 1) (by omega) (h'.mem (i - 1) (by omega) (by omega))
  · rcases Nat.lt_trichotomy j j' with hlt | heq | hgt
    · exact absurd (h'.mem (j + 1) (by omega) (by omega)) h.after
    · exact heq
    · exact absurd (h.mem (j' + 1) (by omega) (by omega)) h'.after

/-- Blocks that lie apart and hold the positions of a list. -/
structure AreBlocks (positions : List Nat) (blocks : List (Nat × Nat)) : Prop where
  le : ∀ b ∈ blocks, b.1 ≤ b.2
  apart : blocks.Pairwise fun b c => b.2 + 1 < c.1
  mem_iff : ∀ k, k ∈ positions ↔ ∃ b ∈ blocks, b.1 ≤ k ∧ k ≤ b.2

/-- One more position, before all blocks. -/
def extendBlocks (k : Nat) : List (Nat × Nat) → List (Nat × Nat)
  | [] => [(k, k)]
  | (i, j) :: more => if i = k + 1 then (k, j) :: more else (k, k) :: (i, j) :: more

namespace AreBlocks

variable {positions : List Nat} {blocks : List (Nat × Nat)}

theorem nil : AreBlocks [] [] := ⟨by simp, by simp, by simp⟩

theorem cons (h : AreBlocks positions blocks) {i j : Nat} {positions' : List Nat} (hij : i ≤ j)
    (hapart : ∀ c ∈ blocks, j + 1 < c.1)
    (hmem : ∀ k, k ∈ positions' ↔ i ≤ k ∧ k ≤ j ∨ k ∈ positions) :
    AreBlocks positions' ((i, j) :: blocks) where
  le := List.forall_mem_cons.2 ⟨hij, h.le⟩
  apart := List.pairwise_cons.2 ⟨hapart, h.apart⟩
  mem_iff k := by rw [hmem, h.mem_iff, List.exists_mem_cons_iff]

/-- **One more position**, before all others. -/
theorem extend (h : AreBlocks positions blocks) {k : Nat} (hk : ∀ p ∈ positions, k < p) :
    AreBlocks (k :: positions) (extendBlocks k blocks) := by
  have hlt : ∀ b ∈ blocks, k < b.1 := by
    intro b hb
    exact hk b.1 ((h.mem_iff b.1).2 ⟨b, hb, le_rfl, h.le b hb⟩)
  have heq : ∀ p, p = k ↔ k ≤ p ∧ p ≤ k := by omega
  cases blocks with
  | nil =>
    refine h.cons le_rfl (by simp) fun p => ?_
    rw [List.mem_cons, heq]
  | cons b more =>
    obtain ⟨i, j⟩ := b
    have hij : i ≤ j := h.le _ List.mem_cons_self
    have hki : k < i := hlt _ List.mem_cons_self
    obtain ⟨hj, hmore⟩ := List.pairwise_cons.1 h.apart
    rw [extendBlocks]
    split_ifs with hnext
    · -- the first block becomes longer by `k`
      have hblock : ∀ p, p = k ∨ i ≤ p ∧ p ≤ j ↔ k ≤ p ∧ p ≤ j := by omega
      refine ⟨?_, List.pairwise_cons.2 ⟨hj, hmore⟩, fun p => ?_⟩
      · exact List.forall_mem_cons.2 ⟨by omega, (List.forall_mem_cons.1 h.le).2⟩
      · rw [List.mem_cons, h.mem_iff, List.exists_mem_cons_iff, List.exists_mem_cons_iff,
          ← or_assoc, hblock]
    · refine h.cons le_rfl (List.forall_mem_cons.2 ⟨by omega, fun c hc => ?_⟩) fun p => ?_
      · have := hj c hc
        omega
      · rw [List.mem_cons, heq]

theorem isBlock (h : AreBlocks positions blocks) {b : Nat × Nat} (hb : b ∈ blocks) :
    IsBlock positions b.1 b.2 := by
  have hle := h.le b hb
  -- a position outside the block is in another one, and those lie apart
  have hother : ∀ k, k ∈ positions → k < b.1 ∨ b.2 < k → k + 1 < b.1 ∨ b.2 + 1 < k := by
    intro k hk hout
    obtain ⟨c, hc, hck, hkc⟩ := (h.mem_iff k).1 hk
    rcases eq_or_rel_or_rel h.apart hb hc with rfl | hbc | hcb <;> omega
  constructor
  case le => exact hle
  case mem => exact fun k hik hkj => (h.mem_iff k).2 ⟨b, hb, hik, hkj⟩
  case before =>
    intro k hk hmem
    have := hother k hmem
    omega
  case after =>
    intro hmem
    have := hother (b.2 + 1) hmem
    omega

/-- **The blocks are all blocks that could not be longer.** -/
theorem mem_iff_isBlock (h : AreBlocks positions blocks) {i j : Nat} :
    (i, j) ∈ blocks ↔ IsBlock positions i j := by
  refine ⟨h.isBlock, fun hij => ?_⟩
  obtain ⟨b, hb, hbi, hib⟩ := (h.mem_iff i).1 (hij.mem i le_rfl hij.le)
  obtain ⟨rfl, rfl⟩ := hij.eq_of_mem (h.isBlock hb) hbi hib
  exact hb

end AreBlocks

/-! ## The windows of blocks -/

/-- A window spans a block: it holds exactly the observations of the block, begins with the first
and ends one interval after the last. -/
structure Window.Spans (records : List Observation) (step : Int) (b : Nat × Nat) (w : Window) :
    Prop where
  records_eq : w.records = (records.drop b.1).take (b.2 + 1 - b.1)
  start_eq : ∃ o, records[b.1]? = some o ∧ w.start = o.timestamp
  stop_eq : ∃ o, records[b.2]? = some o ∧ o.timestamp.shift? step = some w.stop

section

variable {dataset : Dataset} {step : Int}

theorem shift?_eq_some_iff_next (h : dataset.interval? = some step)
    (hplain : ∀ o ∈ dataset.records, o.timestamp.isLeap = false) {k i : Nat} (hk : k < i)
    {a b : Observation} (ha : dataset.records[k]? = some a) (hb : dataset.records[i]? = some b) :
    a.timestamp.shift? step = some b.timestamp ↔ i = k + 1 := by
  obtain ⟨n, rfl⟩ := Nat.exists_eq_add_of_lt hk
  rw [Nat.add_assoc] at hb
  have hpos := Dataset.interval?_pos h
  rw [Timestamp.shift?_eq_some_iff (hplain a (List.mem_of_getElem? ha)),
    Dataset.instant_getElem? h hplain ha hb]
  constructor
  · -- the instants are `n + 1` intervals apart, and one of these is all there is
    intro hex
    have hn : (n : Int) * step = 0 := by
      have heq := hex.2
      rw [Int.natCast_succ, Int.add_mul] at heq
      omega
    rcases Int.mul_eq_zero.1 hn with hn | hstep <;> omega
  · intro hn
    obtain rfl : n = 0 := by omega
    exact ⟨hplain b (List.mem_of_getElem? hb), by simp⟩

theorem forall₂_spans_extend (h : dataset.interval? = some step)
    (hplain : ∀ o ∈ dataset.records, o.timestamp.isLeap = false) {k : Nat} {o : Observation}
    {stop : Timestamp} {blocks : List (Nat × Nat)} {ws : List Window}
    (hk : ∀ b ∈ blocks, k < b.1 ∧ b.1 ≤ b.2) (ho : dataset.records[k]? = some o)
    (hstop : o.timestamp.shift? step = some stop)
    (hspans : List.Forall₂ (Window.Spans dataset.records step) blocks ws) :
    List.Forall₂ (Window.Spans dataset.records step) (extendBlocks k blocks)
      (Window.extend (some step) o stop ws) := by
  obtain ⟨hlt, hrest⟩ : ∃ hlt : k < dataset.records.length, dataset.records.drop k =
      o :: dataset.records.drop (k + 1) := by
    obtain ⟨hlt, rfl⟩ := List.getElem?_eq_some_iff.1 ho
    exact ⟨hlt, List.drop_eq_getElem_cons hlt⟩
  have hsingle : Window.Spans dataset.records step (k, k) ⟨o.timestamp, stop, [o]⟩ :=
    ⟨by simp [hrest], ⟨o, ho, rfl⟩, ⟨o, ho, hstop⟩⟩
  cases hspans with
  | nil => exact .cons hsingle .nil
  | @cons b next more later hnext hlater =>
    obtain ⟨i, j⟩ := b
    obtain ⟨hki, hij⟩ := hk (i, j) List.mem_cons_self
    dsimp only at hki hij
    obtain ⟨p, hp, hstart⟩ := hnext.start_eq
    -- the fold and the blocks decide alike whether the first one becomes longer
    have hjoin : stop = next.start ↔ i = k + 1 := by
      rw [hstart, ← shift?_eq_some_iff_next h hplain hki ho hp, hstop, Option.some.injEq]
    rw [Window.extend, extendBlocks]
    by_cases hi : i = k + 1
    · rw [if_pos hi, if_pos ⟨rfl, hjoin.2 hi⟩]
      refine .cons ⟨?_, ⟨o, ho, rfl⟩, hnext.stop_eq⟩ hlater
      subst hi
      rw [hnext.records_eq, hrest]
      dsimp only
      rw [show j + 1 - k = j + 1 - (k + 1) + 1 by omega, List.take_succ_cons]
    · rw [if_neg hi, if_neg fun hand => hi (hjoin.1 hand.2)]
      exact .cons hsingle (.cons hnext hlater)

/-- **The windows of ascending positions span their blocks.** -/
theorem exists_blocks (h : dataset.interval? = some step)
    (hplain : ∀ o ∈ dataset.records, o.timestamp.isLeap = false) {positions : List Nat}
    (hascending : positions.Pairwise (· < ·)) (hlt : ∀ k ∈ positions, k < dataset.records.length)
    {ws : List Window}
    (hwindows : windows? (some step) (positions.filterMap (dataset.records[·]?)) = some ws) :
    ∃ blocks, AreBlocks positions blocks ∧
      List.Forall₂ (Window.Spans dataset.records step) blocks ws := by
  induction positions generalizing ws with
  | nil =>
    cases hwindows
    exact ⟨[], .nil, .nil⟩
  | cons k positions ih =>
    obtain ⟨hk, hascending⟩ := List.pairwise_cons.1 hascending
    obtain ⟨hklt, hlt⟩ := List.forall_mem_cons.1 hlt
    have ho := List.getElem?_eq_getElem hklt
    rw [List.filterMap_cons_some ho, windows?_cons] at hwindows
    obtain ⟨stop, later, hstop, hlater, rfl⟩ := hwindows
    obtain ⟨blocks, hblocks, hspans⟩ := ih hascending hlt hlater
    refine ⟨_, hblocks.extend hk, forall₂_spans_extend h hplain (fun b hb => ?_) ho hstop hspans⟩
    have hle := hblocks.le b hb
    exact ⟨hk b.1 ((hblocks.mem_iff b.1).2 ⟨b, hb, le_rfl, hle⟩), hle⟩

/-- A window lasts one interval for each observation of its block. -/
theorem Window.Spans.shift?_start (h : dataset.interval? = some step)
    (hplain : ∀ o ∈ dataset.records, o.timestamp.isLeap = false) {b : Nat × Nat} {w : Window}
    (hspans : w.Spans dataset.records step b) (hle : b.1 ≤ b.2) :
    w.start.shift? (((b.2 + 1 - b.1 : Nat) : Int) * step) = some w.stop := by
  obtain ⟨i, j⟩ := b
  obtain ⟨n, rfl⟩ : ∃ n, j = i + n := Nat.exists_eq_add_of_le hle
  obtain ⟨p, hp, hstart⟩ := hspans.start_eq
  obtain ⟨q, hq, hstop⟩ := hspans.stop_eq
  rw [Timestamp.shift?_eq_some_iff (hplain q (List.mem_of_getElem? hq)),
    Dataset.instant_getElem? h hplain hp hq] at hstop
  have hlength : i + n + 1 - i = n + 1 := by omega
  rw [hstart, Timestamp.shift?_eq_some_iff (hplain p (List.mem_of_getElem? hp)), hlength,
    Int.natCast_succ, Int.add_mul]
  exact ⟨hstop.1, by omega⟩

/-- **Between two windows an observation is left out**: the one that begins where the first window
ends. -/
theorem exists_between_of_spans (h : dataset.interval? = some step)
    (hplain : ∀ o ∈ dataset.records, o.timestamp.isLeap = false) {positions : List Nat}
    {b c : Nat × Nat} (hb : IsBlock positions b.1 b.2) (hbc : b.2 + 1 < c.1) {v w : Window}
    (hv : v.Spans dataset.records step b) (hw : w.Spans dataset.records step c) :
    v.stop < w.start ∧ ∃ o ∈ dataset.records, o ∉ positions.filterMap (dataset.records[·]?) ∧
      v.stop ≤ o.timestamp ∧ o.timestamp < w.start := by
  have hascending : dataset.records.Pairwise fun a b => a.timestamp < b.timestamp :=
    (Dataset.pairwise_shift?_le h fun o ho => hplain o (List.mem_of_mem_tail ho)).imp And.left
  obtain ⟨q, hq, hstop⟩ := hv.stop_eq
  obtain ⟨p, hp, hstart⟩ := hw.start_eq
  have hlt : c.1 < dataset.records.length := (List.getElem?_eq_some_iff.1 hp).1
  have hnext := List.getElem?_eq_getElem (l := dataset.records) (i := b.2 + 1) (by omega)
  have hbegins := (shift?_eq_some_iff_next h hplain (Nat.lt_succ_self b.2) hq hnext).2 rfl
  rw [hstop, Option.some.injEq] at hbegins
  have hbefore := (timestamp_lt_iff hascending hnext hp).2 hbc
  rw [← hstart] at hbefore
  refine ⟨hbegins ▸ hbefore, _, List.mem_of_getElem? hnext, fun hmem => ?_, hbegins.le, hbefore⟩
  obtain ⟨k, hk, hkeq⟩ := List.mem_filterMap.1 hmem
  -- an observation is at one position only, as timestamps ascend
  have hposition : k = b.2 + 1 := by
    have hbelow := timestamp_lt_iff hascending hkeq hnext
    have habove := timestamp_lt_iff hascending hnext hkeq
    rw [lt_self_iff_false, false_iff] at hbelow habove
    omega
  exact hb.after (hposition ▸ hk)

end

/-! ## The windows of a plan -/

theorem pairwise_of_forall₂ {α β : Type} {R : α → β → Prop} {S : α → α → Prop}
    {T : β → β → Prop} {l : List α} {l' : List β} (h : List.Forall₂ R l l') (hl : l.Pairwise S)
    (hT : ∀ a b a' b', R a a' → R b b' → S a b → T a' b') : l'.Pairwise T := by
  obtain ⟨hlength, hget⟩ := List.forall₂_iff_get.1 h
  rw [List.pairwise_iff_getElem] at hl ⊢
  intro i j hi hj hij
  have hi' : i < l.length := hlength ▸ hi
  have hj' : j < l.length := hlength ▸ hj
  exact hT _ _ _ _ (hget i hi' hi) (hget j hj' hj) (hl i j hi' hj' hij)

theorem windows?_none (records : List Observation) :
    windows? none records = some (records.map fun o => ⟨o.timestamp, o.timestamp, [o]⟩) := by
  induction records with
  | nil => rfl
  | cons o records ih =>
    rw [windows?_cons]
    refine ⟨o.timestamp, _, rfl, ih, ?_⟩
    cases records <;> rfl

theorem Planner.exists_positions {planner : Planner} {expressions : List String}
    {dataset : Dataset} {selection : List Observation}
    (h : planner.evaluate expressions dataset = .ok selection) :
    ∃ positions : List Nat, positions.Pairwise (· < ·) ∧ (∀ k ∈ positions, k < dataset.size) ∧
      selection = positions.filterMap (dataset.records[·]?) := by
  obtain ⟨conditions, -, rfl⟩ := Plan.evaluate_ok h
  refine ⟨_, pairwise_filter_range _ _, fun k hk => ?_, (filterMap_filter_passesAt _ _).symm⟩
  exact List.mem_range.1 (List.mem_filter.1 hk).1

/-- The windows of some positions in a dataset, one for each block of the positions. -/
structure AreBlockWindows (dataset : Dataset) (step : Int) (positions : List Nat)
    (windows : List Window) : Prop where
  spans : ∃ blocks : List (Nat × Nat), (∀ i j, (i, j) ∈ blocks ↔ IsBlock positions i j) ∧
    blocks.Pairwise (fun b c => b.2 + 1 < c.1) ∧
    List.Forall₂ (fun b w => w.Spans dataset.records step b ∧
      w.start.shift? (((b.2 + 1 - b.1 : Nat) : Int) * step) = some w.stop) blocks windows
  parted : windows.Pairwise fun v w => v.stop < w.start ∧
    ∃ o ∈ dataset.records, o ∉ positions.filterMap (dataset.records[·]?) ∧
      v.stop ≤ o.timestamp ∧ o.timestamp < w.start

/-- **The windows of ascending positions** are those of their blocks. -/
theorem areBlockWindows_of_windows? {dataset : Dataset} {step : Int}
    (h : dataset.interval? = some step)
    (hplain : ∀ o ∈ dataset.records, o.timestamp.isLeap = false) {positions : List Nat}
    (hascending : positions.Pairwise (· < ·)) (hlt : ∀ k ∈ positions, k < dataset.records.length)
    {ws : List Window}
    (hwindows : windows? (some step) (positions.filterMap (dataset.records[·]?)) = some ws) :
    AreBlockWindows dataset step positions ws := by
  obtain ⟨blocks, hblocks, hspans⟩ := exists_blocks h hplain hascending hlt hwindows
  constructor
  · refine ⟨blocks, fun i j => hblocks.mem_iff_isBlock, hblocks.apart, ?_⟩
    have hboth := (List.forall₂_and_left _ _).2 ⟨hblocks.le, hspans⟩
    exact hboth.imp fun b w hw => ⟨hw.2, hw.2.shift?_start h hplain hw.1⟩
  · have hboth := (List.forall₂_and_left _ _).2 ⟨fun b => hblocks.isBlock, hspans⟩
    refine pairwise_of_forall₂ hboth hblocks.apart fun b c v w hv hw hbc => ?_
    exact exists_between_of_spans h hplain hv.1 hbc hv.2 hw.2

/-- **The windows of a plan are the blocks of selected positions**, in a dataset of two observations
or more none of which is in a leap second, unless the interval of a selected one ends beyond the
calendar. With fewer observations every selected one is a window that lasts no time. Times that are
given without seconds are in no leap second. -/
theorem Planner.windows?_blocks {planner : Planner} {expressions : List String}
    {dataset : Dataset} {selection : List Observation}
    (h : planner.evaluate expressions dataset = .ok selection) :
    (dataset.size < 2 → planner.windows? expressions dataset =
      .ok (some (selection.map fun o => ⟨o.timestamp, o.timestamp, [o]⟩))) ∧
    (2 ≤ dataset.size → (∀ o ∈ dataset.records, o.timestamp.isLeap = false) →
      ∃ step, dataset.interval? = some step ∧
        ((∀ o ∈ selection, o.timestamp.shift? step ≠ none) →
          ∃ positions ws, positions.Pairwise (· < ·) ∧ (∀ k ∈ positions, k < dataset.size) ∧
            selection = positions.filterMap (dataset.records[·]?) ∧
            planner.windows? expressions dataset = .ok (some ws) ∧
            AreBlockWindows dataset step positions ws)) ∧
    ∀ format ∈ Calendar.forecastFormats, .second ∉ format → ∀ text t,
      Calendar.readTimestamp format text = .ok t → t.isLeap = false := by
  refine ⟨fun hfew => ?_, fun htwo hplain => ?_, fun format hformat hsecond text t => ?_⟩
  · refine windows?_eq_ok_iff.2 ⟨selection, h, ?_⟩
    have hinterval : dataset.interval? = none := by
      rw [Option.eq_none_iff_forall_ne_some]
      intro step hstep
      have := Dataset.exists_interval?_iff.1 ⟨step, hstep⟩
      omega
    rw [hinterval, windows?_none]
  · obtain ⟨step, hstep⟩ := Dataset.exists_interval?_iff.2 htwo
    refine ⟨step, hstep, fun hends => ?_⟩
    obtain ⟨positions, hascending, hlt, rfl⟩ := exists_positions h
    obtain ⟨ws, hws⟩ : ∃ ws, Fairweather.windows? (some step)
        (positions.filterMap (dataset.records[·]?)) = some ws := by
      refine Option.ne_none_iff_exists'.1 fun hnone => ?_
      obtain ⟨o, ho, hshift⟩ := windows?_eq_none_iff.1 hnone
      exact hends o ho hshift
    exact ⟨positions, ws, hascending, hlt, rfl, windows?_eq_ok_iff.2 ⟨_, h, hstep ▸ hws⟩,
      areBlockWindows_of_windows? hstep hplain hascending hlt hws⟩
  · refine Calendar.not_isLeap_of_readTimestamp hsecond ?_
    revert format
    decide

theorem Planner.windows?_blocks_overNewYear :
    (Planner.default.evaluate ["wind > 5"] overNewYear =
        .ok [windAt (yearEnd 0) 9, windAt (newYear 0) 9, windAt (newYear 2) 9]) ∧
      2 ≤ overNewYear.size ∧ (∀ o ∈ overNewYear.records, o.timestamp.isLeap = false) ∧
      ∃ step positions ws, overNewYear.interval? = some step ∧
        Planner.default.windows? ["wind > 5"] overNewYear = .ok (some ws) ∧
        AreBlockWindows overNewYear step positions ws := by
  have hevaluate : Planner.default.evaluate ["wind > 5"] overNewYear =
      .ok [windAt (yearEnd 0) 9, windAt (newYear 0) 9, windAt (newYear 2) 9] := by
    decide +kernel
  have htwo : 2 ≤ overNewYear.size := by decide
  have hplain : ∀ o ∈ overNewYear.records, o.timestamp.isLeap = false := by decide
  obtain ⟨step, hstep, hwindows⟩ := (windows?_blocks hevaluate).2.1 htwo hplain
  have hends : ∀ o ∈ [windAt (yearEnd 0) 9, windAt (newYear 0) 9, windAt (newYear 2) 9],
      o.timestamp.shift? step ≠ none := by
    obtain rfl : step = 1000000000 := Option.some.inj (hstep.symm.trans (by decide))
    decide
  obtain ⟨positions, ws, -, -, -, hws, hblocks⟩ := hwindows hends
  exact ⟨hevaluate, htwo, hplain, step, positions, ws, hstep, hws, hblocks⟩

end Fairweather
