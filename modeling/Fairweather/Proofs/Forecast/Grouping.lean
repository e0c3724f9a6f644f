import Mathlib.Data.List.Chain
import Fairweather.Forecast.Window
import Fairweather.Proofs.Calendar.Order

/-!
# Windows partition a selection

The windows of a selection are built by one right fold, which decides for every observation whether
it joins the window that the next one begins. This module says what the windows are without the
fold.

**A run** is a window on its own: its bounds are those of its first and its last observation, and
within it every observation ends where the next one begins (`Window.IsRun`). **A grouping** is a
list of runs that gives the selection back when their observations are put together, and in which
no run could be continued by the next (`IsGrouping`).

**The step.** What the fold does with one more observation at the front makes a grouping of a
grouping (`IsGrouping.extend`), and each grouping of a longer selection comes about in this way
(`IsGrouping.exists_extend`). So a selection has at most one grouping, and the windows are it.

**Time.** Where an interval never leads past an observation to come, a run holds each observation
that lies between its bounds (`Window.IsRun.mem_of_between`), and the runs of a grouping follow each
other in time (`IsGrouping.pairwise_stop_le`).

Main result: `windows?_eq_none_iff_and_eq_some_iff`.
-/

namespace Fairweather

/-- When the interval of an observation ends. Without an interval it lasts no time. -/
def EndsAt (interval : Option Int) (o : Observation) (t : Timestamp) : Prop :=
  match interval with
  | some step => o.timestamp.shift? step = some t
  | none => t = o.timestamp

theorem endsAt_iff {interval : Option Int} {o : Observation} {t : Timestamp} :
    EndsAt interval o t ↔ o.timestamp.shift? (interval.getD 0) = some t := by
  cases interval with
  | some step => rfl
  | none => simp [EndsAt, eq_comm]

/-- A window that is a run of observations, each of which ends where the next begins. Without an
interval it is a single one. -/
structure Window.IsRun (interval : Option Int) (w : Window) : Prop where
  ne_nil : w.records ≠ []
  start_eq : ∀ o ∈ w.records.head?, w.start = o.timestamp
  stop_eq : ∀ o ∈ w.records.getLast?, EndsAt interval o w.stop
  joined : ∀ step, interval = some step →
    w.records.IsChain fun a b => a.timestamp.shift? step = some b.timestamp
  single : interval = none → w.records.length = 1

/-- Windows are a grouping of observations: runs that give the observations back in order, each of
them as long as can be. -/
structure IsGrouping (interval : Option Int) (records : List Observation) (windows : List Window) :
    Prop where
  run : ∀ w ∈ windows, w.IsRun interval
  flatten : (windows.map Window.records).flatten = records
  parted : ∀ step, interval = some step →
    windows.IsChain fun v w => ∀ o ∈ w.records.head?, o.timestamp ≠ v.stop

namespace Window.IsRun

variable {interval : Option Int} {step : Int} {o : Observation} {w : Window}

theorem singleton {stop : Timestamp} (h : EndsAt interval o stop) :
    IsRun interval ⟨o.timestamp, stop, [o]⟩ where
  ne_nil := nofun
  start_eq := by simp
  stop_eq := by simpa using h
  joined := by simp
  single := by simp

theorem cons (hrun : w.IsRun (some step)) (h : o.timestamp.shift? step = some w.start) :
    IsRun (some step) ⟨o.timestamp, w.stop, o :: w.records⟩ where
  ne_nil := nofun
  start_eq := by simp
  stop_eq := by
    rw [List.getLast?_cons_of_ne_nil hrun.ne_nil]
    exact hrun.stop_eq
  joined := by
    intro step' hstep
    cases hstep
    refine (hrun.joined step rfl).cons fun p hp => ?_
    rw [h, hrun.start_eq p hp]
  single := nofun

theorem tail {p : Observation} {rest : List Observation} (hrun : w.IsRun interval)
    (h : w.records = o :: p :: rest) :
    ∃ step, interval = some step ∧ o.timestamp.shift? step = some p.timestamp ∧
      IsRun interval ⟨p.timestamp, w.stop, p :: rest⟩ := by
  cases interval with
  | none => exact absurd (hrun.single rfl) (by simp [h])
  | some step =>
    have hjoined := hrun.joined step rfl
    rw [h, List.isChain_cons_cons] at hjoined
    refine ⟨step, rfl, hjoined.1, nofun, by simp, ?_, ?_, nofun⟩
    · have hstop := hrun.stop_eq
      rwa [h, List.getLast?_cons_cons] at hstop
    · intro step' hstep
      cases hstep
      exact hjoined.2

end Window.IsRun

namespace IsGrouping

variable {interval : Option Int} {o : Observation} {records : List Observation}
  {ws : List Window}

theorem nil : IsGrouping interval [] [] where
  run := by simp
  flatten := rfl
  parted := by simp

/-- A run that the first of the others does not continue, put in front of them. -/
theorem cons {w : Window} {records' : List Observation} (h : IsGrouping interval records ws)
    (hrun : w.IsRun interval) (hflatten : w.records ++ records = records')
    (hparted : ∀ step, interval = some step → ∀ next ∈ ws.head?, ∀ p ∈ next.records.head?,
      p.timestamp ≠ w.stop) : IsGrouping interval records' (w :: ws) where
  run := List.forall_mem_cons.2 ⟨hrun, h.run⟩
  flatten := by rw [List.map_cons, List.flatten_cons, h.flatten, hflatten]
  parted step hstep := (h.parted step hstep).cons (hparted step hstep)

theorem of_cons {w : Window} (h : IsGrouping interval records (w :: ws)) :
    IsGrouping interval (ws.map Window.records).flatten ws where
  run := fun v hv => h.run v (List.mem_cons_of_mem w hv)
  flatten := rfl
  parted := fun step hstep => (h.parted step hstep).of_cons

/-- **One more observation** at the front of a grouping. -/
theorem extend {stop : Timestamp} (h : IsGrouping interval records ws)
    (hstop : EndsAt interval o stop) :
    IsGrouping interval (o :: records) (Window.extend interval o stop ws) := by
  cases ws with
  | nil => exact h.cons (.singleton hstop) rfl (by simp)
  | cons next later =>
    have hnext := h.run next List.mem_cons_self
    rw [Window.extend]
    split_ifs with hjoin
    · -- the observation ends where the next window begins
      obtain ⟨hinterval, rfl⟩ := hjoin
      obtain ⟨step, rfl⟩ := Option.isSome_iff_exists.1 hinterval
      refine h.of_cons.cons (hnext.cons hstop) ?_ ?_
      · rw [← h.flatten]
        rfl
      · exact fun step' hstep => (List.isChain_cons.1 (h.parted step' hstep)).1
    · refine h.cons (.singleton hstop) rfl fun step hstep w hw p hp heq => ?_
      obtain rfl : next = w := by simpa using hw
      exact hjoin ⟨by simp [hstep], by rw [hnext.start_eq p hp, heq]⟩

/-- **Every grouping comes about by extending** that of the observations behind the first. -/
theorem exists_extend (h : IsGrouping interval (o :: records) ws) :
    ∃ stop later, EndsAt interval o stop ∧ IsGrouping interval records later ∧
      ws = Window.extend interval o stop later := by
  cases ws with
  | nil => exact absurd h.flatten (by simp)
  | cons w later =>
    have hrun := h.run w List.mem_cons_self
    have hflatten := h.flatten
    obtain ⟨start, stop, observations⟩ := w
    rw [List.map_cons, List.flatten_cons] at hflatten
    match observations with
    | [] => exact absurd rfl hrun.ne_nil
    | [p] =>
      -- a run of its own, which the next does not continue
      obtain ⟨rfl, rfl⟩ := List.cons.inj hflatten
      obtain rfl := hrun.start_eq p rfl
      refine ⟨stop, later, hrun.stop_eq p rfl, h.of_cons, ?_⟩
      cases later with
      | nil => rfl
      | cons next later =>
        rw [Window.extend, if_neg]
        intro hjoin
        obtain ⟨hinterval, heq⟩ := hjoin
        obtain ⟨step, hstep⟩ := Option.isSome_iff_exists.1 hinterval
        have hnext := h.run next (by simp)
        obtain ⟨q, rest, hq⟩ := List.exists_cons_of_ne_nil hnext.ne_nil
        have hparted := (List.isChain_cons_cons.1 (h.parted step hstep)).1 q (by simp [hq])
        exact hparted (by rw [heq, hnext.start_eq q (by simp [hq])])
    | p :: q :: rest =>
      -- without its first observation, the run begins with the second
      obtain ⟨rfl, hrest⟩ := List.cons.inj hflatten
      obtain rfl := hrun.start_eq p rfl
      obtain ⟨step, rfl, hstop, htail⟩ := hrun.tail rfl
      refine ⟨q.timestamp, ⟨q.timestamp, stop, q :: rest⟩ :: later, hstop, ?_, ?_⟩
      · refine h.of_cons.cons htail hrest ?_
        exact fun step' hstep => (List.isChain_cons.1 (h.parted step' hstep)).1
      · rw [Window.extend, if_pos ⟨rfl, rfl⟩]

end IsGrouping

theorem windows?_cons {interval : Option Int} {o : Observation} {records : List Observation}
    {ws : List Window} : windows? interval (o :: records) = some ws ↔
      ∃ stop later, EndsAt interval o stop ∧ windows? interval records = some later ∧
        Window.extend interval o stop later = ws := by
  simp [windows?, endsAt_iff, Option.bind_eq_some_iff]

theorem windows?_eq_some_iff {interval : Option Int} {records : List Observation}
    {ws : List Window} : windows? interval records = some ws ↔ IsGrouping interval records ws := by
  induction records generalizing ws with
  | nil =>
    rw [windows?, Option.some.injEq]
    constructor
    · intro heq
      subst heq
      exact .nil
    · intro h
      cases ws with
      | nil => rfl
      | cons w ws => exact absurd (List.append_eq_nil_iff.1 h.flatten).1 (h.run w (by simp)).ne_nil
  | cons o records ih =>
    rw [windows?_cons]
    constructor
    · intro hex
      obtain ⟨stop, later, hstop, hlater, rfl⟩ := hex
      exact (ih.1 hlater).extend hstop
    · intro h
      obtain ⟨stop, later, hstop, hlater, rfl⟩ := h.exists_extend
      exact ⟨stop, later, hstop, ih.2 hlater, rfl⟩

theorem windows?_eq_none_iff {interval : Option Int} {records : List Observation} :
    windows? interval records = none ↔
      ∃ o ∈ records, o.timestamp.shift? (interval.getD 0) = none := by
  induction records with
  | nil => simp [windows?]
  | cons o records ih =>
    rw [windows?, List.exists_mem_cons_iff, ← ih]
    cases o.timestamp.shift? (interval.getD 0) with
    | none => simp
    | some stop => cases windows? interval records <;> simp

/-! ## Runs in time -/

section

variable {step : Int} {o : Observation}

/-- **A run holds what lies between its bounds**, if no interval in it leads past such an
observation. -/
theorem Window.IsRun.mem_of_between {w : Window} (hrun : w.IsRun (some step))
    (hsame : ∀ a ∈ w.records, a.timestamp = o.timestamp → a = o)
    (hlater : ∀ a ∈ w.records, a.timestamp < o.timestamp →
      ∀ t, a.timestamp.shift? step = some t → t ≤ o.timestamp)
    (hstart : w.start ≤ o.timestamp) (hstop : o.timestamp < w.stop) : o ∈ w.records := by
  obtain ⟨start, stop, records⟩ := w
  dsimp only at *
  -- along the run, as long as the observation is not one that has been passed
  induction records generalizing start with
  | nil => exact absurd rfl hrun.ne_nil
  | cons a rest ih =>
    obtain rfl := hrun.start_eq a rfl
    rcases hstart.eq_or_lt with heq | hlt
    · exact List.mem_cons.2 (.inl (hsame a List.mem_cons_self heq).symm)
    · cases rest with
      | nil => exact absurd (hlater a List.mem_cons_self hlt stop (hrun.stop_eq a rfl)) hstop.not_ge
      | cons b rest =>
        obtain ⟨_, hstep, hshift, htail⟩ := hrun.tail rfl
        cases hstep
        refine List.mem_cons_of_mem a (ih b.timestamp htail ?_ ?_ ?_)
        · exact fun c hc => hsame c (List.mem_cons_of_mem a hc)
        · exact fun c hc => hlater c (List.mem_cons_of_mem a hc)
        · exact hlater a List.mem_cons_self hlt b.timestamp hshift

/-- **The runs of a grouping follow each other in time**, if the observations do and no interval
leads past an observation to come. -/
theorem IsGrouping.pairwise_stop_le {records : List Observation} {ws : List Window}
    (h : IsGrouping (some step) records ws)
    (hrecords : records.Pairwise fun a b => a.timestamp < b.timestamp ∧
      ∀ t, a.timestamp.shift? step = some t → t ≤ b.timestamp) :
    ws.Pairwise fun v w => v.start < w.start ∧ v.stop ≤ w.start := by
  rw [← h.flatten, List.pairwise_flatten, List.pairwise_map] at hrecords
  refine hrecords.2.imp_of_mem fun {v w} hv hw hvw => ?_
  have hv := h.run v hv
  have hw := h.run w hw
  have hhead := hw.start_eq _ (List.head_mem_head? hw.ne_nil)
  rw [hv.start_eq _ (List.head_mem_head? hv.ne_nil), hhead]
  constructor
  · exact (hvw _ (List.head_mem _) _ (List.head_mem _)).1
  · exact (hvw _ (List.getLast_mem _) _ (List.head_mem _)).2 _
      (hv.stop_eq _ (List.getLast_mem_getLast? hv.ne_nil))

end

/-- **Windows are the one grouping of a selection.** There is none exactly when there is an interval
and some observation's interval ends beyond the calendar; otherwise the windows are runs that give
the selection back in order, none of which could be continued by the next, and no other windows
are. -/
theorem windows?_eq_none_iff_and_eq_some_iff (interval : Option Int) (records : List Observation) :
    (windows? interval records = none ↔
      ∃ step, interval = some step ∧ ∃ o ∈ records, o.timestamp.shift? step = none) ∧
    ∀ ws, windows? interval records = some ws ↔ IsGrouping interval records ws := by
  refine ⟨?_, fun ws => windows?_eq_some_iff⟩
  rw [windows?_eq_none_iff]
  cases interval with
  | some step => simp
  | none => simp

end Fairweather
