import Fairweather.Forecast.Sheet
import Fairweather.Proofs.Json.Fields

/-!
# Reading sheets

A sheet that is read gives, for its own field and for each measure, what stands in the node under
the name of that field (`SheetForm.decode_gives`). It does so in both shapes of a structure, as an
object with its members in any order and as a list of the fields in the declared order, provided
that the names of the form tell its fields apart (`SheetForm.Lawful`).
-/

namespace Fairweather

open Json

variable {τ α : Type}

namespace SheetForm

/-- The names of the fields, in the declared order. -/
def names (form : SheetForm τ α) : List String := form.headName :: form.order.map form.name

/-- Each measure is declared once, and no two fields have the same name. -/
structure Lawful (form : SheetForm τ α) : Prop where
  nodup : form.order.Nodup
  mem_order : ∀ m, m ∈ form.order
  injective : ∀ {m k}, form.name m = form.name k → m = k
  head_ne : ∀ m, form.name m ≠ form.headName

variable {form : SheetForm τ α}

theorem Lawful.measure? (h : form.Lawful) (m : Measure) :
    SheetDraft.measure? form (form.name m) = some m := by
  unfold SheetDraft.measure?
  cases hfind : form.order.find? fun k => form.name k = form.name m with
  | none => exact absurd (List.find?_eq_none.1 hfind m (h.mem_order m)) (by simp)
  | some k =>
    have hname := List.find?_some hfind
    rw [decide_eq_true_eq] at hname
    rw [h.injective hname]

theorem name_of_measure? {name : String} {m : Measure}
    (h : SheetDraft.measure? form name = some m) : form.name m = name := by
  have hname := List.find?_some h
  rwa [decide_eq_true_eq] at hname

/-! ## A sheet as an object -/

theorem fills_head (form : SheetForm τ α) :
    Fills (SheetDraft.take form) SheetDraft.head form.headName form.readHead where
  filled := by
    intro s s' value h
    rw [SheetDraft.take, if_pos rfl] at h
    obtain ⟨slot, hslot, rfl⟩ := map_eq_ok.1 h
    exact fill_ok hslot
  kept := by
    intro s s' key value hne h
    rw [SheetDraft.take, if_neg hne] at h
    split at h
    · obtain ⟨_, _, rfl⟩ := map_eq_ok.1 h
      rfl
    · obtain ⟨_, _, rfl⟩ := map_eq_ok.1 h
      rfl

theorem Lawful.fills (h : form.Lawful) (m : Measure) :
    Fills (SheetDraft.take form) (·.readings.get m) (form.name m) form.read where
  filled := by
    intro s s' value htake
    rw [SheetDraft.take, if_neg (h.head_ne m), h.measure? m] at htake
    obtain ⟨slot, hslot, rfl⟩ := map_eq_ok.1 htake
    obtain ⟨hnone, a, ha, rfl⟩ := fill_ok hslot
    exact ⟨hnone, a, ha, by simp⟩
  kept := by
    intro s s' key value hne htake
    unfold SheetDraft.take at htake
    split at htake
    · obtain ⟨_, _, rfl⟩ := map_eq_ok.1 htake
      rfl
    · split at htake
      · next k hk =>
        obtain ⟨_, _, rfl⟩ := map_eq_ok.1 htake
        have hother : m ≠ k := by
          intro heq
          subst heq
          exact hne (name_of_measure? hk).symm
        simp [hother]
      · obtain ⟨_, _, rfl⟩ := map_eq_ok.1 htake
        rfl

/-! ## A sheet as a list -/

/-- The items behind the first `length` are taken as the measures of a list, one each. -/
theorem takeItems_ok {order : List Measure} {length : Nat}
    {readings readings' : Readings (Option α)} {items rest : Items}
    (h : SheetDraft.takeItems form length order readings items = .ok (readings', rest))
    (hnodup : order.Nodup) :
    (∀ m ∉ order, readings'.get m = readings.get m) ∧
      ∀ (j : Nat) m, order[j]? = some m →
        ∃ value a, items.get? j = some value ∧ form.read value = .ok a ∧
          readings'.get m = some a := by
  induction order generalizing length readings items with
  | nil =>
    cases h
    exact ⟨fun _ _ => rfl, fun j m hm => by simp at hm⟩
  | cons k order ih =>
    obtain ⟨⟨a, more⟩, hnext, hrest⟩ := bind_eq_ok.1 h
    obtain ⟨item, rfl, ha⟩ := Items.next_ok hnext
    obtain ⟨hk, hnodup⟩ := List.nodup_cons.1 hnodup
    obtain ⟨hother, htaken⟩ := ih hrest hnodup
    constructor
    · intro m hm
      obtain ⟨hne, hm⟩ := not_or.1 (mt List.mem_cons.2 hm)
      rw [hother m hm, Readings.get_set, if_neg hne]
    · intro j m hm
      cases j with
      | zero =>
        rw [List.getElem?_cons_zero, Option.some.injEq] at hm
        subst hm
        refine ⟨item, a, rfl, ha, ?_⟩
        rw [hother k hk, Readings.get_set, if_pos rfl]
      | succ j => exact htaken j m hm

theorem complete_ok {draft : SheetDraft τ α} {head : τ} {readings : Readings α}
    (h : draft.complete form = .ok (head, readings)) :
    draft.head = some head ∧ ∀ m, draft.readings.get m = some (readings.get m) := by
  obtain ⟨t, hhead, h⟩ := bind_eq_ok.1 h
  obtain ⟨_, _, h⟩ := bind_eq_ok.1 h
  obtain ⟨a, ha, h⟩ := bind_eq_ok.1 h
  obtain ⟨b, hb, h⟩ := bind_eq_ok.1 h
  obtain ⟨c, hc, h⟩ := bind_eq_ok.1 h
  obtain ⟨d, hd, h⟩ := bind_eq_ok.1 h
  obtain ⟨e, he, h⟩ := bind_eq_ok.1 h
  obtain ⟨f, hf, h⟩ := bind_eq_ok.1 h
  cases h
  refine ⟨require_ok.1 hhead, fun m => ?_⟩
  cases m with
  | windSpeed => exact require_ok.1 ha
  | windDirection => exact require_ok.1 hb
  | temperature => exact require_ok.1 hc
  | precipitation => exact require_ok.1 hd
  | precipitationProbability => exact require_ok.1 he
  | cloudCover => exact require_ok.1 hf

theorem Lawful.names_getElem? (h : form.Lawful) {i : Nat} {m : Measure}
    (hi : form.names[i]? = some (form.name m)) :
    ∃ j, i = j + 1 ∧ form.order[j]? = some m := by
  cases i with
  | zero =>
    rw [names, List.getElem?_cons_zero, Option.some.injEq] at hi
    exact absurd hi.symm (h.head_ne m)
  | succ j =>
    rw [names, List.getElem?_cons_succ, List.getElem?_map, Option.map_eq_some_iff] at hi
    obtain ⟨k, hk, hname⟩ := hi
    rw [h.injective hname] at hk
    exact ⟨j, rfl, hk⟩

/-- **A sheet gives what stands under the names of its fields.** -/
theorem decode_gives (hlawful : form.Lawful) {node : Node} {head : τ} {readings : Readings α}
    (h : form.decode node = .ok (head, readings)) :
    node.Gives form.names form.headName form.readHead head ∧
      ∀ m, node.Gives form.names (form.name m) form.read (readings.get m) := by
  rcases Node.toStructure_ok h with ⟨members, rfl, h⟩ | ⟨items, rfl, h⟩
  · obtain ⟨draft, hcollect, hcomplete⟩ := bind_eq_ok.1 h
    obtain ⟨hhead, hreadings⟩ := complete_ok hcomplete
    refine ⟨(fills_head form).gives hcollect rfl hhead _, fun m => ?_⟩
    exact (hlawful.fills m).gives hcollect (by simp [SheetDraft.empty]) (hreadings m) _
  · obtain ⟨⟨first, rest⟩, hnext, h⟩ := bind_eq_ok.1 h
    obtain ⟨⟨taken, last⟩, htake, h⟩ := bind_eq_ok.1 h
    obtain ⟨_, _, hcomplete⟩ := bind_eq_ok.1 h
    obtain ⟨item, rfl, hitem⟩ := Items.next_ok hnext
    obtain ⟨hhead, hreadings⟩ := complete_ok hcomplete
    obtain ⟨-, htaken⟩ := takeItems_ok htake hlawful.nodup
    constructor
    · rw [Option.some.injEq] at hhead
      subst hhead
      refine ⟨⟨item, 0, rfl, rfl⟩, ?_⟩
      intro value hex
      obtain ⟨i, hi, hvalue⟩ := hex
      cases i with
      | zero =>
        cases hvalue
        exact hitem
      | succ j =>
        rw [names, List.getElem?_cons_succ, List.getElem?_map, Option.map_eq_some_iff] at hi
        obtain ⟨k, -, hname⟩ := hi
        exact absurd hname (hlawful.head_ne k)
    · intro m
      obtain ⟨j, hj⟩ := List.getElem?_of_mem (hlawful.mem_order m)
      have hplace : form.names[j + 1]? = some (form.name m) := by
        rw [names, List.getElem?_cons_succ, List.getElem?_map, hj, Option.map_some]
      obtain ⟨value, a, hvalue, -, -⟩ := htaken j m hj
      refine ⟨⟨value, j + 1, hplace, hvalue⟩, ?_⟩
      intro value' hex
      obtain ⟨i, hi, hvalue'⟩ := hex
      obtain ⟨j', rfl, hj'⟩ := hlawful.names_getElem? hi
      obtain ⟨value'', a'', hget, hread, hsome⟩ := htaken j' m hj'
      have hsame : value'' = value' := Option.some.inj (hget.symm.trans hvalue')
      rw [hreadings m, Option.some.injEq] at hsome
      rw [← hsame, hread, hsome]

end SheetForm

end Fairweather
