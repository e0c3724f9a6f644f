import Mathlib.Data.List.Forall2

/-!
# Results of several steps

A result is a value or a fault. Of two steps, the second is taken when the first has no fault; over
a list, a step is taken for each element up to the first that has one. So the fault of the whole is
the first in order (`mapM_eq_error`), and without a fault there is one result for each element, in
its place (`mapM_eq_ok`).
-/

namespace Fairweather

variable {ε α β : Type}

theorem bind_eq_ok {x : Except ε α} {f : α → Except ε β} {b : β} :
    (x >>= f) = .ok b ↔ ∃ a, x = .ok a ∧ f a = .ok b := by
  cases x with
  | error e => simp [bind, Except.bind]
  | ok a => simp [bind, Except.bind]

theorem bind_eq_error {x : Except ε α} {f : α → Except ε β} {e : ε} :
    (x >>= f) = .error e ↔ x = .error e ∨ ∃ a, x = .ok a ∧ f a = .error e := by
  cases x with
  | error e' => simp [bind, Except.bind]
  | ok a => simp [bind, Except.bind]

theorem map_eq_ok {x : Except ε α} {f : α → β} {b : β} :
    x.map f = .ok b ↔ ∃ a, x = .ok a ∧ f a = b := by
  cases x with
  | error e => simp [Except.map]
  | ok a => simp [Except.map]

theorem map_eq_error {x : Except ε α} {f : α → β} {e : ε} : x.map f = .error e ↔ x = .error e := by
  cases x with
  | error e' => simp [Except.map]
  | ok a => simp [Except.map]

theorem toOption_eq_some_iff {x : Except ε α} {a : α} : x.toOption = some a ↔ x = .ok a := by
  cases x <;> simp [Except.toOption]

/-- An answer may be there, or there may be a fault instead, or nothing at all. -/
theorem exists_ok_some_or_error_iff {x : Except ε (Option α)} :
    ((∃ a, x = .ok (some a)) ∨ ∃ e, x = .error e) ↔ x ≠ .ok none := by
  rcases x with e | (_ | a) <;> simp

theorem mapM_eq_ok {f : α → Except ε β} {as : List α} {bs : List β} :
    as.mapM f = .ok bs ↔ List.Forall₂ (fun a b => f a = .ok b) as bs := by
  induction as generalizing bs with
  | nil => cases bs <;> simp [pure, Except.pure]
  | cons a as ih =>
    rw [List.mapM_cons, bind_eq_ok, List.forall₂_cons_left_iff]
    constructor
    · intro hex
      obtain ⟨b, hb, h⟩ := hex
      obtain ⟨rest, hrest, h⟩ := bind_eq_ok.1 h
      cases h
      exact ⟨b, rest, hb, ih.1 hrest, rfl⟩
    · intro hex
      obtain ⟨b, rest, hb, hrest, rfl⟩ := hex
      exact ⟨b, hb, bind_eq_ok.2 ⟨rest, ih.2 hrest, rfl⟩⟩

theorem mem_of_mapM_eq_ok {f : α → Except ε β} {as : List α} {bs : List β}
    (h : as.mapM f = .ok bs) {b : β} : b ∈ bs ↔ ∃ a ∈ as, f a = .ok b := by
  induction mapM_eq_ok.1 h with
  | nil => simp
  | @cons a b' as bs hhead htail ih =>
    simp only [List.mem_cons, exists_eq_or_imp, hhead, Except.ok.injEq, ih (mapM_eq_ok.2 htail)]
    rw [eq_comm]

theorem exists_of_mapM_eq_ok {f : α → Except ε β} {as : List α} {bs : List β}
    (h : as.mapM f = .ok bs) {a : α} (ha : a ∈ as) : ∃ b ∈ bs, f a = .ok b := by
  induction mapM_eq_ok.1 h with
  | nil => cases ha
  | @cons a' b as bs hhead htail ih =>
    rcases List.mem_cons.1 ha with rfl | ha
    · exact ⟨b, List.mem_cons_self, hhead⟩
    · obtain ⟨b', hb', hb⟩ := ih (mapM_eq_ok.2 htail) ha
      exact ⟨b', List.mem_cons_of_mem b hb', hb⟩

theorem exists_mapM_eq_ok {f : α → Except ε β} {as : List α} (h : ∀ a ∈ as, ∃ b, f a = .ok b) :
    ∃ bs, as.mapM f = .ok bs := by
  induction as with
  | nil => exact ⟨[], rfl⟩
  | cons a as ih =>
    obtain ⟨b, hb⟩ := h a List.mem_cons_self
    obtain ⟨bs, hbs⟩ := ih fun a' ha' => h a' (List.mem_cons_of_mem a ha')
    exact ⟨b :: bs, mapM_eq_ok.2 (.cons hb (mapM_eq_ok.1 hbs))⟩

theorem mapM_congr {f g : α → Except ε β} {as : List α} (h : ∀ a ∈ as, f a = g a) :
    as.mapM f = as.mapM g := by
  induction as with
  | nil => rfl
  | cons a as ih =>
    obtain ⟨ha, has⟩ := List.forall_mem_cons.1 h
    rw [List.mapM_cons, List.mapM_cons, ha, ih has]

/-- A list is gone through up to the first of its elements that has a fault. -/
theorem mapM_eq_error {f : α → Except ε β} {as : List α} {e : ε} :
    as.mapM f = .error e ↔ ∃ before a after, as = before ++ a :: after ∧
      (∀ a' ∈ before, ∃ b, f a' = .ok b) ∧ f a = .error e := by
  induction as with
  | nil => simp [pure, Except.pure]
  | cons a as ih =>
    rw [List.mapM_cons, bind_eq_error]
    constructor
    · rintro (ha | ⟨b, hb, h⟩)
      · exact ⟨[], a, as, rfl, by simp, ha⟩
      · rcases bind_eq_error.1 h with hrest | ⟨bs, -, hpure⟩
        · obtain ⟨before, a', after, rfl, hbefore, ha'⟩ := ih.1 hrest
          exact ⟨a :: before, a', after, rfl, List.forall_mem_cons.2 ⟨⟨b, hb⟩, hbefore⟩, ha'⟩
        · cases hpure
    · rintro ⟨before, a', after, heq, hbefore, ha'⟩
      cases before with
      | nil =>
        obtain ⟨rfl, rfl⟩ := List.cons.inj heq
        exact .inl ha'
      | cons a₀ before =>
        obtain ⟨rfl, rfl⟩ := List.cons.inj heq
        obtain ⟨⟨b, hb⟩, hbefore⟩ := List.forall_mem_cons.1 hbefore
        exact .inr ⟨b, hb, bind_eq_error.2 (.inl (ih.2 ⟨before, a', after, rfl, hbefore, ha'⟩))⟩

/-- What is looked for in the results can be looked for in what they come from. -/
theorem findSome?_of_mapM_eq_ok {γ : Type} {f : α → Except ε β} {g : β → Option γ} {as : List α}
    {bs : List β} (h : as.mapM f = .ok bs) :
    bs.findSome? g = as.findSome? fun a => (f a).toOption.bind g := by
  induction mapM_eq_ok.1 h with
  | nil => rfl
  | @cons a b as bs hhead htail ih =>
    rw [List.findSome?_cons, List.findSome?_cons, hhead, ih (mapM_eq_ok.2 htail)]
    rfl

theorem all_of_mapM_eq_ok {f : α → Except ε β} {p : β → Bool} {as : List α} {bs : List β}
    (h : as.mapM f = .ok bs) : bs.all p = as.all fun a => (f a).toOption.all p := by
  induction mapM_eq_ok.1 h with
  | nil => rfl
  | @cons a b as bs hhead htail ih =>
    rw [List.all_cons, List.all_cons, hhead, ih (mapM_eq_ok.2 htail)]
    rfl

end Fairweather
