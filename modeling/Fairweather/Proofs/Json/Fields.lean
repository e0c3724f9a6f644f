import Fairweather.Json.Decoding
import Fairweather.Proofs.Results

/-!
# Fields and items

What stands in a node of a JSON text, said without the functions that read it: the item at a
position of a list (`Items.get?`), the members of an object (`Members.Holds`), and the fields of a
structure, which is an object or a list of its fields in order (`Node.HasField`).

The readers are held to this. A list that is read gives what its items give, position by position
(`Items.map_read_get?`). An object is read by taking its members one after the other into slots; a
slot that takes the members of one name, and each once at most, ends up with what the one member of
that name gives (`Fills.gives`).
-/

namespace Fairweather

namespace Json

/-! ## What stands in a node -/

/-- The item at a position. -/
def Items.get? : Items → Nat → Option Node
  | .cons item _, 0 => some item
  | .cons _ rest, i + 1 => rest.get? i
  | _, _ => none

/-- A member with a name and a value. -/
inductive Members.Holds (name : String) (value : Node) : Members → Prop
  | here {key : Quoted} {rest : Members} :
      key.decode = .ok name → Holds name value (.cons key value rest)
  | there {key : Quoted} {other : Node} {rest : Members} :
      Holds name value rest → Holds name value (.cons key other rest)

/-- A structure has a field with a value: as a member of an object, or in its place in a list of
the fields in order. -/
def Node.HasField (node : Node) (names : List String) (name : String) (value : Node) : Prop :=
  match node with
  | .object members => members.Holds name value
  | .list items => ∃ i : Nat, names[i]? = some name ∧ items.get? i = some value
  | _ => False

/-- A structure has a field, and what stands there is read as a value. -/
def Node.Gives {α : Type} (node : Node) (names : List String) (name : String)
    (read : Node → Except Fault α) (a : α) : Prop :=
  (∃ value, node.HasField names name value) ∧
    ∀ value, node.HasField names name value → read value = .ok a

/-! ## Kinds of nodes -/

namespace Node

variable {α : Type} {node : Node}

theorem unexpected_ne_ok {expected : String} {a : α} : node.unexpected expected ≠ .ok a := by
  intro h
  unfold unexpected at h
  split at h <;> cases h

theorem toText_ok {text : String} (h : node.toText = .ok text) :
    ∃ body, node = .string body ∧ body.decode = .ok text := by
  unfold toText at h
  split at h
  · next body => exact ⟨body, rfl, h⟩
  · exact absurd h unexpected_ne_ok

theorem toBinary64_ok {x : Binary64} (h : node.toBinary64 = .ok x) :
    ∃ n, node = .number n ∧ n.toBinary64 = .ok x := by
  unfold toBinary64 at h
  split at h
  · next n => exact ⟨n, rfl, h⟩
  · exact absurd h unexpected_ne_ok

theorem toBinary64?_ok {x : Option Binary64} (h : node.toBinary64? = .ok x) :
    node = .null ∧ x = none ∨ ∃ n y, node = .number n ∧ x = some y ∧ n.toBinary64 = .ok y := by
  unfold toBinary64? at h
  split at h
  · cases h
    exact .inl ⟨rfl, rfl⟩
  · obtain ⟨y, hy, rfl⟩ := map_eq_ok.1 h
    obtain ⟨n, hn, hread⟩ := toBinary64_ok hy
    exact .inr ⟨n, y, hn, rfl, hread⟩

theorem toStructure_ok {type : String} {ofMembers : Members → Except Fault α}
    {ofItems : Items → Except Fault α} {a : α}
    (h : toStructure type ofMembers ofItems node = .ok a) :
    (∃ members, node = .object members ∧ ofMembers members = .ok a) ∨
      ∃ items, node = .list items ∧ ofItems items = .ok a := by
  unfold toStructure at h
  split at h
  · next members => exact .inl ⟨members, rfl, h⟩
  · next items => exact .inr ⟨items, rfl, h⟩
  · exact absurd h unexpected_ne_ok

end Node

/-! ## Lists -/

/-- **A list is read position by position.** -/
theorem Items.map_read_get? {α : Type} {read : Node → Except Fault α} {items : Items}
    {as : List α} (h : items.readAll read = .ok as) (i : Nat) :
    (items.get? i).map read = as[i]?.map .ok := by
  fun_induction Items.readAll read items generalizing as i with
  | case1 =>
    cases h
    rfl
  | case2 how => cases h
  | case3 item rest ih =>
    obtain ⟨a, ha, h⟩ := bind_eq_ok.1 h
    obtain ⟨more, hmore, h⟩ := bind_eq_ok.1 h
    cases h
    cases i with
    | zero => simp [get?, ha]
    | succ i => simpa [get?] using ih hmore i

theorem Node.toList_ok {α : Type} {read : Node → Except Fault α} {node : Node} {as : List α}
    (h : node.toList read = .ok as) :
    ∃ items, node = .list items ∧ ∀ i, (items.get? i).map read = as[i]?.map .ok := by
  unfold toList at h
  split at h
  · next items => exact ⟨items, rfl, Items.map_read_get? h⟩
  · exact absurd h unexpected_ne_ok

theorem Items.next_ok {α : Type} {type : String} {fields length : Nat}
    {read : Node → Except Fault α} {items rest : Items} {a : α}
    (h : items.next type fields length read = .ok (a, rest)) :
    ∃ item, items = .cons item rest ∧ read item = .ok a := by
  cases items with
  | closed => cases h
  | broken how => cases h
  | cons item more =>
    obtain ⟨b, hb, h⟩ := map_eq_ok.1 h
    cases h
    exact ⟨item, rfl, hb⟩

/-! ## Objects -/

/-- A slot takes the members of one name, each once at most, and reads them. -/
structure Fills {σ α : Type} (take : σ → String → Node → Except Fault σ) (slot : σ → Option α)
    (name : String) (read : Node → Except Fault α) : Prop where
  filled : ∀ {s s' value}, take s name value = .ok s' →
    slot s = none ∧ ∃ a, read value = .ok a ∧ slot s' = some a
  kept : ∀ {s s' key value}, key ≠ name → take s key value = .ok s' → slot s' = slot s

namespace Fills

variable {σ α : Type} {take : σ → String → Node → Except Fault σ} {slot : σ → Option α}
  {name : String} {read : Node → Except Fault α}

/-- What the members leave in a slot: what the member of its name gives, if there is one, and what
was there before if there is none. -/
theorem collect (hfills : Fills take slot name read) {members : Members} {s s' : σ}
    (h : members.collect take s = .ok s') :
    (∀ value, members.Holds name value →
      slot s = none ∧ ∃ a, read value = .ok a ∧ slot s' = some a) ∧
    ((∃ value, members.Holds name value) ∨ slot s' = slot s) := by
  fun_induction Members.collect take s members with
  | case1 s =>
    cases h
    refine ⟨fun value hholds => ?_, .inr rfl⟩
    cases hholds
  | case2 => cases h
  | case3 => cases h
  | case4 s key value rest ih =>
    obtain ⟨found, hkey, h⟩ := bind_eq_ok.1 h
    obtain ⟨next, htake, h⟩ := bind_eq_ok.1 h
    obtain ⟨hholds, hslot⟩ := ih next h
    by_cases hname : found = name
    · subst hname
      obtain ⟨hnone, a, ha, hsome⟩ := hfills.filled htake
      -- the slot is full now, so the name does not come again
      have hlast : ∀ value, ¬ rest.Holds found value := by
        intro value hvalue
        have := (hholds value hvalue).1
        rw [hsome] at this
        cases this
      refine ⟨fun v hv => ?_, .inl ⟨value, .here hkey⟩⟩
      cases hv with
      | here _ =>
        rcases hslot with ⟨v, hv⟩ | hslot
        · exact absurd hv (hlast v)
        · exact ⟨hnone, a, ha, hslot.trans hsome⟩
      | there hv => exact absurd hv (hlast v)
    · have hkept := hfills.kept hname htake
      rw [hkept] at hholds hslot
      constructor
      · intro v hv
        cases hv with
        | here hkey' =>
          rw [hkey, Except.ok.injEq] at hkey'
          exact absurd hkey' hname
        | there hv => exact hholds v hv
      · rcases hslot with ⟨v, hv⟩ | hslot
        · exact .inl ⟨v, .there hv⟩
        · exact .inr hslot

/-- **A slot that was empty and is full** holds what the field of its name gives. -/
theorem gives (hfills : Fills take slot name read) {members : Members} {s s' : σ} {a : α}
    (h : members.collect take s = .ok s') (hstart : slot s = none) (hend : slot s' = some a)
    (names : List String) : (Node.object members).Gives names name read a := by
  obtain ⟨hholds, hslot⟩ := hfills.collect h
  constructor
  · refine hslot.resolve_right fun hsame => ?_
    rw [hend, hstart] at hsame
    cases hsame
  · intro value hvalue
    obtain ⟨-, b, hb, hsome⟩ := hholds value hvalue
    rw [hend, Option.some.injEq] at hsome
    rw [hsome, hb]

end Fills

theorem fill_ok {α : Type} {name : String} {slot slot' : Option α}
    {read : Node → Except Fault α} {value : Node} (h : fill name slot read value = .ok slot') :
    slot = none ∧ ∃ a, read value = .ok a ∧ slot' = some a := by
  unfold fill at h
  split at h
  · cases h
  · obtain ⟨a, ha, rfl⟩ := map_eq_ok.1 h
    exact ⟨rfl, a, ha, rfl⟩

theorem require_ok {α : Type} {name : String} {slot : Option α} {a : α} :
    require name slot = .ok a ↔ slot = some a := by
  cases slot <;> simp [require]

end Json

end Fairweather
