import Fairweather.Plan.Vocabulary

/-!
# Catalogues

A catalogue keeps vocabularies under names. A name that was never used has the empty vocabulary.

The vocabularies stand in tables, and a name holds a table. A vocabulary is copied without copying
its entries: both names hold one table from then on. A table changes only while one name alone holds
it; a name that adds an entry to a shared table gets a table of its own for this.
-/

namespace Fairweather

/-- Vocabularies under names. Several names may hold one table. -/
structure Catalogue where
  tables : List Vocabulary
  holds : List (String × Nat)
  distinct : (holds.map Prod.fst).Nodup
  inRange : ∀ hold ∈ holds, hold.2 < tables.length

namespace Catalogue

def empty : Catalogue := ⟨[], [], List.nodup_nil, by simp⟩

/-- The table that a name holds. -/
def table? (catalogue : Catalogue) (name : String) : Option Nat :=
  catalogue.holds.lookup name

theorem mem_holds {catalogue : Catalogue} {name : String} {table : Nat}
    (h : catalogue.table? name = some table) : (name, table) ∈ catalogue.holds := by
  obtain ⟨before, after, hholds, -⟩ := List.lookup_eq_some_iff.mp h
  simp [hholds]

/-- The number of names that hold a table. -/
def holders (catalogue : Catalogue) (table : Nat) : Nat :=
  catalogue.holds.countP (·.2 = table)

/-- The vocabulary under a name. -/
def vocabulary (catalogue : Catalogue) (name : String) : Vocabulary :=
  ((catalogue.table? name).bind (catalogue.tables[·]?)).getD .empty

/-- The holds with a table for a name in place of the one it held. -/
def rehold (holds : List (String × Nat)) (name : String) (table : Nat) : List (String × Nat) :=
  (name, table) :: holds.filter (·.1 ≠ name)

theorem rehold_distinct {holds : List (String × Nat)} (h : (holds.map Prod.fst).Nodup)
    (name : String) (table : Nat) : ((rehold holds name table).map Prod.fst).Nodup := by
  rw [rehold, List.map_cons, List.nodup_cons]
  exact ⟨by simp, (List.filter_sublist.map Prod.fst).nodup h⟩

theorem rehold_inRange {holds : List (String × Nat)} {bound table : Nat}
    (h : ∀ hold ∈ holds, hold.2 < bound) (name : String) (htable : table < bound) :
    ∀ hold ∈ rehold holds name table, hold.2 < bound := by
  intro hold hmem
  rcases List.mem_cons.mp hmem with rfl | hmem
  · exact htable
  · exact h hold (List.mem_filter.mp hmem).1

/-- The name holds a new table. -/
def place (catalogue : Catalogue) (name : String) (vocabulary : Vocabulary) : Catalogue where
  tables := catalogue.tables ++ [vocabulary]
  holds := rehold catalogue.holds name catalogue.tables.length
  distinct := rehold_distinct catalogue.distinct name _
  inRange := by
    refine rehold_inRange (fun hold hmem => ?_) name (by simp)
    have := catalogue.inRange hold hmem
    simp only [List.length_append]
    omega

/-- The name holds the table that another name holds. -/
def copy (catalogue : Catalogue) (name source : String) : Catalogue :=
  match h : catalogue.table? source with
  | none => catalogue.place name .empty
  | some table =>
    { tables := catalogue.tables
      holds := rehold catalogue.holds name table
      distinct := rehold_distinct catalogue.distinct name _
      inRange := rehold_inRange catalogue.inRange name (catalogue.inRange _ (mem_holds h)) }

/-- One more entry under a name. The only holder of a table changes it; any other name gets a table
of its own. -/
def register (catalogue : Catalogue) (name : String) (entry : Entry) : Catalogue :=
  match catalogue.table? name with
  | none => catalogue.place name (Vocabulary.empty.insert entry)
  | some table =>
    if catalogue.holders table = 1 then
      { catalogue with
        tables := catalogue.tables.modify table (·.insert entry)
        inRange := by simpa using catalogue.inRange }
    else catalogue.place name ((catalogue.vocabulary name).insert entry)

/-- What is done to the vocabulary under a name. -/
inductive Step where
  | new (name : String)
  | builtin (name : String)
  | copy (name source : String)
  | register (name : String) (entry : Entry)

def step (catalogue : Catalogue) : Step → Catalogue
  | .new name => catalogue.place name .empty
  | .builtin name => catalogue.place name .builtin
  | .copy name source => catalogue.copy name source
  | .register name entry => catalogue.register name entry

/-- The catalogue that steps make of the empty one. -/
def run (steps : List Step) : Catalogue := steps.foldl step empty

end Catalogue

end Fairweather
