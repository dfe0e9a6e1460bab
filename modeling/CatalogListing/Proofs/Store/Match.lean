/-
# Proofs.Store.Match -- when a row is wanted

Unknown outcomes never make a condition true: a conjunction is true when all of its
parts are, a disjunction when one of them is.  So a row is wanted when it is admitted
by every filter, and by every clause of the service (`wants_ofParameters_iff`).  A
filter admits a row that passes one of its alternatives, and any row when it has none
(`outcome_compile_iff`).
-/
import CatalogListing.Proofs.Filter.ReadBack
import CatalogListing.Store.Match

namespace CatalogListing

set_option autoImplicit false

open CatalogListing.Filter (Clause Condition Renderer columnsOf classify tests isUsable)

/-! ## Truth with an unknown -/

theorem allOf_eq_true_iff {outcomes : List (Option Bool)} :
    allOf outcomes = some true ↔ ∀ outcome ∈ outcomes, outcome = some true := by
  unfold allOf
  constructor
  · intro all outcome member
    split at all
    · cases all
    · rename_i noneFalse
      split at all
      · cases all
      · rename_i noneUnknown
        rw [List.contains_iff_mem] at noneFalse noneUnknown
        match outcome, member with
        | some true, _ => rfl
        | some false, member => exact absurd member noneFalse
        | none, member => exact absurd member noneUnknown
  · intro all
    have noneFalse : some false ∉ outcomes := fun member => by cases all _ member
    have noneUnknown : none ∉ outcomes := fun member => by cases all _ member
    rw [← List.contains_iff_mem] at noneFalse noneUnknown
    rw [if_neg noneFalse, if_neg noneUnknown]

theorem anyOf_eq_true_iff {outcomes : List (Option Bool)} :
    anyOf outcomes = some true ↔ some true ∈ outcomes := by
  unfold anyOf
  by_cases member : some true ∈ outcomes
  · rw [if_pos (List.contains_iff_mem.2 member)]
    exact ⟨fun _ => member, fun _ => rfl⟩
  · rw [if_neg fun held => member (List.contains_iff_mem.1 held)]
    constructor
    · intro any
      split at any <;> cases any
    · exact fun held => absurd held member

/-! ## Filters -/

/-- The test is true of the row. -/
def RowTest.Holds (db : Database) (schema : Schema) (row : Row) (test : RowTest) : Prop :=
  test.outcome db schema row = some true

namespace Filter

variable {α : Type}

/-- The values of a key have a test on the column, and all of their tests hold. -/
def Passes (render : Renderer α) (holds : α → Prop) (values : List Text) (column : Text) : Prop :=
  tests render (values.filterMap classify) column ≠ [] ∧
    ∀ test ∈ tests render (values.filterMap classify) column, holds test

/-- One of the columns of a key passes, or none of them has a test. -/
def Admits (render : Renderer α) (holds : α → Prop) (key : Text) (values : List Text) : Prop :=
  (∀ column ∈ columnsOf key, tests render (values.filterMap classify) column = []) ∨
    ∃ column ∈ columnsOf key, Passes render holds values column

end Filter

variable {db : Database} {schema : Schema} {row : Row}

theorem Filter.Clause.outcome_eq_true_iff {clause : Clause RowTest} :
    clause.outcome db schema row = some true ↔
      ∃ tests ∈ clause.alternatives, ∀ test ∈ tests, test.Holds db schema row := by
  unfold Clause.outcome
  rw [anyOf_eq_true_iff, List.mem_map]
  constructor
  · rintro ⟨tests, member, all⟩
    refine ⟨tests, member, fun test inTests => ?_⟩
    exact allOf_eq_true_iff.1 all _ (List.mem_map_of_mem inTests)
  · rintro ⟨tests, member, all⟩
    refine ⟨tests, member, allOf_eq_true_iff.2 fun outcome inOutcomes => ?_⟩
    obtain ⟨test, inTests, rfl⟩ := List.mem_map.1 inOutcomes
    exact all test inTests

/-- The clause of a filter is true of the rows that the filter admits. -/
theorem outcome_compile_iff (render : Renderer RowTest) (key : Text) (values : List Text) :
    (∀ clause ∈ Clause.compile render key values, clause.outcome db schema row = some true) ↔
      Filter.Admits render (RowTest.Holds db schema row) key values := by
  let alternatives := ((columnsOf key).map (tests render (values.filterMap classify))).filter
    fun ts => !ts.isEmpty
  have mem_alternatives (ts : List RowTest) : ts ∈ alternatives ↔
      ∃ column ∈ columnsOf key, tests render (values.filterMap classify) column = ts ∧ ts ≠ [] := by
    simp only [alternatives, List.mem_filter, List.mem_map, Bool.not_eq_true',
      List.isEmpty_eq_false_iff]
    constructor
    · rintro ⟨⟨column, member, same⟩, some_⟩
      exact ⟨column, member, same, some_⟩
    · rintro ⟨column, member, same, some_⟩
      exact ⟨⟨column, member, same⟩, some_⟩
  have compiled : Clause.compile render key values =
      if alternatives.isEmpty then none else some ⟨1 < values.length, alternatives⟩ := rfl
  rw [compiled]
  by_cases none_ : alternatives = []
  · rw [none_]
    refine ⟨fun _ => Or.inl fun column member => ?_, fun _ clause held => by cases held⟩
    apply Classical.byContradiction
    intro some_
    have held := (mem_alternatives _).2 ⟨column, member, rfl, some_⟩
    rw [none_] at held
    cases held
  · rw [if_neg (by simpa using none_)]
    constructor
    · intro all
      obtain ⟨ts, member, holds⟩ := Clause.outcome_eq_true_iff.1 (all _ rfl)
      obtain ⟨column, inKey, rfl, some_⟩ := (mem_alternatives ts).1 member
      exact Or.inr ⟨column, inKey, some_, holds⟩
    · rintro (wordless | ⟨column, inKey, some_, holds⟩) clause held
      · obtain ⟨ts, member⟩ := List.exists_mem_of_ne_nil _ none_
        obtain ⟨column, inKey, rfl, some_⟩ := (mem_alternatives ts).1 member
        exact absurd (wordless column inKey) some_
      · obtain rfl := Option.some.inj held
        exact Clause.outcome_eq_true_iff.2
          ⟨_, (mem_alternatives _).2 ⟨column, inKey, rfl, some_⟩, holds⟩

/-! ## Selections -/

/-- **A row is wanted when every filter admits it**, and every clause of the service. -/
theorem wants_ofParameters_iff (resource : Resource) (parameters : Parameters) :
    (Selection.ofParameters resource parameters).wants db schema row = true ↔
      (∀ filter ∈ parameters.filters, isUsable resource.filterable filter.1 = true →
        Filter.Admits (RowTest.ofResource resource) (RowTest.Holds db schema row) filter.1
          filter.2) ∧
      ∀ custom ∈ parameters.custom,
        customOutcome db schema row custom.1 custom.2 = some true := by
  unfold Selection.wants Selection.outcome
  rw [beq_iff_eq, allOf_eq_true_iff, List.forall_mem_append, List.forall_mem_map,
    List.forall_mem_map]
  refine and_congr ?_ Iff.rfl
  have clauses : (Selection.ofParameters resource parameters).clauses =
      parameters.filters.filterMap fun filter =>
        if isUsable resource.filterable filter.1 then
          Clause.compile (RowTest.ofResource resource) filter.1 filter.2
        else none := rfl
  rw [clauses]
  constructor
  · intro all filter member usable
    refine (outcome_compile_iff _ _ _).1 fun clause held => all clause ?_
    exact List.mem_filterMap.2 ⟨filter, member, by rw [if_pos usable]; exact held⟩
  · intro all clause member
    obtain ⟨filter, inFilters, held⟩ := List.mem_filterMap.1 member
    split at held
    · rename_i usable
      exact (outcome_compile_iff _ _ _).2 (all filter inFilters usable) clause held
    · cases held

end CatalogListing
