/-
# Proofs.Filter.Placement -- where the tests of a condition stand

The text of a condition is the fragments of its tests with brackets and connectives
between them, and its parameters are theirs, whatever a renderer makes of a condition.

* `predicateOf_laid`: the fragments stand in the order of the tests;
* `flatMap_tests_compileAll`: the tests are those that the filters ask for, in the order
  of keys, columns and values, without those that the renderer drops.
-/
import Mathlib.Data.List.Basic
import CatalogListing.Proofs.Filter.ReadBack
import CatalogListing.Proofs.Sql.Layout

namespace CatalogListing.Filter

set_option autoImplicit false

open Sql (Fragment Parameter Laid Glue)

variable {α : Type}

/-! ## The tests of clauses -/

/-- The tests of a clause in the order of its text. -/
def Clause.tests (clause : Clause α) : List α :=
  clause.alternatives.flatten

/-- The tests that filters ask for, in the order of keys, columns and values. -/
def requested (render : Renderer α) (allowed : List Text) (filters : Filters) : List α :=
  filters.flatMap fun filter =>
    if isUsable allowed filter.1 then
      (columnsOf filter.1).flatMap (tests render (filter.2.filterMap classify))
    else []

theorem flatten_filter_nonempty (lists : List (List α)) :
    (lists.filter fun list => !list.isEmpty).flatten = lists.flatten := by
  induction lists with
  | nil => rfl
  | cons list rest ih => cases list <;> simp [ih]

theorem flatMap_tests_compile (render : Renderer α) (key : Text) (values : List Text) :
    (Clause.compile render key values).toList.flatMap Clause.tests =
      (columnsOf key).flatMap (tests render (values.filterMap classify)) := by
  have kept := flatten_filter_nonempty
    ((columnsOf key).map (tests render (values.filterMap classify)))
  have flat : (columnsOf key).flatMap (tests render (values.filterMap classify)) =
      ((columnsOf key).map (tests render (values.filterMap classify))).flatten := List.flatMap_def
  rw [flat, ← kept]
  simp only [Clause.compile]
  split
  · rename_i nothing
    rw [List.isEmpty_iff.1 nothing]
    rfl
  · simp [Clause.tests]

/-- The tests of compiled filters are those that the filters ask for. -/
theorem flatMap_tests_compileAll (render : Renderer α) (allowed : List Text)
    (filters : Filters) :
    (compileAll render allowed filters).flatMap Clause.tests =
      requested render allowed filters := by
  rw [compileAll, List.filterMap_eq_flatMap_toList, List.flatMap_assoc, requested]
  congr 1
  funext filter
  change (if isUsable allowed filter.1 then Clause.compile render filter.1 filter.2
    else none).toList.flatMap Clause.tests = _
  by_cases usable : isUsable allowed filter.1 = true
  · rw [if_pos usable, if_pos usable]
    exact flatMap_tests_compile render filter.1 filter.2
  · rw [if_neg usable, if_neg usable]
    rfl

/-- The tests that filters ask for are what their values ask of their columns. -/
theorem mem_requested_iff {render : Renderer α} {allowed : List Text} {filters : Filters}
    {test : α} :
    test ∈ requested render allowed filters ↔
      ∃ key values column value condition, (key, values) ∈ filters ∧
        isUsable allowed key = true ∧ column ∈ columnsOf key ∧ value ∈ values ∧
        classify value = some condition ∧ render column condition = some test := by
  constructor
  · intro member
    obtain ⟨⟨key, values⟩, filterMember, fromFilter⟩ := List.mem_flatMap.1 member
    by_cases usable : isUsable allowed key = true
    · rw [if_pos usable] at fromFilter
      obtain ⟨column, columnMember, fromColumn⟩ := List.mem_flatMap.1 fromFilter
      obtain ⟨condition, conditionMember, rendered⟩ := List.mem_filterMap.1 fromColumn
      obtain ⟨value, valueMember, form⟩ := List.mem_filterMap.1 conditionMember
      exact ⟨key, values, column, value, condition, filterMember, usable, columnMember,
        valueMember, form, rendered⟩
    · rw [if_neg usable] at fromFilter
      cases fromFilter
  · rintro ⟨key, values, column, value, condition, filter, usable, named, among, form, rendered⟩
    refine List.mem_flatMap.2 ⟨(key, values), filter, ?_⟩
    rw [if_pos usable]
    exact List.mem_flatMap.2 ⟨column, named, List.mem_filterMap.2
      ⟨condition, List.mem_filterMap.2 ⟨value, among, form⟩, rendered⟩⟩

/-! ## Their places -/

theorem glue_and : Glue " AND " := by decide

theorem glue_or : Glue " OR " := by decide

theorem conjunction_laid (grouped : Bool) (fragments : List Fragment) :
    Laid Fragment.sql (conjunction grouped (fragments.map (·.sql))) fragments := by
  let layouts : List (Text × List Fragment) := fragments.map fun one => (one.sql, [one])
  have laid : ∀ layout ∈ layouts, Laid Fragment.sql layout.1 layout.2 := by
    intro layout member
    obtain ⟨one, -, rfl⟩ := List.mem_map.1 member
    exact .single one
  have joined := Laid.intercalate glue_and laid
  have texts : layouts.map (·.1) = fragments.map (·.sql) := by simp [layouts]
  have parts : layouts.flatMap (·.2) = fragments := by
    simp [layouts, List.flatMap_map]
  rw [texts, parts] at joined
  cases grouped with
  | true => exact joined.parenthesized
  | false => exact joined

theorem disjunction_laid {layouts : List (Text × List Fragment)}
    (laid : ∀ layout ∈ layouts, Laid Fragment.sql layout.1 layout.2) :
    Laid Fragment.sql (disjunction (layouts.map (·.1))) (layouts.flatMap (·.2)) := by
  have joined := Laid.intercalate glue_or laid
  match layouts, laid with
  | [], _ => exact joined.parenthesized
  | [one], laid => simpa [disjunction] using laid one List.mem_cons_self
  | first :: second :: rest, _ => exact joined.parenthesized

theorem Clause.laid (fragment : α → Fragment) (clause : Clause α) :
    Laid Fragment.sql (clause.sql fragment) (clause.tests.map fragment) := by
  let layouts : List (Text × List Fragment) := clause.alternatives.map fun tests =>
    (conjunction clause.grouped ((tests.map fragment).map (·.sql)), tests.map fragment)
  have laid : ∀ layout ∈ layouts, Laid Fragment.sql layout.1 layout.2 := by
    intro layout member
    obtain ⟨tests, -, rfl⟩ := List.mem_map.1 member
    exact conjunction_laid _ _
  have joined := disjunction_laid laid
  have parts : layouts.flatMap (·.2) = clause.tests.map fragment := by
    simp [layouts, Clause.tests, List.map_flatten, List.flatMap_def, Function.comp_def]
  have texts : disjunction (layouts.map (·.1)) = clause.sql fragment := by
    simp [layouts, Clause.sql, Function.comp_def]
  rwa [texts, parts] at joined

theorem Clause.parameters_eq (fragment : α → Fragment) (clause : Clause α) :
    clause.parameters fragment =
      (clause.tests.map fragment).flatMap fun one => one.parameter.toList := by
  rw [Clause.parameters, Clause.tests, List.flatMap_map, List.filterMap_eq_flatMap_toList]

/-- **The tests of a condition stand in their order**, and so do its parameters. -/
theorem predicateOf_laid (fragment : α → Fragment) (clauses : List (Clause α)) :
    Laid Fragment.sql (predicateOf fragment clauses).condition
        ((clauses.flatMap Clause.tests).map fragment) ∧
      (predicateOf fragment clauses).parameters =
        ((clauses.flatMap Clause.tests).map fragment).flatMap fun one => one.parameter.toList := by
  let layouts : List (Text × List Fragment) := clauses.map fun clause =>
    (clause.sql fragment, clause.tests.map fragment)
  have laid : ∀ layout ∈ layouts, Laid Fragment.sql layout.1 layout.2 := by
    intro layout member
    obtain ⟨clause, -, rfl⟩ := List.mem_map.1 member
    exact clause.laid fragment
  have joined := Laid.intercalate glue_and laid
  have texts : layouts.map (·.1) = clauses.map (·.sql fragment) := by
    simp [layouts, Function.comp_def]
  have parts : layouts.flatMap (·.2) = (clauses.flatMap Clause.tests).map fragment := by
    rw [List.flatMap_map, List.map_flatMap]
  rw [texts, parts] at joined
  refine ⟨joined, ?_⟩
  simp only [predicateOf, Clause.parameters_eq, List.map_flatMap, List.flatMap_assoc]

end CatalogListing.Filter
