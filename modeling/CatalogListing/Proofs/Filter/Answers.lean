/-
# Proofs.Filter.Answers -- conditions for any renderer

A renderer is called with every condition on every column of a key, and answers with a
fragment or drops the call.  Of a renderer nothing is known here but its fragments: each is
some text with partners for all of its backticks, and has a placeholder exactly when it has
a parameter (`Fragment.Fits`).

The condition is laid out from the answers in the order of the calls, whatever calls are
dropped (`Gathers`):

* `Clause.gathers_compile`: for a single key;
* `gathers_compileAll`: for all keys;
* `renderer_parameters_stand_with_fragments`: both, with the case that nothing is answered.
-/
import CatalogListing.Proofs.Select.Plan

namespace CatalogListing

set_option autoImplicit false

open Sql (Fragment Parameter Predicate Laid Balanced backtick positions countPlaceholders)

/-- What is known of a fragment of any renderer. -/
structure Sql.Fragment.Fits (one : Fragment) : Prop where
  nonempty : one.sql ≠ []
  closed : Even (one.sql.count backtick)
  marks : countPlaceholders false one.sql = if one.parameter.isSome then 1 else 0

theorem Sql.Fragment.Fits.balanced {one : Fragment} (fits : one.Fits) :
    Balanced one.sql one.parameter.toList.length := by
  refine ⟨fits.closed, ?_⟩
  rw [fits.marks]
  cases one.parameter <;> rfl

theorem Sql.Fragment.filterMap_parameter (fragments : List Fragment) :
    fragments.filterMap Fragment.parameter =
      fragments.flatMap fun one => one.parameter.toList :=
  List.filterMap_eq_flatMap_toList ..

namespace Filter

variable {α : Type}

/-! ## Calls -/

/-- The calls of a renderer for a key, in order: every condition on every column. -/
def calls (key : Text) (values : List Text) : List ColumnTest :=
  (columnsOf key).flatMap fun column => (values.filterMap classify).map (ColumnTest.mk column)

/-- The calls of a renderer for all keys that are allowed or name alternatives. -/
def callsFor (allowed : List Text) (filters : Filters) : List ColumnTest :=
  filters.flatMap fun filter =>
    if isUsable allowed filter.1 then calls filter.1 filter.2 else []

/-- What a renderer makes of a call. -/
def Renderer.answer (render : Renderer α) (call : ColumnTest) : Option α :=
  render call.column call.condition

/-- The tests of a key are the answers to its calls. -/
theorem flatMap_tests_eq (render : Renderer α) (key : Text) (values : List Text) :
    (columnsOf key).flatMap (tests render (values.filterMap classify)) =
      (calls key values).filterMap render.answer := by
  rw [calls, List.filterMap_flatMap]
  refine List.flatMap_congr fun column _ => ?_
  rw [List.filterMap_map]
  rfl

/-- The tests of all keys are the answers to their calls. -/
theorem requested_eq (render : Renderer α) (allowed : List Text) (filters : Filters) :
    requested render allowed filters = (callsFor allowed filters).filterMap render.answer := by
  rw [requested, callsFor, List.filterMap_flatMap]
  refine List.flatMap_congr fun filter _ => ?_
  by_cases usable : isUsable allowed filter.1 = true
  · rw [if_pos usable, if_pos usable]
    exact flatMap_tests_eq render filter.1 filter.2
  · rw [if_neg usable, if_neg usable]
    rfl

/-! ## Clauses are made of answers -/

/-- A clause has a test. -/
theorem Clause.tests_ne_nil {render : Renderer α} {key : Text} {values : List Text}
    {clause : Clause α} (compiled : Clause.compile render key values = some clause) :
    clause.tests ≠ [] := by
  unfold Clause.compile at compiled
  dsimp only at compiled
  split at compiled
  · cases compiled
  · rename_i some_
    obtain rfl := Option.some.inj compiled
    obtain ⟨first, rest, whole⟩ := List.exists_cons_of_ne_nil fun nothing =>
      some_ (List.isEmpty_iff.2 nothing)
    have kept := (List.mem_filter.1 (whole ▸ List.mem_cons_self)).2
    rw [Bool.not_eq_true', List.isEmpty_eq_false_iff] at kept
    rw [Clause.tests, whole, List.flatten_cons]
    exact List.append_ne_nil_of_left_ne_nil kept _

theorem Clause.tests_of_compile {render : Renderer α} {key : Text} {values : List Text}
    {clause : Clause α} (compiled : Clause.compile render key values = some clause) :
    clause.tests = (calls key values).filterMap render.answer := by
  have tests := flatMap_tests_compile render key values
  rw [compiled, flatMap_tests_eq] at tests
  simpa using tests

/-- A key has no clause exactly when all of its calls are dropped. -/
theorem Clause.compile_eq_none_iff (render : Renderer α) (key : Text) (values : List Text) :
    Clause.compile render key values = none ↔ ∀ call ∈ calls key values, render.answer call = none
      := by
  rw [← List.filterMap_eq_nil_iff, ← flatMap_tests_eq, ← flatMap_tests_compile]
  cases compiled : Clause.compile render key values with
  | none => exact ⟨fun _ => rfl, fun _ => rfl⟩
  | some clause =>
      refine ⟨fun same => (nomatch same), fun nothing => ?_⟩
      exact absurd (by simpa using nothing) (Clause.tests_ne_nil compiled)

/-- No key has a clause exactly when all calls are dropped. -/
theorem compileAll_eq_nil_iff (render : Renderer α) (allowed : List Text) (filters : Filters) :
    compileAll render allowed filters = [] ↔
      ∀ call ∈ callsFor allowed filters, render.answer call = none := by
  rw [← List.filterMap_eq_nil_iff, ← requested_eq, ← flatMap_tests_compileAll]
  constructor
  · intro nothing
    rw [nothing]
    rfl
  · intro nothing
    rw [List.flatMap_eq_nil_iff] at nothing
    refine List.eq_nil_iff_forall_not_mem.2 fun clause member => ?_
    obtain ⟨filter, -, compiled⟩ := List.mem_filterMap.1 member
    split at compiled
    · exact Clause.tests_ne_nil compiled (nothing clause member)
    · cases compiled

/-! ## Predicates are gathered from answers -/

/-- The predicate is gathered from what calls are answered with: its backticks have partners,
it has a placeholder for each parameter, and each parameter was answered to the call in
whose fragment its placeholder stands.  The fragments of the calls before that one stand
before it, and those of the calls behind it stand behind it. -/
structure Gathers (calls : List ColumnTest) (answer : ColumnTest → Option Fragment)
    (predicate : Predicate) : Prop where
  closed : Even (predicate.condition.count backtick)
  count : predicate.placeholderCount = predicate.parameters.length
  parameters : predicate.parameters = (calls.filterMap answer).filterMap Fragment.parameter
  placed : ∀ i parameter, predicate.parameters[i]? = some parameter →
    ∃ earlier call later one left right offset,
      calls = earlier ++ call :: later ∧ answer call = some one ∧
      one.parameter = some parameter ∧
      i = ((earlier.filterMap answer).filterMap Fragment.parameter).length ∧
      predicate.condition = left ++ (one.sql ++ right) ∧
      Laid Fragment.sql left (earlier.filterMap answer) ∧
      Laid Fragment.sql right (later.filterMap answer) ∧
      positions false one.sql = [offset] ∧
      (positions false predicate.condition)[i]? = some (left.length + offset)
  empty : predicate.condition = [] ↔ ∀ call ∈ calls, answer call = none
  unbound : predicate.condition = [] → predicate.parameters = []

/-- The place of an element of what is kept of a list, in the list. -/
theorem exists_of_filterMap_eq_append {β γ : Type} {f : β → Option γ} {list : List β}
    {before after : List γ} {x : γ} (kept : list.filterMap f = before ++ x :: after) :
    ∃ earlier one later, list = earlier ++ one :: later ∧ f one = some x ∧
      earlier.filterMap f = before ∧ later.filterMap f = after := by
  obtain ⟨earlier, rest, rfl, rfl, rest_⟩ := List.filterMap_eq_append_iff.1 kept
  obtain ⟨dropped, one, later, rfl, none_, found, rfl⟩ := List.filterMap_eq_cons_iff.1 rest_
  refine ⟨earlier ++ dropped, one, later, by rw [List.append_assoc], found, ?_, rfl⟩
  rw [List.filterMap_append, List.filterMap_eq_nil_iff.2 none_, List.append_nil]

/-- **A predicate that is laid out from fitting answers is gathered from them.** -/
theorem Gathers.of_laid {calls : List ColumnTest} {answer : ColumnTest → Option Fragment}
    {predicate : Predicate} (fits : ∀ call one, answer call = some one → one.Fits)
    (laid : Laid Fragment.sql predicate.condition (calls.filterMap answer))
    (parameters : predicate.parameters =
      (calls.filterMap answer).flatMap fun one => one.parameter.toList)
    (nothing : (∀ call ∈ calls, answer call = none) → predicate.condition = []) :
    Gathers calls answer predicate := by
  have fitting : ∀ one ∈ calls.filterMap answer, one.Fits := by
    intro one member
    obtain ⟨call, -, answered⟩ := List.mem_filterMap.1 member
    exact fits call one answered
  have balanced : ∀ one ∈ calls.filterMap answer,
      Balanced one.sql one.parameter.toList.length :=
    fun one member => (fitting one member).balanced
  have whole := laid.balanced balanced
  have dropped : predicate.condition = [] ↔ ∀ call ∈ calls, answer call = none := by
    refine ⟨fun empty => List.filterMap_eq_nil_iff.1 ?_, nothing⟩
    refine List.eq_nil_iff_forall_not_mem.2 fun one member => ?_
    exact laid.ne_nil member (fitting one member).nonempty empty
  refine ⟨whole.closed, ?_, ?_, ?_, dropped, fun empty => ?_⟩
  · rw [Predicate.placeholderCount, whole.marks, parameters]
  · rw [parameters, Fragment.filterMap_parameter]
  · intro i parameter found
    rw [parameters] at found
    obtain ⟨before, one, after, left, right, j, offset, split, text, leftLaid, rightLaid, place,
      here, mark, position⟩ := Sql.exists_place laid balanced found
    obtain ⟨earlier, call, later, rfl, answered, rfl, rfl⟩ := exists_of_filterMap_eq_append split
    -- A fragment has one parameter at most, so it is the first.
    obtain ⟨same, rfl⟩ : one.parameter = some parameter ∧ j = 0 := by
      cases asked : one.parameter with
      | none => rw [asked] at here; cases here
      | some own =>
          rw [asked] at here
          cases j with
          | zero => exact ⟨here, rfl⟩
          | succ j => cases here
    refine ⟨earlier, call, later, one, left, right, offset, rfl, answered, same, ?_, text,
      leftLaid, rightLaid, ?_, position⟩
    · rw [place, Fragment.filterMap_parameter, Nat.add_zero]
    · have single : (positions false one.sql).length = 1 := by
        rw [Sql.length_positions, (fits call one answered).marks, same]
        rfl
      obtain ⟨only, isOnly⟩ := List.length_eq_one_iff.1 single
      rw [isOnly] at mark ⊢
      exact congrArg (fun x => [x]) (Option.some.inj mark)
  · rw [parameters, List.filterMap_eq_nil_iff.2 (dropped.1 empty)]
    rfl

section Renderer

variable {render : Renderer α} {fragment : α → Fragment}

/-- The fragment that a renderer answers a call with. -/
def fragmentOf (render : Renderer α) (fragment : α → Fragment) (call : ColumnTest) :
    Option Fragment :=
  (render.answer call).map fragment

theorem fragmentOf_eq_none_iff {call : ColumnTest} :
    fragmentOf render fragment call = none ↔ render.answer call = none :=
  Option.map_eq_none_iff

theorem filterMap_fragmentOf (calls : List ColumnTest) :
    calls.filterMap (fragmentOf render fragment) =
      (calls.filterMap render.answer).map fragment :=
  (List.map_filterMap ..).symm

theorem fits_of_fragmentOf
    (fits : ∀ column condition test, render column condition = some test → (fragment test).Fits)
    (call : ColumnTest) (one : Fragment) (answered : fragmentOf render fragment call = some one) :
    one.Fits := by
  obtain ⟨test, rendered, rfl⟩ := Option.map_eq_some_iff.1 answered
  exact fits _ _ test rendered

/-- The predicate of one key is gathered from the calls for that key. -/
theorem Clause.gathers_compile
    (fits : ∀ column condition test, render column condition = some test → (fragment test).Fits)
    {key : Text} {values : List Text} {clause : Clause α}
    (compiled : Clause.compile render key values = some clause) :
    Gathers (calls key values) (fragmentOf render fragment) (clause.predicate fragment) := by
  have tests : clause.tests.map fragment =
      (calls key values).filterMap (fragmentOf render fragment) := by
    rw [Clause.tests_of_compile compiled, filterMap_fragmentOf]
  refine Gathers.of_laid (fits_of_fragmentOf fits) ?_ ?_ fun nothing => ?_
  · rw [← tests]
    exact clause.laid fragment
  · rw [← tests]
    exact clause.parameters_eq fragment
  · have none_ := (Clause.compile_eq_none_iff render key values).2 fun call member =>
      fragmentOf_eq_none_iff.1 (nothing call member)
    cases compiled.symm.trans none_

/-- The predicate of all keys is gathered from all calls. -/
theorem gathers_compileAll
    (fits : ∀ column condition test, render column condition = some test → (fragment test).Fits)
    (allowed : List Text) (filters : Filters) :
    Gathers (callsFor allowed filters) (fragmentOf render fragment)
      (predicateOf fragment (compileAll render allowed filters)) := by
  obtain ⟨laid, parameters⟩ := predicateOf_laid fragment (compileAll render allowed filters)
  rw [flatMap_tests_compileAll, requested_eq, ← filterMap_fragmentOf] at laid parameters
  refine Gathers.of_laid (fits_of_fragmentOf fits) laid parameters fun nothing => ?_
  have none_ := (compileAll_eq_nil_iff render allowed filters).2 fun call member =>
    fragmentOf_eq_none_iff.1 (nothing call member)
  rw [none_]
  rfl

end Renderer

/-- **Every parameter stands with the fragment that it was answered with.** -/
theorem renderer_parameters_stand_with_fragments {α : Type} (render : Renderer α)
    (fragment : α → Fragment)
    (fits : ∀ column condition test,
      render column condition = some test → (fragment test).Fits) :
    (∀ (allowed : List Text) (filters : Filters),
      Gathers (callsFor allowed filters) (fragmentOf render fragment)
        (predicateOf fragment (compileAll render allowed filters))) ∧
    ∀ (key : Text) (values : List Text),
      (Clause.compile render key values = none ↔
        ∀ call ∈ calls key values, fragmentOf render fragment call = none) ∧
      ∀ clause, Clause.compile render key values = some clause →
        clause.sql fragment ≠ [] ∧
        Gathers (calls key values) (fragmentOf render fragment) (clause.predicate fragment) := by
  refine ⟨gathers_compileAll fits, fun key values => ⟨?_, fun clause compiled => ?_⟩⟩
  · simp only [fragmentOf_eq_none_iff]
    exact Clause.compile_eq_none_iff render key values
  · have gathers := Clause.gathers_compile fits compiled
    refine ⟨fun empty => ?_, gathers⟩
    have none_ := (Clause.compile_eq_none_iff render key values).2 fun call member =>
      fragmentOf_eq_none_iff.1 (gathers.empty.1 empty call member)
    cases compiled.symm.trans none_

/-- The fragments of the tests on a resource are of that kind. -/
theorem fits_rowTest {resource : Resource} {column : Text} {condition : Condition} {test : RowTest}
    (rendered : RowTest.ofResource resource column condition = some test) :
    test.fragment.Fits := by
  have balanced := (RowTest.sound rendered).balanced
  refine ⟨by cases test <;> exact List.cons_ne_nil _ _, balanced.closed, ?_⟩
  rw [balanced.marks]
  cases test.fragment.parameter <;> rfl

/-- A set on one column, and a search and a null test on three, one of them without an index
and one unknown. -/
def droppingFilters : Filters :=
  [("genre", ["\x7ba?,b\x7d"]), ("title||genre||we\x60ird?", ["m[dragon]m", "e@is not null@e"])]

/-- Of seven calls four are answered, two of them with a parameter. -/
theorem droppingFilters_keep_two_parameters :
    let render := RowTest.ofResource Catalog.books
    let predicate := predicateOf RowTest.fragment
      (compileAll render Catalog.books.filterable droppingFilters)
    (∀ column condition test, render column condition = some test → test.fragment.Fits) ∧
      ((callsFor Catalog.books.filterable droppingFilters).map
        fun call => (render.answer call).isSome) = [true, true, true, false, true, false, false] ∧
      predicate.parameters.length = 2 ∧ predicate.placeholderCount = 2 := by
  intro render predicate
  have fits : ∀ column condition test,
      render column condition = some test → test.fragment.Fits :=
    fun _ _ _ rendered => fits_rowTest rendered
  have gathers := (renderer_parameters_stand_with_fragments render RowTest.fragment fits).1
    Catalog.books.filterable droppingFilters
  have two : predicate.parameters.length = 2 := by decide +kernel
  exact ⟨fits, by decide +kernel, two, gathers.count.trans two⟩

end Filter

end CatalogListing
