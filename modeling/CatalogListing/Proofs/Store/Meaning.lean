/-
# Proofs.Store.Meaning -- conditions evaluated from what is run

The outcome of a condition told from its expanded text and the arguments bound to it, and from
nothing else: what is read of them is evaluated by the rules for values and unknowns
(`Expanded.outcome?`).

* `RowTest.outcome?_expand`: a test has the outcome of its SQL and the arguments bound to it;
* `Selection.outcome?_expand`: what a selection wants of a row is what the condition in its
  statements asks.
-/
import CatalogListing.Proofs.Select.BoundTest
import CatalogListing.Store.Scan

namespace CatalogListing

set_option autoImplicit false

open CatalogListing.Filter (Clause Condition Operand Tree)
open Sql (Expanded Parameter)

/-! ## Outcomes -/

namespace BoundTest

/-- The outcome of a test on a row.  A value is compared with a null as with an unknown, and
is in a list when it is the same as one of its elements. -/
def outcome (db : Database) (schema : Schema) (row : Row) : BoundTest → Option Bool
  | .compare column comparison argument =>
      let value := row.value schema column
      let operand := Scalar.ofArgument argument
      if value.isNull || operand.isNull then none
      else some (comparison.holds value (operand.operandFor (schema.affinityOf column)))
  | .like column argument =>
      match (row.value schema column).textForm?, (Scalar.ofArgument argument).textForm? with
      | some text, some pattern => some (Wildcard.matchesText pattern text)
      | _, _ => none
  | .member column negated arguments =>
      let value := row.value schema column
      let operands := arguments.map Scalar.ofArgument
      if value.isNull then none
      else if operands.any fun operand =>
          !operand.isNull && value.same (operand.operandFor (schema.affinityOf column)) then
        some (!negated)
      else if operands.any Scalar.isNull then none
      else some negated
  | .null column negated => some ((row.value schema column).isNull != negated)
  | .fullText _ _ => none
  | .indexed _ key _ _ argument =>
      match row.value schema key, Scalar.ofArgument argument with
      | .integer n, .text query => some (db.finds query n)
      | _, _ => none

end BoundTest

theorem allOf_singleton (outcome : Option Bool) : allOf [outcome] = outcome := by
  match outcome with
  | none | some true | some false => rfl

theorem anyOf_singleton (outcome : Option Bool) : anyOf [outcome] = outcome := by
  match outcome with
  | none | some true | some false => rfl

namespace Filter.Tree

variable {α : Type}

mutual

/-- The outcome of a condition from those of its tests. -/
def outcome (test : α → Option Bool) : Tree α → Option Bool
  | .leaf one => test one
  | .all parts => allOf (outcomes test parts)
  | .any parts => anyOf (outcomes test parts)

/-- The outcomes of conditions, in order. -/
def outcomes (test : α → Option Bool) : List (Tree α) → List (Option Bool)
  | [] => []
  | first :: rest => outcome test first :: outcomes test rest

end

theorem outcomes_eq_map (test : α → Option Bool) (trees : List (Tree α)) :
    outcomes test trees = trees.map (outcome test) := by
  induction trees with
  | nil => rfl
  | cons first rest ih => rw [outcomes, ih, List.map_cons]

theorem outcome_conjunction (test : α → Option Bool) (trees : List (Tree α)) :
    (conjunction trees).outcome test = allOf (trees.map (outcome test)) := by
  match trees with
  | [] => rfl
  | [one] => exact (allOf_singleton (one.outcome test)).symm
  | first :: second :: rest => exact congrArg allOf (outcomes_eq_map test _)

theorem outcome_disjunction (test : α → Option Bool) (trees : List (Tree α)) :
    (disjunction trees).outcome test = anyOf (trees.map (outcome test)) := by
  match trees with
  | [] => rfl
  | [one] => exact (anyOf_singleton (one.outcome test)).symm
  | first :: second :: rest => exact congrArg anyOf (outcomes_eq_map test _)

end Filter.Tree

/-- The outcome on a row of a condition that is run. -/
def Sql.Expanded.outcome? (expanded : Expanded) (db : Database) (schema : Schema) (row : Row) :
    Option (Option Bool) :=
  expanded.condition?.map (Tree.outcome (BoundTest.outcome db schema row))

/-! ## Tests -/

/-- A search finds rows by the key of the table. -/
def RowTest.FindsBy (key : Text) : RowTest → Prop
  | .column _ _ => True
  | .indexed _ name _ _ _ => name = key

section

variable {db : Database} {schema : Schema} {row : Row}

theorem Filter.Operand.ofArgument_argument (operand : Operand) :
    Scalar.ofArgument operand.argument = operand.scalar := by
  cases operand <;> rfl

theorem Filter.Operand.isNull_scalar (operand : Operand) : operand.scalar.isNull = false := by
  cases operand <;> rfl

/-- The outcome of a set on a value is that of its elements. -/
theorem outcome_member (name : Text) (negated : Bool) (items : List Text) :
    (BoundTest.member name negated (elementsOf items)).outcome db schema row =
      (Condition.member negated items).outcome (schema.affinityOf name)
        (row.value schema name) := by
  simp only [BoundTest.outcome, Condition.outcome]
  generalize row.value schema name = value
  generalize schema.affinityOf name = affinity
  by_cases null : value.isNull = true
  · rw [if_pos null, if_pos (by rw [null]; rfl)]
  · cases items with
    | nil => simp [elementsOf, Scalar.ofArgument, Scalar.isNull]
    | cons first rest =>
        have operands : (elementsOf (first :: rest)).map Scalar.ofArgument =
            (first :: rest).map .text := by
          simp [elementsOf, Scalar.ofArgument]
        have known : ((first :: rest).map Scalar.text).any Scalar.isNull = false := by
          simp [Scalar.isNull]
        have found : ((first :: rest).map Scalar.text).any (fun operand =>
              !operand.isNull && value.same (operand.operandFor affinity)) =
            (first :: rest).any fun item => value.same ((Scalar.text item).operandFor affinity) := by
          simp [List.any_map, Function.comp_def, Scalar.isNull]
        have some_ : ¬ (value.isNull || (first :: rest).isEmpty) = true := by simpa using null
        rw [if_neg null, if_neg some_, operands, known, found]
        generalize (first :: rest).any _ = among
        cases among <;> cases negated <;> rfl

/-- The outcome of a test is that of what it is run as. -/
theorem RowTest.outcome_bound {test : RowTest} (finds : test.FindsBy schema.key) :
    test.bound.outcome db schema row = test.outcome db schema row := by
  cases test with
  | column name condition =>
      cases condition with
      | compare comparison operand =>
          simp [bound, BoundTest.outcome, outcome, Condition.outcome,
            operand.ofArgument_argument, operand.isNull_scalar]
      | like pattern =>
          simp only [bound, BoundTest.outcome, outcome, Condition.outcome, Scalar.ofArgument]
          cases (row.value schema name).textForm? <;> rfl
      | member negated items => exact outcome_member name negated items
      | null negated => rfl
      | fullText words => rfl
  | indexed table key index name query =>
      have own : row.value schema key = .integer row.key := if_pos finds
      simp [bound, BoundTest.outcome, outcome, own, Scalar.ofArgument]

/-- **The outcome of a test is that of its SQL** with the arguments bound to it. -/
theorem RowTest.outcome?_expand {test : RowTest} (finds : test.FindsBy schema.key) :
    test.fragment.expand.outcome? db schema row = some (test.outcome db schema row) := by
  have read : test.fragment.expand.condition? = some (.leaf test.bound) := test.means.condition?_eq
  rw [Sql.Expanded.outcome?, read, Option.map_some, Tree.outcome, outcome_bound finds]

end

/-! ## Clauses -/

theorem Filter.Clause.outcome_tree {db : Database} {schema : Schema} {row : Row}
    {clause : Clause RowTest}
    (finds : ∀ tests ∈ clause.alternatives, ∀ test ∈ tests, test.FindsBy schema.key) :
    clause.tree.outcome (BoundTest.outcome db schema row) = clause.outcome db schema row := by
  rw [tree, Tree.outcome_disjunction, List.map_map, outcome]
  congr 1
  refine List.map_congr_left fun tests member => ?_
  rw [Function.comp_apply, Tree.outcome_conjunction, List.map_map]
  congr 1
  refine List.map_congr_left fun test among => ?_
  exact RowTest.outcome_bound (finds tests member test among)

/-- The outcome of clauses is that of what is run. -/
theorem outcome?_expand_predicateOf {db : Database} {schema : Schema} {row : Row}
    {clauses : List (Clause RowTest)} (formed : ∀ clause ∈ clauses, clause.Formed)
    (finds : ∀ clause ∈ clauses, ∀ tests ∈ clause.alternatives, ∀ test ∈ tests,
      test.FindsBy schema.key) :
    (Filter.predicateOf RowTest.fragment clauses).expand.outcome? db schema row =
      some (allOf (clauses.map (Clause.outcome db schema row))) := by
  rw [Sql.Expanded.outcome?, condition?_expand_predicateOf formed, Option.map_some,
    Tree.outcome_conjunction, List.map_map]
  congr 2
  exact List.map_congr_left fun clause member => Clause.outcome_tree (finds clause member)

/-! ## Selections -/

section

variable {schema : Schema}

/-- The test that the clause of a service is evaluated as has its SQL and its parameters. -/
theorem fragment_of_customTest? {clause : Text} {parameters : List Parameter} {test : RowTest}
    (known : customTest? schema clause parameters = some test) :
    test.fragment.sql = clause ∧ test.fragment.parameter.toList = parameters ∧
      test.FindsBy schema.key := by
  obtain ⟨operand, isOperand, found⟩ := Option.bind_eq_some_iff.1 known
  have bound : [operand.parameter] = parameters := by
    unfold operandOf? at isOperand
    split at isOperand
    · obtain rfl := Option.some.inj isOperand
      rfl
    · obtain rfl := Option.some.inj isOperand
      rfl
    · cases isOperand
  have same : test.fragment.sql = clause := by simpa using List.find?_some found
  obtain ⟨column, -, among⟩ := List.mem_flatMap.1 (List.mem_of_find?_eq_some found)
  obtain ⟨comparison, -, rfl⟩ := List.mem_map.1 among
  exact ⟨same, bound, trivial⟩

/-- The clauses of a service, each a single test between parentheses. -/
def ownClauses (schema : Schema) (custom : Keyed (List Parameter)) : List (Clause RowTest) :=
  custom.filterMap fun entry =>
    (customTest? schema entry.1 entry.2).map fun test => ⟨true, [[test]]⟩

theorem mem_ownClauses {custom : Keyed (List Parameter)} {clause : Clause RowTest}
    (member : clause ∈ ownClauses schema custom) :
    clause.Formed ∧ ∀ tests ∈ clause.alternatives, ∀ test ∈ tests, test.FindsBy schema.key := by
  obtain ⟨entry, -, mapped⟩ := List.mem_filterMap.1 member
  obtain ⟨test, known, rfl⟩ := Option.map_eq_some_iff.1 mapped
  obtain ⟨-, -, finds⟩ := fragment_of_customTest? known
  exact ⟨⟨by simp, by simp, nofun⟩, by simpa using finds⟩

/-- The database knows the clauses of a service as tests. -/
def KnownClauses (schema : Schema) (custom : Keyed (List Parameter)) : Prop :=
  ∀ entry ∈ custom, (customTest? schema entry.1 entry.2).isSome = true

variable {custom : Keyed (List Parameter)}

theorem ownClauses_cons {entry : Text × List Parameter}
    (known : KnownClauses schema (entry :: custom)) :
    ∃ test, customTest? schema entry.1 entry.2 = some test ∧
      ownClauses schema (entry :: custom) = ⟨true, [[test]]⟩ :: ownClauses schema custom := by
  obtain ⟨test, isTest⟩ := Option.isSome_iff_exists.1 (known entry List.mem_cons_self)
  exact ⟨test, isTest, List.filterMap_cons_some (by rw [isTest]; rfl)⟩

/-- The clauses of a service have its SQL, its parameters and its outcomes. -/
theorem ownClauses_eq (known : KnownClauses schema custom) (db : Database) (row : Row) :
    (ownClauses schema custom).map (Clause.sql RowTest.fragment) =
        (custom.map fun entry => Filter.parenthesized entry.1) ∧
      (ownClauses schema custom).flatMap (Clause.parameters RowTest.fragment) =
        (custom.flatMap fun entry => entry.2) ∧
      (ownClauses schema custom).map (Clause.outcome db schema row) =
        custom.map fun entry => customOutcome db schema row entry.1 entry.2 := by
  induction custom with
  | nil => exact ⟨rfl, rfl, rfl⟩
  | cons entry rest ih =>
      obtain ⟨sql, parameters, outcomes⟩ := ih fun other member =>
        known other (List.mem_cons_of_mem _ member)
      obtain ⟨test, isTest, whole⟩ := ownClauses_cons known
      obtain ⟨same, bound, -⟩ := fragment_of_customTest? isTest
      have text : Clause.sql RowTest.fragment ⟨true, [[test]]⟩ =
          Filter.parenthesized entry.1 := by
        rw [← same]
        simp [Clause.sql, Filter.disjunction, Filter.conjunction]
      have arguments : Clause.parameters RowTest.fragment ⟨true, [[test]]⟩ = entry.2 := by
        rw [Clause.parameters_eq, ← bound]
        simp [Clause.tests]
      have outcome : Clause.outcome db schema row ⟨true, [[test]]⟩ =
          customOutcome db schema row entry.1 entry.2 := by
        rw [customOutcome, isTest, Option.bind_some]
        exact (anyOf_singleton _).trans (allOf_singleton _)
      simp only [whole, List.map_cons, List.flatMap_cons, sql, parameters, outcomes, text,
        arguments, outcome, and_self]

/-- A text that is joined already may be joined further. -/
theorem intercalate_cons_intercalate (separator : Text) {first : List Text} (some_ : first ≠ [])
    (rest : List Text) :
    List.intercalate separator (List.intercalate separator first :: rest) =
      List.intercalate separator (first ++ rest) := by
  induction first with
  | nil => exact absurd rfl some_
  | cons one others ih =>
      cases others with
      | nil => rw [List.intercalate_singleton, List.singleton_append]
      | cons second more =>
          have later := ih (List.cons_ne_nil second more)
          cases rest with
          | nil => rw [List.intercalate_singleton, List.append_nil]
          | cons third behind =>
              rw [List.intercalate_cons_cons] at later
              rw [List.intercalate_cons_cons, List.intercalate_cons_cons, List.cons_append,
                List.cons_append, List.intercalate_cons_cons, ← List.cons_append, ← later]
              simp only [List.append_assoc]

theorem condition_ne_nil {clauses : List (Clause RowTest)} (some_ : clauses ≠ [])
    (formed : ∀ clause ∈ clauses, clause.Formed) :
    (Filter.predicateOf RowTest.fragment clauses).condition ≠ [] := by
  obtain ⟨laid, -⟩ := Filter.predicateOf_laid RowTest.fragment clauses
  obtain ⟨clause, member⟩ := List.exists_mem_of_ne_nil _ some_
  obtain ⟨ts, among⟩ := List.exists_mem_of_ne_nil _ (formed clause member).nonempty
  obtain ⟨test, inTests⟩ := List.exists_mem_of_ne_nil _ ((formed clause member).each ts among)
  have asked : test.fragment ∈ (clauses.flatMap Clause.tests).map RowTest.fragment :=
    List.mem_map_of_mem (List.mem_flatMap.2 ⟨clause, member, List.mem_flatten.2 ⟨ts, among, inTests⟩⟩)
  refine laid.ne_nil asked ?_
  cases test <;> exact List.cons_ne_nil _ _

/-- The condition of a selection is that of its clauses and those of the service. -/
theorem Selection.predicate_eq {selection : Selection}
    (formed : ∀ clause ∈ selection.clauses, clause.Formed)
    (known : KnownClauses schema selection.custom) :
    selection.predicate =
      Filter.predicateOf RowTest.fragment
        (selection.clauses ++ ownClauses schema selection.custom) := by
  obtain ⟨sql, bound, -⟩ := ownClauses_eq known {} ⟨0, []⟩
  have parameters : selection.predicate.parameters = (selection.clauses ++
      ownClauses schema selection.custom).flatMap (Clause.parameters RowTest.fragment) := by
    rw [List.flatMap_append, bound]
    rfl
  have text : selection.predicate.condition = List.intercalate " AND " ((selection.clauses ++
      ownClauses schema selection.custom).map (Clause.sql RowTest.fragment)) := by
    rw [List.map_append, sql, Selection.predicate]
    by_cases nothing : selection.clauses = []
    · rw [nothing]
      rfl
    · have joined := condition_ne_nil nothing formed
      have filtered : ¬ (Filter.predicateOf RowTest.fragment selection.clauses).isEmpty = true := by
        simpa [Sql.Predicate.isEmpty] using joined
      simp only [if_neg filtered]
      exact intercalate_cons_intercalate " AND " (by simpa using nothing) _
  exact congr (congrArg Sql.Predicate.mk text) parameters

end

/-- **What a selection wants is what its statements ask.**  Evaluated from its expanded text and
the arguments bound to it, the condition has the outcome of the selection on every row. -/
theorem Selection.outcome?_expand {db : Database} {schema : Schema} {row : Row}
    {selection : Selection} (formed : ∀ clause ∈ selection.clauses, clause.Formed)
    (finds : ∀ test ∈ selection.tests, test.FindsBy schema.key)
    (known : KnownClauses schema selection.custom) :
    selection.predicate.expand.outcome? db schema row = some (selection.outcome db schema row) := by
  obtain ⟨-, -, outcomes⟩ := ownClauses_eq known db row
  rw [predicate_eq formed known, outcome?_expand_predicateOf, List.map_append, outcomes, outcome]
  · intro clause member
    rcases List.mem_append.1 member with filter | own
    · exact formed clause filter
    · exact (mem_ownClauses own).1
  · intro clause member ts among test inTests
    rcases List.mem_append.1 member with filter | own
    · exact finds test (List.mem_flatMap.2 ⟨clause, filter, List.mem_flatten.2 ⟨ts, among, inTests⟩⟩)
    · exact (mem_ownClauses own).2 ts among test inTests

/-! ## Parameters of a request -/

/-- A search for the rows of a resource finds them by their key. -/
theorem RowTest.findsBy_of_ofResource {resource : Resource} {column : Text}
    {condition : Condition} {test : RowTest}
    (rendered : RowTest.ofResource resource column condition = some test) :
    test.FindsBy resource.primaryKey := by
  simp only [RowTest.ofResource] at rendered
  split at rendered
  · cases rendered
  · split at rendered
    · split at rendered
      · obtain rfl := Option.some.inj rendered
        rfl
      · cases rendered
    · obtain rfl := Option.some.inj rendered
      trivial

/-- The clauses of a service aside, what is asked for a resource is what its rows are tested
for. -/
theorem Selection.outcome?_expand_ofParameters {db : Database} {schema : Schema} {row : Row}
    {resource : Resource} {parameters : Parameters} (keyed : schema.key = resource.primaryKey)
    (known : KnownClauses schema parameters.custom) :
    let selection := Selection.ofParameters resource parameters
    selection.predicate.expand.outcome? db schema row = some (selection.outcome db schema row) := by
  intro selection
  refine outcome?_expand (fun clause member => ?_) (fun test member => ?_) known
  · obtain ⟨filter, -, compiled⟩ := List.mem_filterMap.1 member
    split at compiled
    · exact Clause.formed_of_compile compiled
    · cases compiled
  · have asked : test ∈ Filter.requested (RowTest.ofResource resource) resource.filterable
        parameters.filters := by
      rw [← Filter.flatMap_tests_compileAll]
      exact member
    obtain ⟨_, _, _, _, _, -, -, -, -, -, rendered⟩ := Filter.mem_requested_iff.1 asked
    rw [keyed]
    exact RowTest.findsBy_of_ofResource rendered

end CatalogListing
