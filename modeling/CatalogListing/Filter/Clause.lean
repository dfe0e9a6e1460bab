/-
# Filter.Clause -- the condition of a filter key

A filter key names one or more alternative columns (`a||b`), and each of its values
asks something of them.  The values of a key are joined by AND, its alternatives by
OR, and the keys by AND again.

A clause is that tree before it is text.  What stands at its leaves is left open: a
renderer says which test a condition becomes on a column, or that the column cannot
be tested so.  A column without any test is no alternative, and a key without
alternatives has no clause.
-/
import CatalogListing.Filter.Classify
import CatalogListing.Text.Blank

namespace CatalogListing.Filter

set_option autoImplicit false

open Sql (Parameter Fragment Predicate)

/-- Filter keys in order, with the values of each in the order they were supplied. -/
abbrev Filters := List (Text × List Text)

/-- The condition of one key: alternatives, each with its tests.  With more than one
value supplied, the tests of an alternative are `grouped` by parentheses. -/
structure Clause (α : Type) where
  grouped : Bool
  alternatives : List (List α)
  deriving DecidableEq, Repr

/-- A renderer of conditions on columns. -/
abbrev Renderer (α : Type) := Text → Condition → Option α

/-- The separator between alternative columns stands in the key. -/
def namesAlternatives (key : Text) : Bool :=
  Text.contains ['|', '|'] key

/-- The columns that a key names. -/
def columnsOf (key : Text) : List Text :=
  ((Text.piecesAtPair '|' '|' key).map Text.trim).filter fun column => !column.isEmpty

/-- The tests of conditions on one column. -/
def tests {α : Type} (render : Renderer α) (conditions : List Condition) (column : Text) : List α :=
  conditions.filterMap (render column)

/-- The clause of a key with its values, if anything usable is left. -/
def Clause.compile {α : Type} (render : Renderer α) (key : Text) (values : List Text) :
    Option (Clause α) :=
  let conditions := values.filterMap classify
  let alternatives := ((columnsOf key).map (tests render conditions)).filter fun ts => !ts.isEmpty
  if alternatives.isEmpty then none else some ⟨1 < values.length, alternatives⟩

/-- The clauses of all keys that are allowed or name alternatives. -/
def compileAll {α : Type} (render : Renderer α) (allowed : List Text) (filters : Filters) :
    List (Clause α) :=
  filters.filterMap fun filter =>
    if namesAlternatives filter.1 || allowed.contains filter.1 then
      Clause.compile render filter.1 filter.2
    else none

/-! ## The text of clauses -/

/-- A text between parentheses. -/
def parenthesized (text : Text) : Text :=
  '(' :: (text ++ [')'])

/-- The tests of one alternative. -/
def conjunction (grouped : Bool) (tests : List Text) : Text :=
  let joined := List.intercalate " AND " tests
  if grouped then parenthesized joined else joined

/-- Alternatives, between parentheses unless there is only one. -/
def disjunction : List Text → Text
  | [one] => one
  | alternatives => parenthesized (List.intercalate " OR " alternatives)

/-- The text of a clause. -/
def Clause.sql {α : Type} (fragment : α → Fragment) (clause : Clause α) : Text :=
  disjunction (clause.alternatives.map fun tests =>
    conjunction clause.grouped (tests.map fun test => (fragment test).sql))

/-- The parameters of a clause in the order of their placeholders. -/
def Clause.parameters {α : Type} (fragment : α → Fragment) (clause : Clause α) : List Parameter :=
  clause.alternatives.flatten.filterMap fun test => (fragment test).parameter

/-- A single clause as a predicate. -/
def Clause.predicate {α : Type} (fragment : α → Fragment) (clause : Clause α) : Predicate :=
  ⟨clause.sql fragment, clause.parameters fragment⟩

/-- The clauses of all keys as one predicate. -/
def predicateOf {α : Type} (fragment : α → Fragment) (clauses : List (Clause α)) : Predicate :=
  ⟨List.intercalate " AND " (clauses.map (·.sql fragment)),
    clauses.flatMap (·.parameters fragment)⟩

/-! ## Tests on named columns -/

/-- A condition on a column. -/
structure ColumnTest where
  column : Text
  condition : Condition
  deriving DecidableEq, Repr

/-- The test in SQL. -/
def ColumnTest.fragment (test : ColumnTest) : Fragment :=
  test.condition.fragment (Sql.quote test.column)

/-- Every condition on every column. -/
def anyColumn : Renderer ColumnTest :=
  fun column condition => some ⟨column, condition⟩

/-- Every condition on the known columns only. -/
def knownColumns (known : List Text) : Renderer ColumnTest :=
  fun column condition => if known.contains column then some ⟨column, condition⟩ else none

end CatalogListing.Filter
