/-
# Store.Scan -- how a database goes through rows

A condition settles which rows a statement is about, and its terms settle their order.  Two
things are left to the database: the order of rows that tie in every term, and which tests
it comes to run, since an index may find the rows and a row is tested no further once its
outcome is known.  A `Scan` is one way of doing both.

* `Selection.reached`: the tests that are run, of which none is foreign to the selection;
* `Scan.plain`: rows by their keys, tests as they are written.
-/
import CatalogListing.Store.Match

namespace CatalogListing

set_option autoImplicit false

open CatalogListing.Filter (Condition Clause)

/-- A way of going through the rows of a table. -/
structure Scan where
  /-- One row comes by before another. -/
  before : Selection → Table → Row → Row → Bool
  /-- The tests that are run, in order, where each has an outcome on each row. -/
  run : Selection → Table → (Row → RowTest → Option Bool) → List RowTest

/-! ## What is run -/

/-- The test searches a full-text index. -/
def RowTest.isSearch : RowTest → Bool
  | .column .. => false
  | .indexed .. => true

/-- The clause without parentheses around the tests of its alternatives. -/
def Filter.Clause.ungrouped {α : Type} (clause : Clause α) : Clause α :=
  { clause with grouped := false }

namespace Selection

/-- Every test of the filters. -/
def tests (selection : Selection) : List RowTest :=
  selection.clauses.flatMap fun clause => clause.alternatives.flatten

/-- The selection without parentheses around the tests of its alternatives, which is all
that a database sees of it. -/
def ungrouped (selection : Selection) : Selection :=
  { selection with clauses := selection.clauses.map Clause.ungrouped }

/-- The tests that are run on a table.  A search that is the whole condition finds the
rows, so it is run even if there are none. -/
def reached (selection : Selection) (scan : Scan) (db : Database) (table : Table) :
    List RowTest :=
  match selection.tests, selection.custom with
  | [.indexed own key index name query], [] => [.indexed own key index name query]
  | tests, _ =>
      (scan.run selection.ungrouped table fun row test => test.outcome db table.schema row).filter
        tests.contains

end Selection

/-! ## Tests as they are written -/

namespace Scan

variable (outcome : RowTest → Option Bool)

/-- Tests one after the other, up to the first that is not true. -/
def runAll : List RowTest → List RowTest
  | [] => []
  | test :: rest => test :: if outcome test == some true then runAll rest else []

/-- Alternatives one after the other, up to the first that is true. -/
def runAny : List (List RowTest) → List RowTest
  | [] => []
  | tests :: rest =>
      runAll outcome tests ++
        if allOf (tests.map outcome) == some true then [] else runAny rest

/-- Clauses one after the other, up to the first that is not true. -/
def runClauses : List (Clause RowTest) → List RowTest
  | [] => []
  | clause :: rest =>
      runAny outcome clause.alternatives ++
        if anyOf (clause.alternatives.map fun tests => allOf (tests.map outcome)) == some true then
          runClauses rest
        else []

end Scan

/-- The condition is an equality. -/
def Filter.Condition.isEquality : Condition → Bool
  | .compare .equal _ => true
  | .member false [_] => true
  | _ => false

/-- The test is true of at most one row, which is looked up: it is an equality on the key
or on a unique column. -/
def RowTest.looksUp (schema : Schema) : RowTest → Bool
  | .column name condition =>
      condition.isEquality &&
        (name == schema.key || schema.columns.any fun column => column.name == name && column.unique)
  | .indexed .. => false

/-- The tests that hold of every row that is wanted, because no alternative stands beside
them. -/
def Selection.ownTests (selection : Selection) : List RowTest :=
  selection.clauses.flatMap fun clause =>
    match clause.alternatives with
    | [tests] => tests
    | _ => []

/-- Rows come by in the order of their keys, and their tests are run as they are written.
A row that can be looked up is the only one; otherwise searches are run before any row
comes by. -/
def Scan.plain : Scan where
  before _ _ x y := x.key ≤ y.key
  run selection table outcome :=
    match selection.ownTests.find? (RowTest.looksUp table.schema) with
    | some test =>
        (table.rows.filter fun row => outcome row test == some true).flatMap fun row =>
          runClauses (outcome row) selection.clauses
    | none =>
        selection.ownTests.filter RowTest.isSearch ++
          table.rows.flatMap fun row => runClauses (outcome row) selection.clauses

end CatalogListing
