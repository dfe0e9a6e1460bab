/-
# Select.Plan -- the statements of one listing

A selection says which rows of a resource a request wants: the clauses of its filters
and of the service, the order, and the page.  Its plan is the SQL that asks for them:
one statement for the page and one that counts all matching rows, with the same
arguments in their conditions.

Ordering is limited to the sortable fields of the resource; without one, rows come in
the order of the primary key.
-/
import CatalogListing.Select.RowTest
import CatalogListing.Query.Parameters

namespace CatalogListing

set_option autoImplicit false

open CatalogListing.Filter (Clause)
open Sql (Predicate Argument)

/-- The rows of a resource that a request wants. -/
structure Selection where
  resource : Resource
  clauses : List (Clause RowTest)
  custom : Keyed (List Sql.Parameter)
  order : List OrderTerm
  passthrough : Passthrough
  limit : Nat
  offset : Nat
  deriving DecidableEq, Repr

/-- The SQL of a listing. -/
structure Plan where
  /-- The page; its last two placeholders are the limit and the offset. -/
  sql : Text
  /-- The count of all matching rows. -/
  countSql : Text
  /-- The arguments of the condition, which both statements share. -/
  arguments : List Argument
  limit : Nat
  offset : Nat
  deriving DecidableEq, Repr

namespace Selection

/-- The order terms on sortable fields, or the primary key when there are none. -/
def orderFor (resource : Resource) (terms : List OrderTerm) : List OrderTerm :=
  match terms.filter fun term => resource.isSortable term.field with
  | [] => [⟨resource.primaryKey, false⟩]
  | sortable => sortable

/-- The selection of the parameters of a request. -/
def ofParameters (resource : Resource) (parameters : Parameters) : Selection where
  resource := resource
  clauses := Filter.compileAll (RowTest.ofResource resource) resource.filterable parameters.filters
  custom := parameters.custom
  order := orderFor resource parameters.order
  passthrough := parameters.passthrough
  limit := parameters.limit
  offset := parameters.offset

/-- The condition of the selection. -/
def predicate (selection : Selection) : Predicate :=
  let compiled := Filter.predicateOf RowTest.fragment selection.clauses
  let fields := if compiled.isEmpty then [] else [compiled.condition]
  ⟨List.intercalate " AND " (fields ++ selection.custom.map fun c => Filter.parenthesized c.1),
    compiled.parameters ++ selection.custom.flatMap fun c => c.2⟩

/-- A keyword with a text behind it; nothing for an empty text. -/
def optional (keyword : Text) (text : Text) : Text :=
  if text.isEmpty then [] else keyword ++ text

/-- From the table to the end of the grouping, for a condition in SQL. -/
def fromSql (selection : Selection) (condition : Text) : Text :=
  "FROM " ++ Sql.quote selection.resource.table ++
    optional [' '] (selection.passthrough.joins.getD []) ++
    optional " WHERE " condition ++
    optional " GROUP BY " (selection.passthrough.group.getD []) ++
    optional " HAVING " (selection.passthrough.having.getD [])

/-- The columns of the result. -/
def columnsSql (selection : Selection) : Text :=
  match selection.passthrough.select with
  | none | some [] => Sql.quote selection.resource.table ++ ['.', '*']
  | some columns => columns

/-- The statements of the selection. -/
def plan (selection : Selection) : Plan :=
  let expanded := selection.predicate.expand
  let source := selection.fromSql expanded.sql
  { sql := "SELECT " ++ selection.columnsSql ++ ' ' :: source ++ " ORDER BY " ++
      List.intercalate ", " (selection.order.map OrderTerm.sql) ++ " LIMIT ? OFFSET ?"
    countSql := "SELECT COUNT(*) FROM (SELECT 1 " ++ source ++ [')']
    arguments := expanded.arguments
    limit := selection.limit
    offset := min selection.offset 9223372036854775807 }

end Selection

end CatalogListing
