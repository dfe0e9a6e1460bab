/-
# Store.Limits -- statements that the database refuses

A database refuses a statement with more than 32766 arguments, with a condition nested
more than 1000 deep, on a table or an index that does not exist, or with more than 2000
terms to order by; and when it comes to run one, a full-text query that ends inside quotes
and a pattern longer than 50000 bytes.

Joining conditions one after the other nests them: each further one adds a level.
-/
import CatalogListing.Store.Scan

namespace CatalogListing

set_option autoImplicit false

open CatalogListing.Filter (Condition Clause)

/-- The most arguments of a statement. -/
def maxArguments : Nat := 32766

/-- The deepest nesting of a condition. -/
def maxDepth : Nat := 1000

/-- The most terms to order by. -/
def maxOrderTerms : Nat := 2000

/-- The depth of conditions joined one after the other. -/
def joinedDepth : List Nat → Nat
  | [] => 0
  | depth :: rest => rest.foldl (fun joined depth => max joined depth + 1) depth

/-- The depth of a condition on a column.  A set without a second element is compared with
by a sign of equality, which adds a level. -/
def Filter.Condition.depth : Condition → Nat
  | .member negated items => (if items.length ≤ 1 then 3 else 2) + if negated then 1 else 0
  | _ => 2

namespace RowTest

def depth : RowTest → Nat
  | .column _ condition => condition.depth
  | .indexed .. => 3

/-- The fault that running a test on a row raises, if any. -/
def fault? : RowTest → Option Fault
  | .column _ (.like pattern) =>
      if Wildcard.isTooLong pattern then
        some (.rejected 1 "LIKE or GLOB pattern too complex")
      else none
  | .column _ _ => none
  | .indexed _ _ _ _ query =>
      match Search.phrases query with
      | .error fault => some fault
      | .ok _ => none

/-- The index that a test needs. -/
def index? : RowTest → Option Text
  | .column _ _ => none
  | .indexed _ _ index _ _ => some index

end RowTest

namespace Selection

/-- How deep the condition is nested, from its tests and the service's own clauses. -/
def ownDepth (selection : Selection) : Nat :=
  joinedDepth ((selection.clauses.map fun clause =>
      joinedDepth (clause.alternatives.map fun tests => joinedDepth (tests.map RowTest.depth))) ++
    selection.custom.map fun _ => 2)

/-- How deep the condition is nested.  A search has a condition of two levels inside it,
which counts on top of the whole condition, wherever the search stands. -/
def depth (selection : Selection) : Nat :=
  selection.ownDepth + if selection.tests.any RowTest.isSearch then 2 else 0

/-- Two arguments more than the condition has, for the limit and the offset, are within
the limit, and so is the depth. -/
def requireSize (selection : Selection) : Except Fault Unit :=
  if maxArguments < selection.predicate.width + 2 then
    Database.refuse 1 "too many SQL variables"
  else if maxDepth < selection.depth then
    Database.refuse 1 "Expression tree is too large (maximum depth 1000)"
  else .ok ()

/-- The indexes that the tests need exist. -/
def requireIndexes (selection : Selection) (db : Database) : Except Fault Unit :=
  (selection.tests.filterMap RowTest.index?).forM fun index =>
    if db.index.isSome then .ok () else Database.refuse 1 ("no such table: " ++ index)

/-- There are not too many terms to order by. -/
def requireOrder (selection : Selection) : Except Fault Unit :=
  if maxOrderTerms < selection.order.length then
    Database.refuse 1 "too many terms in ORDER BY clause"
  else .ok ()

/-- Running the tests that are reached raises no fault. -/
def requireTests (selection : Selection) (scan : Scan) (db : Database) (table : Table) :
    Except Fault Unit :=
  (selection.reached scan db table).forM fun test => test.fault?.elim (.ok ()) .error

end Selection

end CatalogListing
