/-
# Select.RowTest -- tests on the rows of a resource

A condition becomes a test only where the resource allows it: on a column that the
table has, and for full text on a column that an index covers.  Every other condition
is dropped.
-/
import CatalogListing.Filter.Clause
import CatalogListing.Resource

namespace CatalogListing

set_option autoImplicit false

open CatalogListing.Filter (Condition Renderer)
open Sql (Fragment)

/-! ## Full-text queries -/

namespace FullText

/-- A term between quotes, those inside it doubled. -/
def quotedTerm (term : Text) : Text :=
  '"' :: (term.flatMap (fun c => if c = '"' then ['"', '"'] else [c]) ++ ['"'])

/-- The terms of a text: what stands between white space. -/
def terms (text : Text) : List Text :=
  Text.words Text.isBlank text

/-- The query for every term of a text, each a quoted string; none without terms. -/
def query? (text : Text) : Option Text :=
  match terms text with
  | [] => none
  | ts => some (List.intercalate [' '] (ts.map quotedTerm))

end FullText

/-! ## Tests -/

/-- A test on a row: a condition on a column, or membership in the rows that a
full-text index finds. -/
inductive RowTest where
  | column (name : Text) (condition : Condition)
  | indexed (table key index name : Text) (query : Text)
  deriving DecidableEq, Repr

namespace RowTest

/-- The test in SQL. -/
def fragment : RowTest → Fragment
  | .column name condition => condition.fragment (Sql.quote name)
  | .indexed table key index name query =>
      ⟨Sql.quote table ++ '.' :: Sql.quote key ++ " IN (SELECT rowid FROM " ++ Sql.quote index ++
        " WHERE " ++ Sql.quote name ++ " MATCH ?)", some (.text query)⟩

/-- The test that a condition on a column is for the rows of a resource. -/
def ofResource (resource : Resource) : Renderer RowTest :=
  fun column condition =>
    if !resource.hasColumn column then none
    else match condition with
      | .fullText text =>
          match resource.indexOf? column, FullText.query? text with
          | some index, some query =>
              some (.indexed resource.table resource.primaryKey index.table column query)
          | _, _ => none
      | condition => some (.column column condition)

end RowTest

end CatalogListing
