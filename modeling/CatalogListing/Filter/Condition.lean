/-
# Filter.Condition -- what one filter value asks of a column

The conditions that a filter value can state, and their form in SQL.  Only
comparisons take an operand; it is a text or, for equality with a boolean spelling,
a truth value.  Null tests take no parameter.
-/
import CatalogListing.Sql.Predicate

namespace CatalogListing.Filter

set_option autoImplicit false

open Sql (Parameter Fragment)

/-- The comparisons of a column with an operand. -/
inductive Comparison where
  | equal
  | notEqual
  | less
  | greater
  | atMost
  | atLeast
  deriving DecidableEq, Repr

/-- The operand of a comparison. -/
inductive Operand where
  | boolean (b : Bool)
  | text (t : Text)
  deriving DecidableEq, Repr

/-- What one filter value asks of a column. -/
inductive Condition where
  | compare (comparison : Comparison) (operand : Operand)
  | like (pattern : Text)
  | member (negated : Bool) (items : List Text)
  | null (negated : Bool)
  | fullText (words : Text)
  deriving DecidableEq, Repr

/-- The operator of a comparison. -/
def Comparison.operator : Comparison → Text
  | .equal => "="
  | .notEqual => "<>"
  | .less => "<"
  | .greater => ">"
  | .atMost => "<="
  | .atLeast => ">="

/-- The operand as a parameter. -/
def Operand.parameter : Operand → Parameter
  | .boolean b => .boolean b
  | .text t => .text t

/-- The SQL behind the column. -/
def Condition.test : Condition → Text
  | .compare comparison _ => comparison.operator ++ " ?"
  | .like _ => "LIKE ?"
  | .member false _ => "in (?)"
  | .member true _ => "not in (?)"
  | .null false => "IS NULL"
  | .null true => "IS NOT NULL"
  | .fullText _ => "MATCH ?"

/-- The parameter of the condition, if it has one. -/
def Condition.parameter? : Condition → Option Parameter
  | .compare _ operand => some operand.parameter
  | .like pattern => some (.text pattern)
  | .member _ items => some (.list items)
  | .null _ => none
  | .fullText words => some (.text words)

/-- The condition on a column that is already quoted. -/
def Condition.fragment (column : Text) (condition : Condition) : Fragment :=
  ⟨column ++ ' ' :: condition.test, condition.parameter?⟩

end CatalogListing.Filter
