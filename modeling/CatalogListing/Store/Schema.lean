/-
# Store.Schema -- the shape of tables

A table has a key, which is an integer and unique, and columns with an affinity, a
default, and what they require of a value.  A reference ties a column to the key of
another table: its values must be keys there, and a row goes when the row it refers to
goes.
-/
import CatalogListing.Store.Scalar
import CatalogListing.Store.Wildcard

namespace CatalogListing

set_option autoImplicit false

/-- What a column requires of its values beyond not being null. -/
inductive Check where
  | equals (n : Int)
  | lengthAtLeast (low : Nat)
  | lengthBetween (low high : Nat)
  | nullOrLength (length : Nat)
  | truthValue
  | notNegative
  | nullOrPositive
  | between (low high : Int)
  deriving DecidableEq, Repr

namespace Check

/-- The length of a value: characters before the first NUL of its text, or bytes. -/
def lengthOf? : Scalar → Option Nat
  | .null => none
  | .blob bytes => some bytes.length
  | value => value.textForm?.map fun text => (Wildcard.beforeNul text).length

/-- The value is no less than an integer; unknown of null. -/
def atLeast? (value : Scalar) (n : Int) : Option Bool :=
  if value.isNull then none else some (!value.precedes (.integer n))

/-- The value is no greater than an integer; unknown of null. -/
def atMost? (value : Scalar) (n : Int) : Option Bool :=
  if value.isNull then none else some (!(Scalar.integer n).precedes value)

/-- The check does not fail on a value; what is unknown does not fail. -/
def admits (check : Check) (value : Scalar) : Bool :=
  let length (fits : Nat → Bool) : Bool := ((lengthOf? value).map fits).getD true
  match check with
  | .equals n => value.isNull || value.same (.integer n)
  | .lengthAtLeast low => length (low ≤ ·)
  | .lengthBetween low high => length fun n => low ≤ n && n ≤ high
  | .nullOrLength n => length (· == n)
  | .truthValue => value.isNull || value.same (.integer 0) || value.same (.integer 1)
  | .notNegative => (atLeast? value 0).getD true
  | .nullOrPositive => value.isNull || (Scalar.integer 0).precedes value
  | .between low high =>
      (atLeast? value low).getD true && (atMost? value high).getD true

/-- The check as it is reported, for a column. -/
def text (check : Check) (column : Text) : Text :=
  match check with
  | .equals n => column ++ " = " ++ Text.ofInt n
  | .lengthAtLeast low => "length(" ++ column ++ ") >= " ++ Text.ofNat low
  | .lengthBetween low high =>
      "length(" ++ column ++ ") >= " ++ Text.ofNat low ++ " AND length(" ++ column ++ ") <= " ++
        Text.ofNat high
  | .nullOrLength n =>
      column ++ " IS NULL OR length(" ++ column ++ ") = " ++ Text.ofNat n
  | .truthValue => column ++ " IN (0, 1)"
  | .notNegative => column ++ " >= 0"
  | .nullOrPositive => column ++ " IS NULL OR " ++ column ++ " > 0"
  | .between low high =>
      column ++ " BETWEEN " ++ Text.ofInt low ++ " AND " ++ Text.ofInt high

end Check

/-- A column of a table. -/
structure Column where
  name : Text
  affinity : Affinity
  required : Bool := false
  default : Scalar := .null
  check : Option Check := none
  unique : Bool := false
  deriving DecidableEq, Repr

/-- A column whose values are keys of another table. -/
structure Reference where
  column : Text
  table : Text
  deriving DecidableEq, Repr

/-- The shape of a table. -/
structure Schema where
  name : Text
  /-- The name of the key and what is required of it. -/
  key : Text
  keyCheck : Option Check := none
  /-- The other columns, in order behind the key. -/
  columns : List Column
  references : List Reference := []
  deriving DecidableEq, Repr

namespace Schema

/-- Every column name, the key first. -/
def columnNames (schema : Schema) : List Text :=
  schema.key :: schema.columns.map (·.name)

def hasColumn (schema : Schema) (name : Text) : Bool :=
  schema.columnNames.contains name

/-- The affinity of a column. -/
def affinityOf (schema : Schema) (name : Text) : Affinity :=
  match schema.columns.find? fun column => column.name == name with
  | some column => column.affinity
  | none => .integer

end Schema

end CatalogListing
