/-
# Store.Scalar -- the values of columns

A column holds null, an integer, a floating-point number, a text or bytes, whatever
its type says; the type of a column is an affinity that converts a value on the way in
when nothing is lost.  This module has the values, their order and the conversions.

* Values of different kinds are ordered null, numbers, text, bytes; numbers by their
  exact values, texts and bytes bytewise.
* An operand is converted to suit the column that it is compared with.
-/
import CatalogListing.Decimal.Literal
import CatalogListing.Decimal.Shortest
import CatalogListing.Json.Value
import CatalogListing.Sql.Predicate
import CatalogListing.Text.Utf8

namespace CatalogListing

set_option autoImplicit false

/-- The value of a column. -/
inductive Scalar where
  | null
  | integer (n : Int)
  | real (x : Binary64)
  | text (t : Text)
  | blob (bytes : Bytes)
  deriving DecidableEq, Repr

/-- The conversion that a column prefers. -/
inductive Affinity where
  | integer
  | real
  | text
  deriving DecidableEq, Repr

namespace Scalar

/-! ## Forms -/

def isNull : Scalar → Bool
  | .null => true
  | _ => false

/-- The value in an answer; bytes as hexadecimal text. -/
def toJson : Scalar → Json
  | .null => .null
  | .integer n => .integer n
  | .real x => if x.isInfinite then .null else .real x
  | .text t => .text t
  | .blob bytes => .text (Utf8.toHex bytes)

/-- The value as text, as functions on text see it. -/
def textForm? : Scalar → Option Text
  | .null => none
  | .integer n => some (Text.ofInt n)
  | .real x => some x.patternText
  | .text t => some t
  | .blob bytes => some (Utf8.decodeLossy bytes)

/-- The argument of a placeholder as a value; a truth value is one or zero. -/
def ofArgument : Sql.Argument → Scalar
  | .null => .null
  | .boolean b => .integer (if b then 1 else 0)
  | .integer n => .integer n
  | .real x => .real x
  | .text t => .text t

/-! ## Order -/

/-- The place of the kind of a value in the order. -/
def rank : Scalar → Nat
  | .null => 0
  | .integer _ | .real _ => 1
  | .text _ => 2
  | .blob _ => 3

/-- A number in multiples of the least floating-point number; zero for other kinds. -/
def units : Scalar → Int
  | .integer n => n * Binary64.unitsOfOne
  | .real x => x.units
  | _ => 0

/-- Bytes in order, the shorter first when one continues the other. -/
def bytesPrecede : Bytes → Bytes → Bool
  | _, [] => false
  | [], _ :: _ => true
  | a :: rest, b :: others => a < b || (a == b && bytesPrecede rest others)

/-- The value comes strictly before the other. -/
def precedes (x y : Scalar) : Bool :=
  if x.rank ≠ y.rank then x.rank < y.rank
  else match x, y with
    | .text t, .text u => Text.precedes t u
    | .blob b, .blob c => bytesPrecede b c
    | _, _ => x.units < y.units

/-- Neither value comes before the other. -/
def same (x y : Scalar) : Bool :=
  !precedes x y && !precedes y x

/-! ## Affinity -/

/-- The number that a text is, if it is one. -/
def number? (text : Text) : Option Scalar :=
  (Literal.ofText? text).map fun literal =>
    match literal.integer? with
    | some n => .integer n
    | none => .real literal.real

/-- A whole floating-point number well inside the range of integers as an integer. -/
def wholeAsInteger : Scalar → Scalar
  | .real x =>
      match x.whole? with
      | some n =>
          if -9223372036854775808 < n ∧ n < 9223372036854775807 then .integer n else .real x
      | none => .real x
  | value => value

/-- An integer as a floating-point number. -/
def integerAsReal : Scalar → Scalar
  | .integer n => .real (Binary64.ofInt n)
  | value => value

/-- A text that is a number as that number. -/
def numeric : Scalar → Scalar
  | .text t => (number? t).getD (.text t)
  | value => value

/-- A number as its text. -/
def numberAsText : Scalar → Scalar
  | .integer n => .text (Text.ofInt n)
  | .real x => .text x.patternText
  | value => value

/-- The value as a column of the affinity stores it. -/
def store : Affinity → Scalar → Scalar
  | .integer, value => wholeAsInteger (numeric value)
  | .real, value => integerAsReal (numeric value)
  | .text, value => numberAsText value

/-- The operand as a column of the affinity is compared with it. -/
def operandFor : Affinity → Scalar → Scalar
  | .text, value => numberAsText value
  | _, value => numeric value

end Scalar

end CatalogListing
