/-
# Sql.Predicate -- conditions with bound parameters

A predicate is the text of a condition together with the parameters of its
placeholders, in order.  A set is one parameter at one placeholder; `expand` gives
every element of a set a placeholder of its own, right before the arguments are
bound.

A question mark is a placeholder exactly when it stands outside of backticks.
-/
import CatalogListing.Sql.Identifier
import CatalogListing.Json.Printer

namespace CatalogListing.Sql

set_option autoImplicit false

/-- A parameter of one placeholder. -/
inductive Parameter where
  | boolean (b : Bool)
  | text (t : Text)
  | list (items : List Text)
  deriving DecidableEq, Repr

/-- How many placeholders the parameter takes once its elements stand apart. -/
def Parameter.width : Parameter → Nat
  | .list items => items.length
  | _ => 1

/-- A scalar bound to exactly one placeholder. -/
inductive Argument where
  | null
  | boolean (b : Bool)
  | integer (n : Int)
  | real (x : Binary64)
  | text (t : Text)
  deriving DecidableEq, Repr

/-- The arguments that a parameter binds. -/
def Parameter.arguments : Parameter → List Argument
  | .boolean b => [.boolean b]
  | .text t => [.text t]
  | .list items => items.map .text

/-- What stands at the placeholder of a parameter; nothing equals an element of an
empty set, so it becomes `NULL`. -/
def Parameter.slots : Parameter → Text
  | .list [] => "NULL"
  | parameter => placeholders parameter.width

/-- A JSON value as an argument: integers as far as a signed word of 64 bits holds
them, other numbers as floating-point numbers, arrays and objects as their text. -/
def Argument.ofJson : Json → Argument
  | .null => .null
  | .boolean b => .boolean b
  | .integer n => if Text.inWord64 n then .integer n else .real (Binary64.ofInt n)
  | .real x => .real x
  | .text t => .text t
  | json => .text json.print

/-- A piece of a condition and the parameter of its placeholder, if it has one. -/
structure Fragment where
  sql : Text
  parameter : Option Parameter
  deriving DecidableEq, Repr

/-- The text of a condition and the parameters of its placeholders.  The empty
condition filters nothing. -/
structure Predicate where
  condition : Text
  parameters : List Parameter
  deriving DecidableEq, Repr

/-- Whether text behind the character is quoted, when text before it is `quoted` or
not. -/
def quotedAfter (quoted : Bool) (c : Char) : Bool :=
  if c = backtick then !quoted else quoted

/-- The placeholders of a text that starts inside of backticks, or outside. -/
def countPlaceholders : Bool → Text → Nat
  | _, [] => 0
  | quoted, c :: rest =>
      let quoted := quotedAfter quoted c
      (if c = '?' ∧ !quoted then 1 else 0) + countPlaceholders quoted rest

/-- The placeholders of the condition. -/
def Predicate.placeholderCount (predicate : Predicate) : Nat :=
  countPlaceholders false predicate.condition

/-- The condition filters nothing. -/
def Predicate.isEmpty (predicate : Predicate) : Bool :=
  predicate.condition.isEmpty

/-- The placeholders that the parameters take once their elements stand apart. -/
def Predicate.width (predicate : Predicate) : Nat :=
  (predicate.parameters.map Parameter.width).foldr (· + ·) 0

/-- A condition with scalar arguments. -/
structure Expanded where
  sql : Text
  arguments : List Argument
  deriving DecidableEq, Repr

/-- The expanded form with a text put in front. -/
def Expanded.after (expanded : Expanded) (text : Text) (arguments : List Argument) : Expanded :=
  ⟨text ++ expanded.sql, arguments ++ expanded.arguments⟩

/-- Every placeholder takes the next parameter; one without a parameter is bound to
null, and parameters without a placeholder are left over. -/
def expandText : Bool → Text → List Parameter → Expanded
  | _, [], _ => ⟨[], []⟩
  | quoted, c :: rest, parameters =>
      let quoted := quotedAfter quoted c
      if c = '?' ∧ !quoted then
        match parameters with
        | [] => (expandText quoted rest []).after ['?'] [.null]
        | parameter :: others =>
            (expandText quoted rest others).after parameter.slots parameter.arguments
      else (expandText quoted rest parameters).after [c] []

/-- The predicate with one placeholder for each element of its sets. -/
def Predicate.expand (predicate : Predicate) : Expanded :=
  expandText false predicate.condition predicate.parameters

end CatalogListing.Sql
