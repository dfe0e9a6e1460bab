/-
# Filter.Classify -- the forms of filter values

The form of a value decides what it asks:

* `true`, `t`, `false`, `f` -- equality with a truth value, in lower case, upper
  case, or with a capital for the words;
* `%x`, `x%` -- a pattern, wildcards included;
* `(a,)`, `(,b)`, `[a,]`, `[,b]` -- above, below, at least, at most;
* `{a,b}`, `~{a,b}`, `~x` -- one of, none of, different from;
* `e@is null@e`, `e@is not null@e` -- null tests;
* `m[x]m` -- full text;
* anything else -- equality with the text.

The first form that fits decides.  A value that has a form but not its content, such
as `(1,2)` or an empty set, asks nothing.  A text operand `tNt` with a whole number
of seconds `N` is the timestamp of that instant.
-/
import CatalogListing.Filter.Condition
import CatalogListing.Calendar

namespace CatalogListing.Filter

set_option autoImplicit false

/-- The truth value that a text spells. -/
def boolean? (text : Text) : Option Bool :=
  if text ∈ (["t", "T", "true", "True", "TRUE"] : List Text) then some true
  else if text ∈ (["f", "F", "false", "False", "FALSE"] : List Text) then some false
  else none

/-- The timestamp that `tNt` stands for. -/
def wrappedTimestamp? (text : Text) : Option Text :=
  (((Text.enclosed? ['t'] ['t'] text).bind Text.signed64?).filter Calendar.inRange).map
    Calendar.timestamp

/-- A text operand, a wrapped timestamp in its written form. -/
def coerce (text : Text) : Text :=
  (wrappedTimestamp? text).getD text

/-- The value starts or ends with a wildcard. -/
def isPattern (text : Text) : Bool :=
  text.head? == some '%' || text.getLast? == some '%'

/-- The bound that the inside of a pair of brackets states: one side of its first
comma is empty and the other is not. -/
def bound? (upper lower : Comparison) (inside : Text) : Option Condition :=
  match Text.splitAtFirst ',' inside with
  | some ([], right) => if right.isEmpty then none else some (.compare upper (.text (coerce right)))
  | some (left, []) => some (.compare lower (.text (coerce left)))
  | _ => none

/-- The elements of a set; an empty inside is no set. -/
def elements? (inside : Text) : Option (List Text) :=
  if inside.isEmpty then none else some (Text.pieces (· == ',') inside)

/-- The inside of braces. -/
def braced? (text : Text) : Option Text :=
  Text.enclosed? ['\x7b'] ['\x7d'] text

/-- What the rest of a value behind a tilde asks. -/
def negation? (rest : Text) : Option Condition :=
  if rest.isEmpty then none
  else match braced? rest with
    | some inside => (elements? inside).map (.member true)
    | none => some (.compare .notEqual (.text (coerce rest)))

/-- The value that asks for null. -/
def nullMark : Text := "e@is null@e"

/-- The value that asks for anything but null. -/
def notNullMark : Text := "e@is not null@e"

/-- What a value asks that is neither a truth value nor delimited. -/
def plain? (text : Text) : Option Condition :=
  if text = nullMark then some (.null false)
  else if text = notNullMark then some (.null true)
  else match Text.enclosed? ['m', '['] [']', 'm'] text with
    | some [] => none
    | some words => some (.fullText words)
    | none => some (.compare .equal (.text (coerce text)))

/-- What a value asks that is no truth value and no pattern. -/
def delimited? (text : Text) : Option Condition :=
  match Text.enclosed? ['('] [')'] text with
  | some inside => bound? .less .greater inside
  | none =>
    match Text.enclosed? ['['] [']'] text with
    | some inside => bound? .atMost .atLeast inside
    | none =>
      match braced? text with
      | some inside => (elements? inside).map (.member false)
      | none =>
        match text with
        | '~' :: rest => negation? rest
        | _ => plain? text

/-- What a value asks, if anything. -/
def classify (text : Text) : Option Condition :=
  if text.isEmpty then none
  else match boolean? text with
    | some b => some (.compare .equal (.boolean b))
    | none => if isPattern text then some (.like text) else delimited? text

end CatalogListing.Filter
