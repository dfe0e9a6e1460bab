/-
# Decimal.Literal -- texts that are numbers

A text counts as a number when the whole of it, ASCII blanks at its ends aside, is a
decimal literal: an optional sign, digits with an optional point among or beside them,
and an optional exponent.  A literal without point and exponent that a signed word of
64 bits holds is an integer, any other a floating-point number.
-/
import CatalogListing.Decimal.Extended
import CatalogListing.Text.Blank
import CatalogListing.Text.Number

namespace CatalogListing

set_option autoImplicit false

/-- A decimal as written: its digits as one number, how many of them stand behind the
point, and its exponent. -/
structure Literal where
  negative : Bool
  digits : Nat
  behindPoint : Nat
  exponent : Int
  /-- It has neither point nor exponent. -/
  plain : Bool
  deriving DecidableEq, Repr

namespace Literal

/-- The blanks that may surround a literal. -/
def isAsciiBlank (c : Char) : Bool :=
  (9 ≤ c.toNat && c.toNat ≤ 13) || c == ' '

/-- The sign in front of a text, and the text behind it. -/
def splitSign : Text → Bool × Text
  | '-' :: rest => (true, rest)
  | '+' :: rest => (false, rest)
  | text => (false, text)

/-- The exponent that ends a literal; none is zero. -/
def exponent? : Text → Option Int
  | [] => some 0
  | mark :: rest => if mark = 'e' ∨ mark = 'E' then Text.integer? rest else none

/-- The literal that a text without blanks is. -/
def ofTrimmed? (text : Text) : Option Literal :=
  let (negative, unsigned) := splitSign text
  let whole := unsigned.takeWhile Char.isDigit
  let rest := unsigned.dropWhile Char.isDigit
  let (pointed, fraction, rest) := match rest with
    | '.' :: behind => (true, behind.takeWhile Char.isDigit, behind.dropWhile Char.isDigit)
    | rest => (false, [], rest)
  if whole.isEmpty && fraction.isEmpty then none
  else (exponent? rest).map fun exponent =>
    ⟨negative, Text.digitsValue (whole ++ fraction), fraction.length, exponent,
      !pointed && rest.isEmpty⟩

/-- The literal that a text is. -/
def ofText? (text : Text) : Option Literal :=
  ofTrimmed? (Text.stripBoth isAsciiBlank text)

/-- The integer that a plain literal denotes. -/
def integer? (literal : Literal) : Option Int :=
  let n : Int := if literal.negative then -literal.digits else literal.digits
  if literal.plain && Text.inWord64 n then some n else none

/-- The exponent as far as it is read: digits behind the fifth stand for nothing but that
there are more. -/
def readExponent (literal : Literal) : Int :=
  if literal.exponent.natAbs < 100000 then literal.exponent
  else if literal.exponent < 0 then -10000 else 10000

/-- The literal as a floating-point number. -/
def real (literal : Literal) : Binary64 :=
  Binary64.readDecimal literal.negative literal.digits (literal.readExponent - literal.behindPoint)

end Literal

end CatalogListing
