/-
# Json.Value -- JSON values

A JSON value, and the strict reading of a form as one.  Integers are exact as long as
a word of 64 bits, signed or unsigned, holds them; every other numeral is a
floating-point number, and one beyond the largest is refused.  A key that is repeated
keeps its first place and its last value.

A numeral is rounded in two steps: its digits as an unsigned word of 64 bits, then
the power of ten.  Digits that do not fit the word are dropped, those before the
point raising the exponent.
-/
import CatalogListing.Json.Form
import CatalogListing.Decimal.Binary64

namespace CatalogListing

set_option autoImplicit false

/-- A JSON value; an object lists its fields in order. -/
inductive Json where
  | null
  | boolean (b : Bool)
  | integer (n : Int)
  | real (x : Binary64)
  | text (t : Text)
  | array (items : List Json)
  | object (fields : List (Text × Json))
  deriving Repr

namespace Json

/-! ## Numbers -/

/-- The largest unsigned word of 64 bits. -/
def maxWord : Nat :=
  18446744073709551615

/-- A significand read digit by digit, the digits it has no room for, and the digits
behind the point that it holds. -/
structure Significand where
  value : Nat
  dropped : Nat
  behindPoint : Nat

/-- A digit before the point; once one does not fit, no later one is taken. -/
def Significand.whole (s : Significand) (c : Char) : Significand :=
  let value := 10 * s.value + (c.toNat - 48)
  if s.dropped = 0 ∧ value ≤ maxWord then { s with value } else { s with dropped := s.dropped + 1 }

/-- The digits behind the point up to the first that does not fit. -/
def Significand.fraction (s : Significand) : Text → Significand
  | [] => s
  | c :: rest =>
      let value := 10 * s.value + (c.toNat - 48)
      if value ≤ maxWord then
        fraction { s with value, behindPoint := s.behindPoint + 1 } rest
      else s

/-- `10 ^ k` as a floating-point number. -/
def powerOfTen (k : Nat) : Binary64 :=
  Binary64.ofRatio false (Binary64.tenTo k) 1

/-- A significand times a power of ten; `none` beyond the largest number. -/
def scale? (significand : Nat) (exponent : Int) : Option Binary64 :=
  let start := Binary64.ofRatio false significand 1
  if significand = 0 then some start
  else if 308 < exponent then none
  else if 0 ≤ exponent then
    let product := start.mul (powerOfTen exponent.toNat)
    if product.isInfinite then none else some product
  else if -308 ≤ exponent then some (start.div (powerOfTen (-exponent).toNat))
  else if -616 ≤ exponent then
    some ((start.div (powerOfTen 308)).div (powerOfTen (-exponent - 308).toNat))
  else some (Binary64.zero false)

/-- A numeral as a floating-point number. -/
def Numeral.real? (numeral : Numeral) : Option Binary64 :=
  let s := (numeral.whole.foldl Significand.whole ⟨0, 0, 0⟩).fraction numeral.fraction
  let exponent := (s.dropped : Int) - s.behindPoint + numeral.exponent.getD 0
  (scale? s.value exponent).map (·.withSign numeral.negative)

/-- The integer that a numeral without point and exponent denotes, if a word of
64 bits holds it.  Minus zero is not an integer. -/
def Numeral.integer? (numeral : Numeral) : Option Int :=
  if numeral.fraction.isEmpty && numeral.exponent.isNone then
    let n := Text.digitsValue numeral.whole
    if numeral.negative then
      if 1 ≤ n ∧ n ≤ 9223372036854775808 then some (-(n : Int)) else none
    else if n ≤ maxWord then some (n : Int) else none
  else none

/-- The value of a numeral. -/
def Numeral.value? (numeral : Numeral) : Option Json :=
  match numeral.integer? with
  | some n => some (.integer n)
  | none => numeral.real?.map .real

/-! ## Objects -/

/-- The fields with `key` set to `value`, in its place if it is there already. -/
def setField (fields : List (Text × Json)) (key : Text) (value : Json) : List (Text × Json) :=
  if fields.any (·.1 == key) then
    fields.map fun field => if field.1 == key then (key, value) else field
  else fields ++ [(key, value)]

/-- The value of a field of an object. -/
def field? (key : Text) : Json → Option Json
  | .object fields => fields.lookup key
  | _ => none

def isNull : Json → Bool
  | .null => true
  | _ => false

/-! ## Reading -/

mutual

/-- The value of a form. -/
def Form.value? : Form → Option Json
  | .null => some .null
  | .boolean b => some (.boolean b)
  | .number numeral => numeral.value?
  | .text pieces => (pieceText? pieces).map .text
  | .array items => (itemValues? items).map .array
  | .object fields => (fieldValues? [] fields).map .object

/-- The values of the items of an array. -/
def itemValues? : List Form → Option (List Json)
  | [] => some []
  | form :: rest =>
      match form.value?, itemValues? rest with
      | some value, some values => some (value :: values)
      | _, _ => none

/-- The fields of an object, put behind those read before. -/
def fieldValues? (known : List (Text × Json)) : List (List Piece × Form) → Option (List (Text × Json))
  | [] => some known
  | (key, form) :: rest =>
      match pieceText? key, form.value? with
      | some key, some value => fieldValues? (setField known key value) rest
      | _, _ => none

end

mutual

/-- How many brackets are open at once at most. -/
def Form.depth : Form → Nat
  | .array items => itemDepth items + 1
  | .object fields => fieldDepth fields + 1
  | _ => 0

def itemDepth : List Form → Nat
  | [] => 0
  | form :: rest => max form.depth (itemDepth rest)

def fieldDepth : List (List Piece × Form) → Nat
  | [] => 0
  | (_, form) :: rest => max form.depth (fieldDepth rest)

end

/-- The value of a JSON text. -/
def ofText? (text : Text) : Option Json :=
  (Form.ofText? text).bind Form.value?

end Json

end CatalogListing
