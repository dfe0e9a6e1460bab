/-
# Decimal.Shortest -- the decimal text of a floating-point number

The shortest decimal that reads back as a number, and its nearest decimal with a
set count of digits.  Both look at a grid of decimals with a fixed count of digits:
`gridFloor` is the grid point at or below the number.

* `shortest` takes the first grid, from one digit to seventeen, on which one of the
  number's two neighbours reads back, and of two the nearer one.
* `withFraction` writes those digits so that the text always shows that it is not
  an integer: positional for magnitudes from `10 ^ (-5)` up to `10 ^ 16`, with an
  exponent beyond.
-/
import CatalogListing.Decimal.Binary64
import CatalogListing.Text.Number

namespace CatalogListing.Binary64

set_option autoImplicit false

/-- A positive decimal: `digits * 10 ^ exponent`. -/
structure Digits where
  digits : Nat
  exponent : Int
  deriving DecidableEq, Repr

/-- `num / den` as a fraction after a multiplication by `10 ^ exponent`. -/
def scaleTen (num den : Nat) (exponent : Int) : Nat × Nat :=
  if 0 ≤ exponent then (num * tenTo exponent.toNat, den) else (num, den * tenTo (-exponent).toNat)

/-- The count of digits before the decimal point of `num / den`; zero or negative
for fractions that start with zeros behind the point. -/
def pointOf (num den : Nat) : Int :=
  if den ≤ num then (Nat.toDigits 10 (num / den)).length
  else
    match (List.range 400).find? fun j => den ≤ num * tenTo j with
    | some j => 1 - (j : Int)
    | none => 0

/-- The decimals of `count` digits around a number: the exponent of the grid and the
number as a fraction on it. -/
def grid (count : Nat) (num den : Nat) : Int × Nat × Nat :=
  let exponent := pointOf num den - count
  (exponent, scaleTen num den (-exponent))

/-- The decimal on the grid of `count` digits that reads back as the number and is
nearest to it. -/
def readsBackWith (x : Binary64) (count : Nat) : Option Digits :=
  let (exponent, num, den) := grid count x.magnitude.1 x.magnitude.2
  let low := num / den
  let reads (digits : Nat) : Bool := ofDecimal x.isNegative digits exponent == x
  let pick (digits : Nat) : Option Digits := some ⟨digits, exponent⟩
  match reads low, reads (low + 1) with
  | true, true => pick (roundHalfEven num den)
  | true, false => pick low
  | false, true => pick (low + 1)
  | false, false => none

/-- Trailing zeros of the digits moved into the exponent; `fuel` bounds their count. -/
def Digits.trim : Nat → Digits → Digits
  | 0, d => d
  | fuel + 1, d =>
      if d.digits % 10 = 0 ∧ d.digits ≠ 0 then Digits.trim fuel ⟨d.digits / 10, d.exponent + 1⟩
      else d

/-- The shortest decimal that reads back as a positive number. -/
def shortest (x : Binary64) : Digits :=
  ((((List.range 17).findSome? fun n => readsBackWith x (n + 1)).getD ⟨0, 0⟩)).trim 20

/-- The decimal of `count` digits nearest to a positive number. -/
def nearest (count : Nat) (x : Binary64) : Digits :=
  let (exponent, num, den) := grid count x.magnitude.1 x.magnitude.2
  (⟨(2 * num + den) / (2 * den), exponent⟩ : Digits).trim 20

/-- A run of zeros; none for a negative count. -/
def zeros (count : Int) : Text :=
  List.replicate count.toNat '0'

/-- Digits in positional notation with at least one digit on each side of the point. -/
def Digits.positional (d : Digits) : Text :=
  let digits := Text.ofNat d.digits
  let point := (digits.length : Int) + d.exponent
  if 0 ≤ d.exponent then digits ++ zeros d.exponent ++ ['.', '0']
  else if 0 < point then digits.take point.toNat ++ '.' :: digits.drop point.toNat
  else '0' :: '.' :: zeros (-point) ++ digits

/-- Digits with one of them before the point and an exponent of ten; the point is
left out after a single digit unless `pointed`. -/
def Digits.scientific (pointed : Bool) (exponentText : Int → Text) (d : Digits) : Text :=
  let digits := Text.ofNat d.digits
  let mantissa := match digits with
    | [first] => if pointed then [first, '.', '0'] else [first]
    | first :: rest => first :: '.' :: rest
    | [] => []
  mantissa ++ 'e' :: exponentText ((digits.length : Int) + d.exponent - 1)

/-- The shortest text that reads back as the number and shows that it is not an
integer; infinities have none. -/
def withFraction (x : Binary64) : Text :=
  let sign : Text := if x.isNegative then ['-'] else []
  if x.isZero then sign ++ "0.0"
  else
    let d := x.shortest
    let point := ((Text.ofNat d.digits).length : Int) + d.exponent
    sign ++ if -5 < point ∧ point ≤ 16 then d.positional else d.scientific false Text.ofInt

/-- A signed exponent of at least two digits. -/
def signedExponent (n : Int) : Text :=
  (if n < 0 then '-' else '+') :: Text.padLeft 2 (Text.ofNat n.natAbs)

/-- The text by which pattern matching sees a number: fifteen significant digits,
always with a fraction. -/
def patternText (x : Binary64) : Text :=
  let sign : Text := if x.isNegative && !x.isZero then ['-'] else []
  if x.isInfinite then sign ++ "Inf"
  else if x.isZero then "0.0"
  else
    let d := x.nearest 15
    let point := ((Text.ofNat d.digits).length : Int) + d.exponent
    sign ++ if -4 < point ∧ point ≤ 15 then d.positional else d.scientific true signedExponent

end CatalogListing.Binary64
