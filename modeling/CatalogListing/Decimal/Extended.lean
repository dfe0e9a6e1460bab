/-
# Decimal.Extended -- decimals read in steps of 64 binary digits

The database reads a decimal in a wider format than the number that comes out: it keeps as
many digits as a word of 64 bits holds, multiplies them by powers of ten, each product
rounded to 64 binary digits, and rounds once more at the end.  The number is therefore not
always the one nearest to the decimal: of `0.11657` it is the next one.
-/
import CatalogListing.Decimal.Binary64

namespace CatalogListing

set_option autoImplicit false

open Binary64 (roundHalfEven scaleTwo tenTo twoTo)

/-- A positive number `bits * 2 ^ exponent`, where `bits` has 64 binary digits. -/
structure Extended where
  bits : Nat
  exponent : Int
  deriving DecidableEq, Repr

namespace Extended

/-- The number nearest to `num / den`, neither of which is zero. -/
def ofRatio (num den : Nat) : Extended :=
  let guess : Int := (num.log2 : Int) - (den.log2 : Int) - 63
  let scaled := scaleTwo num den guess
  let exponent := if scaled.1 < scaled.2 * twoTo 63 then guess - 1 else guess
  let scaled := scaleTwo num den exponent
  let rounded := roundHalfEven scaled.1 scaled.2
  if rounded = twoTo 64 then ⟨twoTo 63, exponent + 1⟩ else ⟨rounded, exponent⟩

/-- The product, rounded. -/
def mul (x y : Extended) : Extended :=
  let product := ofRatio (x.bits * y.bits) 1
  ⟨product.bits, product.exponent + x.exponent + y.exponent⟩

/-- The number times a factor, again and again. -/
def mulTimes (factor : Extended) : Nat → Extended → Extended
  | 0, x => x
  | count + 1, x => mulTimes factor count (x.mul factor)

/-- The number times a power of ten, by hundreds, tens and ones of the exponent. -/
def scaleTen (x : Extended) (exponent : Int) : Extended :=
  let power (k : Nat) : Extended :=
    if 0 ≤ exponent then ofRatio (tenTo k) 1 else ofRatio 1 (tenTo k)
  let count := exponent.natAbs
  mulTimes (power 1) (count % 10)
    (mulTimes (power 10) (count % 100 / 10) (mulTimes (power 100) (count / 100) x))

/-- The nearest floating-point number; what is greater than all of them is infinite. -/
def toBinary64 (negative : Bool) (x : Extended) : Binary64 :=
  if 960 < x.exponent ∨ (x.exponent = 960 ∧ (twoTo 53 - 1) * twoTo 11 < x.bits) then
    .infinite negative
  else if x.exponent < -1200 then .zero negative
  else
    let ratio := scaleTwo x.bits 1 (-x.exponent)
    Binary64.ofRatio negative ratio.1 ratio.2

/-- The first digits of a number, as many as the word takes, and how many are left. -/
def cut (digits : Nat) : Nat × Nat :=
  let beyond := (Nat.toDigits 10 digits).length - 19
  let left := if digits / tenTo beyond < 1844674407370955160 then beyond - 1 else beyond
  (digits / tenTo left, left)

/-- The exponent brought nearer to zero while the word has room, or while the digits end
with zeros; `fuel` bounds the steps. -/
def settle : Nat → Nat → Int → Nat × Int
  | 0, digits, exponent => (digits, exponent)
  | fuel + 1, digits, exponent =>
      if 0 < exponent ∧ digits < 1844674407370954956 then settle fuel (digits * 10) (exponent - 1)
      else if exponent < 0 ∧ digits % 10 = 0 then settle fuel (digits / 10) (exponent + 1)
      else (digits, exponent)

end Extended

/-- The floating-point number that `digits * 10 ^ exponent` is read as. -/
def Binary64.readDecimal (negative : Bool) (digits : Nat) (exponent : Int) : Binary64 :=
  if digits = 0 then zero negative
  else
    let kept := Extended.cut digits
    let settled := Extended.settle 20 kept.1 (exponent + kept.2)
    if settled.2 = 0 then ofRatio negative settled.1 1
    else ((Extended.ofRatio settled.1 1).scaleTen settled.2).toBinary64 negative

end CatalogListing
