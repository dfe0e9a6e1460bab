/-
# Decimal.Binary64 -- floating-point numbers by exact arithmetic

A number of the format binary64 is a signed multiple of a power of two, or an
infinity; there is no NaN in this library.  Every operation is exact arithmetic on
naturals followed by one rounding to the nearest representable number, ties going
to the even significand (`ofRatio`).

All finite numbers are whole multiples of `2 ^ (-1074)`, so comparisons are those
of integers (`units`), and an integer is compared with a number without rounding.
-/

namespace CatalogListing

set_option autoImplicit false

/-- A floating-point number: `significand * 2 ^ exponent` with a sign, or an
infinity. -/
inductive Binary64 where
  | finite (negative : Bool) (significand : Nat) (exponent : Int)
  | infinite (negative : Bool)
  deriving DecidableEq, Repr

namespace Binary64

/-- Two to a power. -/
def twoTo (k : Nat) : Nat :=
  Nat.pow 2 k

/-- Ten to a power. -/
def tenTo (k : Nat) : Nat :=
  Nat.pow 10 k

/-- Zero with a sign. -/
def zero (negative : Bool) : Binary64 :=
  .finite negative 0 (-1074)

/-- `num / den` as a fraction of naturals after a division by `2 ^ exponent`. -/
def scaleTwo (num den : Nat) (exponent : Int) : Nat × Nat :=
  if 0 ≤ exponent then (num, den * twoTo exponent.toNat) else (num * twoTo (-exponent).toNat, den)

/-- The whole number nearest to `num / den`, the even one of two that are equally
near. -/
def roundHalfEven (num den : Nat) : Nat :=
  let quotient := num / den
  let twice := 2 * (num % den)
  if twice < den then quotient
  else if den < twice then quotient + 1
  else if quotient % 2 = 0 then quotient else quotient + 1

/-- The exponent at which the significand of `num / den` has 53 binary digits, but
not below the least one. -/
def exponentOf (num den : Nat) : Int :=
  let guess : Int := (num.log2 : Int) - (den.log2 : Int) - 52
  let scaled := scaleTwo num den guess
  max (if scaled.1 < scaled.2 * twoTo 52 then guess - 1 else guess) (-1074)

/-- The number nearest to `num / den`. -/
def ofRatio (negative : Bool) (num den : Nat) : Binary64 :=
  if num = 0 ∨ den = 0 then zero negative
  else
    let exponent := exponentOf num den
    let scaled := scaleTwo num den exponent
    let rounded := roundHalfEven scaled.1 scaled.2
    let carried := rounded = twoTo 53
    let significand := if carried then twoTo 52 else rounded
    let exponent := if carried then exponent + 1 else exponent
    if 971 < exponent then .infinite negative else .finite negative significand exponent

/-- The number nearest to an integer. -/
def ofInt (n : Int) : Binary64 :=
  ofRatio (n < 0) n.natAbs 1

/-- The number nearest to `digits * 10 ^ exponent`. -/
def ofDecimal (negative : Bool) (digits : Nat) (exponent : Int) : Binary64 :=
  if 0 ≤ exponent then ofRatio negative (digits * tenTo exponent.toNat) 1
  else ofRatio negative digits (tenTo (-exponent).toNat)

/-- The magnitude of a finite number as a fraction; `0 / 0` stands for infinity. -/
def magnitude : Binary64 → Nat × Nat
  | .finite _ significand exponent =>
      if 0 ≤ exponent then (significand * twoTo exponent.toNat, 1)
      else (significand, twoTo (-exponent).toNat)
  | .infinite _ => (0, 0)

def isNegative : Binary64 → Bool
  | .finite negative _ _ => negative
  | .infinite negative => negative

def isZero : Binary64 → Bool
  | .finite _ significand _ => significand == 0
  | .infinite _ => false

def isInfinite : Binary64 → Bool
  | .finite .. => false
  | .infinite _ => true

/-- The product, rounded once; of finite numbers only. -/
def mul (x y : Binary64) : Binary64 :=
  ofRatio (x.isNegative != y.isNegative) (x.magnitude.1 * y.magnitude.1)
    (x.magnitude.2 * y.magnitude.2)

/-- The quotient, rounded once; of finite numbers only, the divisor not zero. -/
def div (x y : Binary64) : Binary64 :=
  ofRatio (x.isNegative != y.isNegative) (x.magnitude.1 * y.magnitude.2)
    (x.magnitude.2 * y.magnitude.1)

/-- The number with the given sign. -/
def withSign (negative : Bool) : Binary64 → Binary64
  | .finite _ significand exponent => .finite negative significand exponent
  | .infinite _ => .infinite negative

/-! ## Order -/

/-- How many multiples of `2 ^ (-1074)` the integer one is. -/
def unitsOfOne : Int :=
  twoTo 1074

/-- The number in multiples of `2 ^ (-1074)`; an infinity lies beyond all of them. -/
def units : Binary64 → Int
  | .finite negative significand exponent =>
      let size : Int := (significand * twoTo (exponent + 1074).toNat : Nat)
      if negative then -size else size
  | .infinite negative => if negative then -(twoTo 2200 : Int) else twoTo 2200

/-- The number is a whole one that a signed word of 64 bits holds. -/
def whole? (x : Binary64) : Option Int :=
  if x.units % unitsOfOne = 0 then
    let n := x.units / unitsOfOne
    if -9223372036854775808 ≤ n ∧ n ≤ 9223372036854775807 then some n else none
  else none

/-! ## Interchange form -/

/-- The 64 bits of the number: sign, biased exponent, fraction. -/
def toBits : Binary64 → Nat
  | .finite negative significand exponent =>
      let sign := if negative then twoTo 63 else 0
      if significand < twoTo 52 then sign + significand
      else sign + ((exponent + 1075).toNat * twoTo 52 + (significand - twoTo 52))
  | .infinite negative => (if negative then twoTo 63 else 0) + 2047 * twoTo 52

end Binary64

end CatalogListing
