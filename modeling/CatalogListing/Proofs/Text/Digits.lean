/-
# Proofs.Text.Digits -- numbers of a fixed width

A number that is padded with zeros up to a width is the run of its last digits
(`padLeft_ofNat`).  A run is read back as its number (`digitsValue_lastDigits`), and runs of
one width stand in the order of their numbers, whatever follows them
(`precedes_lastDigits_append`).
-/
import Mathlib.Data.Nat.Digits.Defs
import CatalogListing.Text.Number

namespace CatalogListing.Text

set_option autoImplicit false

/-! ## Digits -/

/-- The last digits of a number, as many as the width says. -/
def lastDigits : Nat → Nat → Text
  | 0, _ => []
  | width + 1, n => lastDigits width (n / 10) ++ [Nat.digitChar (n % 10)]

@[simp] theorem length_lastDigits (width n : Nat) : (lastDigits width n).length = width := by
  induction width generalizing n with
  | zero => rfl
  | succ width ih => simp [lastDigits, ih]

theorem lastDigits_zero (width : Nat) : lastDigits width 0 = List.replicate width '0' := by
  induction width with
  | zero => rfl
  | succ width ih => rw [lastDigits, ih, List.replicate_succ']; rfl

theorem padLeft_append (width : Nat) (text : Text) (c : Char) :
    padLeft (width + 1) (text ++ [c]) = padLeft width text ++ [c] := by
  simp [padLeft]

/-- **A padded number is the run of its last digits.** -/
theorem padLeft_ofNat {width n : Nat} (small : n < 10 ^ (width + 1)) :
    padLeft (width + 1) (ofNat n) = lastDigits (width + 1) n := by
  induction width generalizing n with
  | zero =>
      have digit : n < 10 := by simpa using small
      simp [padLeft, ofNat, lastDigits, Nat.toDigits_of_lt_base digit, Nat.mod_eq_of_lt digit]
  | succ width ih =>
      rw [lastDigits]
      by_cases digit : n < 10
      · have alone : ofNat n = [] ++ [Nat.digitChar (n % 10)] := by
          rw [ofNat, Nat.toDigits_of_lt_base digit, Nat.mod_eq_of_lt digit, List.nil_append]
        rw [alone, padLeft_append, Nat.div_eq_of_lt digit, lastDigits_zero]
        simp [padLeft]
      · have behind : ofNat n = ofNat (n / 10) ++ [Nat.digitChar (n % 10)] :=
          Nat.toDigits_of_base_le (by decide) (by omega)
        have shorter : n / 10 < 10 ^ (width + 1) := by
          rw [Nat.pow_succ] at small
          omega
        rw [behind, padLeft_append, ih shorter]

/-! ## Reading -/

theorem digitsValue_append (digits : Text) (c : Char) :
    digitsValue (digits ++ [c]) = 10 * digitsValue digits + (c.toNat - 48) :=
  List.foldl_append

theorem digitsValue_lastDigits {width n : Nat} (small : n < 10 ^ width) :
    digitsValue (lastDigits width n) = n := by
  induction width generalizing n with
  | zero => simp_all [lastDigits, digitsValue]
  | succ width ih =>
      have shorter : n / 10 < 10 ^ width := by
        rw [Nat.pow_succ] at small
        omega
      rw [lastDigits, digitsValue_append, ih shorter,
        Nat.toNat_digitChar_of_lt_ten (Nat.mod_lt _ (by decide))]
      omega

theorem lastDigits_inj {width m n : Nat} (left : m < 10 ^ width) (right : n < 10 ^ width) :
    lastDigits width m = lastDigits width n ↔ m = n := by
  constructor
  · intro same
    rw [← digitsValue_lastDigits left, same, digitsValue_lastDigits right]
  · rintro rfl
    rfl

/-! ## Order -/

/-- Behind beginnings of one length the first difference decides. -/
theorem precedes_append {a b : Text} (same : a.length = b.length) (x y : Text) :
    precedes (a ++ x) (b ++ y) = true ↔
      precedes a b = true ∨ a = b ∧ precedes x y = true := by
  induction a generalizing b with
  | nil =>
      obtain rfl := List.length_eq_zero_iff.1 same.symm
      simp [precedes]
  | cons c rest ih =>
      cases b with
      | nil => cases same
      | cons d others =>
          have shorter := ih (Nat.succ.inj same)
          simp only [List.cons_append, precedes, Bool.or_eq_true, Bool.and_eq_true,
            decide_eq_true_eq, beq_iff_eq, shorter, List.cons.injEq]
          tauto

theorem precedes_lastDigits {width m n : Nat} (left : m < 10 ^ width) (right : n < 10 ^ width) :
    precedes (lastDigits width m) (lastDigits width n) = true ↔ m < n := by
  induction width generalizing m n with
  | zero => simp_all [lastDigits, precedes]
  | succ width ih =>
      rw [Nat.pow_succ] at left right
      have left' : m / 10 < 10 ^ width := by omega
      have right' : n / 10 < 10 ^ width := by omega
      have last : precedes [Nat.digitChar (m % 10)] [Nat.digitChar (n % 10)] = true ↔
          m % 10 < n % 10 := by
        simp [precedes, Nat.toNat_digitChar_of_lt_ten, Nat.mod_lt]
      rw [lastDigits, lastDigits, precedes_append (by simp), ih left' right',
        lastDigits_inj left' right', last]
      omega

/-- **Numbers of one width stand in their order**, and equal ones leave it to what follows. -/
theorem precedes_lastDigits_append {width m n : Nat} (left : m < 10 ^ width)
    (right : n < 10 ^ width) (x y : Text) :
    precedes (lastDigits width m ++ x) (lastDigits width n ++ y) = true ↔
      m < n ∨ m = n ∧ precedes x y = true := by
  rw [precedes_append (by simp), precedes_lastDigits left right, lastDigits_inj left right]

theorem precedes_cons_self (c : Char) (x y : Text) :
    precedes (c :: x) (c :: y) = precedes x y := by
  simp [precedes]

end CatalogListing.Text
