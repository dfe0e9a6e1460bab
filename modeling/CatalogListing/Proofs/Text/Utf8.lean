/-
# Proofs.Text.Utf8 -- the bytes of a text read back

The UTF-8 form of a text is well formed, and it reads as that text again, strictly and
lossily (`decode?_encode`, `decodeLossy_encode`).  Each character is read on its own,
whatever follows it (`scan_utf8EncodeChar`); the cases are those of the length of its
form.
-/
import CatalogListing.Text.Utf8
import Mathlib.Tactic.Common

namespace CatalogListing.Utf8

set_option autoImplicit false

/-! ## Bytes -/

theorem toNat_byte {n : Nat} (small : n < 256) : (UInt8.ofNat n).toNat = n :=
  UInt8.toNat_ofNat_of_lt' small

/-- A byte lies between two others as its number does. -/
theorem between_byte (low high : Nat) {n : Nat} (bounds : low ≤ n ∧ n ≤ high) (small : high < 256) :
    (UInt8.ofNat low ≤ UInt8.ofNat n && UInt8.ofNat n ≤ UInt8.ofNat high) = true := by
  simp only [Bool.and_eq_true, decide_eq_true_eq, UInt8.le_iff_toNat_le,
    toNat_byte (show low < 256 by omega), toNat_byte (show n < 256 by omega), toNat_byte small]
  exact bounds

theorem not_between_byte (low high : Nat) {n : Nat} (above : high < n) (small : n < 256) :
    ¬ (UInt8.ofNat low ≤ UInt8.ofNat n && UInt8.ofNat n ≤ UInt8.ofNat high) = true := by
  simp only [Bool.and_eq_true, decide_eq_true_eq, UInt8.le_iff_toNat_le, toNat_byte small,
    toNat_byte (show high < 256 by omega)]
  omega

theorem not_ascii_byte {n : Nat} (small : n < 256) (high : 0x80 ≤ n) :
    ¬ UInt8.ofNat n < 0x80 := by
  rw [UInt8.lt_iff_toNat_lt, toNat_byte small]
  exact Nat.not_lt.2 high

theorem byte_ne (other : Nat) {n : Nat} (small : n < 256) (bound : other < 256)
    (apart : n ≠ other) : (UInt8.ofNat n == UInt8.ofNat other) = false := by
  rw [beq_eq_false_iff_ne]
  intro same
  have numbers := congrArg UInt8.toNat same
  rw [toNat_byte small, toNat_byte bound] at numbers
  exact apart numbers

variable {x y z w : Nat} {rest : Bytes}

theorem continues_byte (small : y < 0x40) : continues (UInt8.ofNat (y + 0x80)) = true :=
  between_byte 0x80 0xBF (by omega) (by decide)

theorem payload_byte (small : y < 0x40) : payload (UInt8.ofNat (y + 0x80)) = y := by
  rw [payload, toNat_byte (by omega)]
  omega

/-! ## Characters by the length of their form -/

theorem scan_one (small : x < 0x80) :
    scan (UInt8.ofNat x :: rest) = some (Char.ofNat x) :: scan rest := by
  have ascii : UInt8.ofNat x < 0x80 := by
    rw [UInt8.lt_iff_toNat_lt, toNat_byte (by omega)]
    exact small
  rw [scan.eq_def]
  simp only [ascii, if_true, toNat_byte (show x < 256 by omega)]

theorem scan_two (lead : 2 ≤ x ∧ x < 0x20) (tail : y < 0x40) :
    scan (UInt8.ofNat (x + 0xC0) :: UInt8.ofNat (y + 0x80) :: rest) =
      some (Char.ofNat (x * 0x40 + y)) :: scan rest := by
  have two : (0xC2 ≤ UInt8.ofNat (x + 0xC0) && UInt8.ofNat (x + 0xC0) ≤ 0xDF) = true :=
    between_byte 0xC2 0xDF (by omega) (by decide)
  have number : (x + 0xC0) % 0x20 = x := by omega
  rw [scan.eq_def]
  simp only [not_ascii_byte (show x + 0xC0 < 256 by omega) (by omega), if_false]
  rw [if_pos two]
  simp only [continues_byte tail, if_true, payload_byte tail,
    toNat_byte (show x + 0xC0 < 256 by omega), number]

/-- A byte that may follow the lead of a character of three bytes: not one that makes it
overlong, nor one of a surrogate. -/
theorem second3_byte (lead : x < 0x10) (tail : y < 0x40) (long : x = 0 → 0x20 ≤ y)
    (scalar : x = 13 → y < 0x20) :
    second3 (UInt8.ofNat (x + 0xE0)) (UInt8.ofNat (y + 0x80)) = true := by
  unfold second3
  by_cases first : x = 0
  · rw [first, if_pos (by decide)]
    exact between_byte 0xA0 0xBF (by omega) (by decide)
  · have notFirst : (UInt8.ofNat (x + 0xE0) == 0xE0) = false :=
      byte_ne 0xE0 (by omega) (by decide) (by omega)
    rw [notFirst]
    by_cases surrogate : x = 13
    · rw [surrogate, if_neg (by decide), if_pos (by decide)]
      exact between_byte 0x80 0x9F (by omega) (by decide)
    · have notSurrogate : (UInt8.ofNat (x + 0xE0) == 0xED) = false :=
        byte_ne 0xED (by omega) (by decide) (by omega)
      rw [notSurrogate, if_neg (by decide), if_neg (by decide)]
      exact continues_byte tail

theorem scan_three (lead : x < 0x10) (second : y < 0x40) (third : z < 0x40)
    (long : x = 0 → 0x20 ≤ y) (scalar : x = 13 → y < 0x20) :
    scan (UInt8.ofNat (x + 0xE0) :: UInt8.ofNat (y + 0x80) :: UInt8.ofNat (z + 0x80) :: rest) =
      some (Char.ofNat ((x * 0x40 + y) * 0x40 + z)) :: scan rest := by
  have two : ¬ (0xC2 ≤ UInt8.ofNat (x + 0xE0) && UInt8.ofNat (x + 0xE0) ≤ 0xDF) = true :=
    not_between_byte 0xC2 0xDF (by omega) (by omega)
  have three : (0xE0 ≤ UInt8.ofNat (x + 0xE0) && UInt8.ofNat (x + 0xE0) ≤ 0xEF) = true :=
    between_byte 0xE0 0xEF (by omega) (by decide)
  have number : (x + 0xE0) % 0x10 = x := by omega
  rw [scan.eq_def]
  simp only [not_ascii_byte (show x + 0xE0 < 256 by omega) (by omega), if_false]
  rw [if_neg two, if_pos three]
  simp only [second3_byte lead second long scalar, if_true, continues_byte third,
    payload_byte second, payload_byte third, toNat_byte (show x + 0xE0 < 256 by omega), number]

/-- A byte that may follow the lead of a character of four bytes: not one that makes it
overlong, nor one behind the last character. -/
theorem second4_byte (lead : x < 5) (tail : y < 0x40) (long : x = 0 → 0x10 ≤ y)
    (last : x = 4 → y < 0x10) :
    second4 (UInt8.ofNat (x + 0xF0)) (UInt8.ofNat (y + 0x80)) = true := by
  unfold second4
  by_cases first : x = 0
  · rw [first, if_pos (by decide)]
    exact between_byte 0x90 0xBF (by omega) (by decide)
  · have notFirst : (UInt8.ofNat (x + 0xF0) == 0xF0) = false :=
      byte_ne 0xF0 (by omega) (by decide) (by omega)
    rw [notFirst]
    by_cases final : x = 4
    · rw [final, if_neg (by decide), if_pos (by decide)]
      exact between_byte 0x80 0x8F (by omega) (by decide)
    · have notLast : (UInt8.ofNat (x + 0xF0) == 0xF4) = false :=
        byte_ne 0xF4 (by omega) (by decide) (by omega)
      rw [notLast, if_neg (by decide), if_neg (by decide)]
      exact continues_byte tail

theorem scan_four (lead : x < 5) (second : y < 0x40) (third : z < 0x40) (fourth : w < 0x40)
    (long : x = 0 → 0x10 ≤ y) (last : x = 4 → y < 0x10) :
    scan (UInt8.ofNat (x + 0xF0) :: UInt8.ofNat (y + 0x80) :: UInt8.ofNat (z + 0x80) ::
        UInt8.ofNat (w + 0x80) :: rest) =
      some (Char.ofNat (((x * 0x40 + y) * 0x40 + z) * 0x40 + w)) :: scan rest := by
  have two : ¬ (0xC2 ≤ UInt8.ofNat (x + 0xF0) && UInt8.ofNat (x + 0xF0) ≤ 0xDF) = true :=
    not_between_byte 0xC2 0xDF (by omega) (by omega)
  have three : ¬ (0xE0 ≤ UInt8.ofNat (x + 0xF0) && UInt8.ofNat (x + 0xF0) ≤ 0xEF) = true :=
    not_between_byte 0xE0 0xEF (by omega) (by omega)
  have four : (0xF0 ≤ UInt8.ofNat (x + 0xF0) && UInt8.ofNat (x + 0xF0) ≤ 0xF4) = true :=
    between_byte 0xF0 0xF4 (by omega) (by decide)
  have number : (x + 0xF0) % 0x08 = x := by omega
  rw [scan.eq_def]
  simp only [not_ascii_byte (show x + 0xF0 < 256 by omega) (by omega), if_false]
  rw [if_neg two, if_neg three, if_pos four]
  simp only [second4_byte lead second long last, if_true, continues_byte third,
    continues_byte fourth, payload_byte second, payload_byte third, payload_byte fourth,
    toNat_byte (show x + 0xF0 < 256 by omega), number]

/-! ## Texts -/

/-- A character is read from its form, whatever follows. -/
theorem scan_utf8EncodeChar (c : Char) (rest : Bytes) :
    scan (String.utf8EncodeChar c ++ rest) = some c :: scan rest := by
  have valid : c.val.toNat < 0xD800 ∨ 0xDFFF < c.val.toNat ∧ c.val.toNat < 0x110000 := c.valid
  have same : Char.ofNat c.val.toNat = c := Char.ofNat_toNat c
  unfold String.utf8EncodeChar
  dsimp only
  generalize c.val.toNat = n at valid same ⊢
  split
  · rw [List.cons_append, List.nil_append, scan_one (by omega), same]
  · split
    · have number : n / 64 % 0x20 * 0x40 + n % 0x40 = n := by omega
      simp only [List.cons_append, List.nil_append]
      rw [scan_two (by omega) (by omega), number, same]
    · split
      · have number : (n / 4096 % 0x10 * 0x40 + n / 64 % 0x40) * 0x40 + n % 0x40 = n := by omega
        simp only [List.cons_append, List.nil_append]
        rw [scan_three (by omega) (by omega) (by omega) (by omega) (by omega), number, same]
      · have number : ((n / 262144 % 0x08 * 0x40 + n / 4096 % 0x40) * 0x40 + n / 64 % 0x40) * 0x40 +
            n % 0x40 = n := by omega
        simp only [List.cons_append, List.nil_append]
        rw [scan_four (by omega) (by omega) (by omega) (by omega) (by omega) (by omega), number,
          same]

theorem scan_encode (text : Text) : scan (encode text) = text.map some := by
  induction text with
  | nil => rfl
  | cons c rest ih =>
      rw [encode, List.flatMap_cons, scan_utf8EncodeChar, List.map_cons]
      exact congrArg (some c :: ·) ih

/-- **The bytes of a text read as that text.** -/
theorem decode?_encode (text : Text) : decode? (encode text) = some text := by
  rw [decode?, scan_encode]
  induction text with
  | nil => rfl
  | cons c rest ih => simp [ih]

theorem decodeLossy_encode (text : Text) : decodeLossy (encode text) = text := by
  rw [decodeLossy, scan_encode, List.map_map]
  exact List.map_id text

end CatalogListing.Utf8
