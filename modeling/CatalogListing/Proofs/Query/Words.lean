/-
# Proofs.Query.Words -- the bounds of a page in machine words

The limit of a page is computed in signed words of 64 bits and kept in an unsigned word
of 32, its offset in an unsigned word of 64; the statement for the page takes both as
signed words of 64 bits, and the largest such word in the place of an offset that none
holds.

No step loses anything, whatever a request supplies: the words are the numbers of
`PageBounds.limit` and `PageBounds.offset` (`toNat_limitWord`, `toNat_offsetWord`), and
an offset is always one that a signed word holds (`toInt_argumentOfOffset`).
-/
import CatalogListing.Query.Page
import Mathlib.Data.Option.Basic
import Mathlib.Tactic.Common

namespace CatalogListing.PageBounds

set_option autoImplicit false

/-! ## Computing with words -/

/-- A supplied value as a signed word of 64 bits. -/
def word? (raw : Text) : Option Int64 :=
  (Text.signed64? (Text.trim raw)).map Int64.ofInt

/-- The limit for a supplied value: the smaller one of two signed words, cut down to 32
bits. -/
def limitWord (defaultLimit maxLimit : UInt32) (raw : Option Text) : UInt32 :=
  match raw.bind word? with
  | some n =>
      if 0 < n then (min n (Int64.ofNat maxLimit.toNat)).toUInt64.toUInt32 else defaultLimit
  | none => defaultLimit

/-- The offset for a supplied value. -/
def offsetWord (raw : Option Text) : UInt64 :=
  match raw.bind word? with
  | some n => if 0 < n then n.toUInt64 else 0
  | none => 0

/-- The argument of a statement for a limit. -/
def argumentOfLimit (limit : UInt32) : Int64 :=
  Int64.ofNat limit.toNat

/-- The largest signed word of 64 bits. -/
def maxOffset : Nat :=
  9223372036854775807

/-- The argument of a statement for an offset; the largest word in the place of one that is
larger. -/
def argumentOfOffset (offset : UInt64) : Int64 :=
  if offset.toNat ≤ maxOffset then Int64.ofNat offset.toNat else Int64.maxValue

/-! ## Numbers -/

variable {raw : Text} {n : Int}

theorem inWord64_of_signed64? {text : Text} (read : Text.signed64? text = some n) :
    -9223372036854775808 ≤ n ∧ n ≤ 9223372036854775807 := by
  have range := (Option.filter_eq_some_iff.1 read).2
  rwa [Text.inWord64, Bool.and_eq_true, decide_eq_true_eq, decide_eq_true_eq] at range

/-- A word that holds a number that was read has its value. -/
theorem toInt_ofInt_of_read (read : Text.signed64? (Text.trim raw) = some n) :
    (Int64.ofInt n).toInt = n := by
  obtain ⟨low, high⟩ := inWord64_of_signed64? read
  exact Int64.toInt_ofInt_of_le (by omega) (by omega)

theorem toInt_ofNat_of_le {m : Nat} (small : m ≤ maxOffset) : (Int64.ofNat m).toInt = m := by
  unfold maxOffset at small
  exact Int64.toInt_ofNat_of_lt (by omega)

/-- A positive number is one that is read as a signed word above zero. -/
theorem positive?_eq (raw : Text) : positive? raw =
    (Text.signed64? (Text.trim raw)).bind fun n => if 0 < n then some n.toNat else none := by
  unfold positive?
  cases Text.signed64? (Text.trim raw) with
  | none => rfl
  | some n =>
      match n with
      | .ofNat 0 => rfl
      | .ofNat (m + 1) => exact (if_pos (Int.natCast_succ_pos m)).symm
      | .negSucc m => rfl

theorem pos_word_iff (read : Text.signed64? (Text.trim raw) = some n) :
    0 < Int64.ofInt n ↔ 0 < n := by
  rw [Int64.lt_iff_toInt_lt, toInt_ofInt_of_read read]
  rfl

theorem toNat_of_pos {word : Int64} (positive : 0 ≤ word.toInt) :
    word.toUInt64.toNat = word.toInt.toNat :=
  Int64.toNat_toUInt64_of_le (Int64.le_iff_toInt_le.2 positive)

theorem toInt_min (a b : Int64) : (min a b).toInt = min a.toInt b.toInt := by
  by_cases less : a ≤ b
  · have bound := Int64.le_iff_toInt_le.1 less
    rw [show min a b = a from if_pos less]
    omega
  · have bound := mt Int64.le_iff_toInt_le.2 less
    rw [show min a b = b from if_neg less]
    omega

/-- **The limit in words is the limit**, for all bounds that words of 32 bits hold. -/
theorem toNat_limitWord (defaultLimit maxLimit : UInt32) (raw : Option Text) :
    (limitWord defaultLimit maxLimit raw).toNat =
      limit ⟨defaultLimit.toNat, maxLimit.toNat⟩ raw := by
  cases raw with
  | none => rfl
  | some raw =>
      have bound := maxLimit.toNat_lt
      have largest : (Int64.ofNat maxLimit.toNat).toInt = maxLimit.toNat :=
        toInt_ofNat_of_le (by unfold maxOffset; omega)
      simp only [limitWord, limit, Option.bind_some, word?, positive?_eq]
      cases read : Text.signed64? (Text.trim raw) with
      | none => rfl
      | some n =>
          simp only [Option.map_some, Option.bind_some, pos_word_iff read]
          split
          · rename_i positive
            have least := toInt_min (Int64.ofInt n) (Int64.ofNat maxLimit.toNat)
            rw [toInt_ofInt_of_read read, largest] at least
            rw [UInt64.toNat_toUInt32, toNat_of_pos (by omega), least]
            dsimp only
            omega
          · rfl

/-- **The offset in words is the offset.** -/
theorem toNat_offsetWord (raw : Option Text) : (offsetWord raw).toNat = offset raw := by
  cases raw with
  | none => rfl
  | some raw =>
      simp only [offsetWord, offset, Option.bind_some, word?, positive?_eq]
      cases read : Text.signed64? (Text.trim raw) with
      | none => rfl
      | some n =>
          simp only [Option.map_some, Option.bind_some, pos_word_iff read]
          split
          · rename_i positive
            have value := toInt_ofInt_of_read read
            rw [toNat_of_pos (by omega), value]
            rfl
          · rfl

/-- An offset is one that a signed word holds. -/
theorem offset_le (raw : Option Text) : offset raw ≤ maxOffset := by
  cases raw with
  | none => exact Nat.zero_le _
  | some raw =>
      simp only [offset, Option.bind_some, positive?_eq]
      cases read : Text.signed64? (Text.trim raw) with
      | none => exact Nat.zero_le _
      | some n =>
          obtain ⟨-, high⟩ := inWord64_of_signed64? read
          rw [Option.bind_some]
          split
          · change n.toNat ≤ 9223372036854775807
            omega
          · exact Nat.zero_le _

theorem toInt_argumentOfLimit (limit : UInt32) : (argumentOfLimit limit).toInt = limit.toNat := by
  have bound := limit.toNat_lt
  exact toInt_ofNat_of_le (by unfold maxOffset; omega)

theorem toInt_argumentOfOffset {offset : UInt64} (small : offset.toNat ≤ maxOffset) :
    (argumentOfOffset offset).toInt = offset.toNat := by
  rw [argumentOfOffset, if_pos small, toInt_ofNat_of_le small]

end CatalogListing.PageBounds
