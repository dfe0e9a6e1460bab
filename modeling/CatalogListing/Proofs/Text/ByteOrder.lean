/-
# Proofs.Text.ByteOrder -- the order of texts and of their bytes

The form of a character comes before that of a later one at the first byte in which they
differ, whatever follows (`units_append_lt`).  So texts stand in the order of their bytes as
they do in the order of their characters (`bytesPrecede_encode`).
-/
import CatalogListing.Proofs.Store.Order

namespace CatalogListing.Utf8

set_option autoImplicit false

/-- The bytes of a code point as numbers. -/
def units (n : Nat) : List Nat :=
  if n ≤ 0x7F then [n]
  else if n ≤ 0x7FF then [n / 64 + 0xC0, n % 64 + 0x80]
  else if n ≤ 0xFFFF then [n / 4096 + 0xE0, n / 64 % 64 + 0x80, n % 64 + 0x80]
  else [n / 262144 + 0xF0, n / 4096 % 64 + 0x80, n / 64 % 64 + 0x80, n % 64 + 0x80]

theorem units_ne_nil (n : Nat) : units n ≠ [] := by
  unfold units
  split_ifs <;> exact List.cons_ne_nil _ _

theorem map_utf8EncodeChar (c : Char) :
    (String.utf8EncodeChar c).map UInt8.toNat = units c.toNat := by
  have valid : c.val.toNat < 0x110000 := by
    rcases c.valid with low | high
    · exact Nat.lt_trans low (by decide)
    · exact high.2
  unfold String.utf8EncodeChar units Char.toNat
  dsimp only
  generalize c.val.toNat = n at valid ⊢
  split_ifs <;>
    simp only [List.map_cons, List.map_nil, UInt8.toNat_ofNat', List.cons.injEq, and_true] <;>
    omega

theorem map_encode_cons (c : Char) (rest : Text) : (encode (c :: rest)).map UInt8.toNat =
    units c.toNat ++ (encode rest).map UInt8.toNat := by
  rw [encode, List.flatMap_cons, List.map_append, map_utf8EncodeChar, encode]

/-- **An earlier character has the earlier form**, whatever follows. -/
theorem units_append_lt {m n : Nat} (less : m < n) (x y : List Nat) :
    units m ++ x < units n ++ y := by
  unfold units
  split_ifs <;> (try omega) <;>
    simp only [List.cons_append, List.nil_append, List.cons_lt_cons_iff] <;>
    omega

theorem append_lt_append_iff (same x y : List Nat) : same ++ x < same ++ y ↔ x < y := by
  induction same with
  | nil => exact Iff.rfl
  | cons n rest ih => simp [ih]

/-- **The order of texts is the order of their bytes.** -/
theorem bytesPrecede_encode (t u : Text) :
    Scalar.bytesPrecede (encode t) (encode u) = true ↔ Text.precedes t u = true := by
  rw [Scalar.bytesPrecede_iff, Text.precedes_iff]
  induction t generalizing u with
  | nil =>
      cases u with
      | nil => exact Iff.rfl
      | cons d others =>
          obtain ⟨first, rest, form⟩ := List.exists_cons_of_ne_nil (units_ne_nil d.toNat)
          rw [map_encode_cons, form]
          simp [encode]
  | cons c rest ih =>
      cases u with
      | nil => simp [encode]
      | cons d others =>
          rw [map_encode_cons, map_encode_cons, List.map_cons, List.map_cons,
            List.cons_lt_cons_iff]
          rcases Nat.lt_trichotomy c.toNat d.toNat with before | same | behind
          · simp [before, units_append_lt before]
          · simp [same, append_lt_append_iff, ih]
          · have reverse := units_append_lt behind ((encode others).map UInt8.toNat)
              ((encode rest).map UInt8.toNat)
            simp [reverse.not_gt, Nat.lt_asymm behind, behind.ne']

end CatalogListing.Utf8
