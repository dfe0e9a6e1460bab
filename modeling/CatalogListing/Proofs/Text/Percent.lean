/-
# Proofs.Text.Percent -- texts written with escapes

A text is written into a path or into form data byte by byte (`Spells`): a byte is an
escape, with digits of either case, or a character that may stand there for itself; in
form data a plus sign is a space.  However a writer chooses, what is written holds the
bytes of the text (`toBytes_of_spells`), and every text can be written
(`spells_escaped`).

Pairs joined as form data are read back in their order, whatever their keys and values
hold (`formPairs_of_spellsForm`).
-/
import CatalogListing.Proofs.Text.Cuts
import CatalogListing.Proofs.Text.Utf8
import CatalogListing.Text.Percent
import Mathlib.Data.List.Forall2

namespace CatalogListing

set_option autoImplicit false

namespace Percent

/-! ## Spellings -/

/-- Where a text is written. -/
inductive Place where
  | path
  | form
  deriving DecidableEq

/-- The characters besides letters and digits that may stand for themselves. -/
def Place.marks : Place → Text
  | .path => "-._~!$&'()*+,;=:@"
  | .form => "-._~!$'()*,;:@/?"

/-- The character may stand for itself. -/
def Place.plain (place : Place) (c : Char) : Bool :=
  c.isAlphanum || List.elem c place.marks

/-- The character that a character of form data is read as. -/
def Place.read : Place → Char → Char
  | .path, c => c
  | .form, c => if c == '+' then ' ' else c

/-- A text spells bytes. -/
inductive Spells (place : Place) : Text → Bytes → Prop where
  | done : Spells place [] []
  | plain {c : Char} {rest : Text} {bytes : Bytes} :
      place.plain c = true → Spells place rest bytes →
      Spells place (c :: rest) (UInt8.ofNat c.toNat :: bytes)
  | escape {high low : Char} {h l : Nat} {rest : Text} {bytes : Bytes} :
      Text.hexValue? high = some h → Text.hexValue? low = some l → Spells place rest bytes →
      Spells place ('%' :: high :: low :: rest) (UInt8.ofNat (16 * h + l) :: bytes)
  | blank {rest : Text} {bytes : Bytes} :
      place = .form → Spells place rest bytes →
      Spells place ('+' :: rest) (UInt8.ofNat ' '.toNat :: bytes)

variable {place : Place} {text : Text} {bytes : Bytes}

/-- The character neither stands for itself nor writes an escape or a space. -/
def Place.excludes (place : Place) (c : Char) : Bool :=
  !place.plain c && c != '%' && Text.hexValue? c == none && c != '+'

theorem Spells.notMem (spelled : Spells place text bytes) {mark : Char}
    (excluded : place.excludes mark = true) : mark ∉ text := by
  simp only [Place.excludes, Bool.and_eq_true, Bool.not_eq_true', bne_iff_ne, beq_iff_eq]
    at excluded
  obtain ⟨⟨⟨escapes, percent⟩, digit⟩, blank⟩ := excluded
  induction spelled with
  | done => exact List.not_mem_nil
  | plain stands _ ih =>
      refine List.not_mem_cons_of_ne_of_not_mem ?_ ih
      rintro rfl
      exact absurd (stands.symm.trans escapes) (by decide)
  | escape high low _ ih =>
      refine List.not_mem_cons_of_ne_of_not_mem percent
        (List.not_mem_cons_of_ne_of_not_mem ?_ (List.not_mem_cons_of_ne_of_not_mem ?_ ih))
      · rintro rfl
        cases digit.symm.trans high
      · rintro rfl
        cases digit.symm.trans low
  | blank _ _ ih => exact List.not_mem_cons_of_ne_of_not_mem blank ih

theorem toBytes_cons {c : Char} (plain : c ≠ '%') (rest : Text) :
    toBytes (c :: rest) = String.utf8EncodeChar c ++ toBytes rest := by
  rw [toBytes.eq_def]
  split
  · rename_i same
    exact absurd (List.cons.inj same).1 plain
  · rename_i same
    obtain ⟨rfl, rfl⟩ := List.cons.inj same
    rfl
  · rename_i same
    cases same

/-- A character that stands for itself is a byte of ASCII. -/
theorem Place.ascii_of_plain {c : Char} (stands : place.plain c = true) : c.toNat ≤ 0x7F := by
  have marks : place.marks.all (fun c => c.toNat ≤ 0x7F) = true := by
    cases place <;> decide
  rcases Bool.or_eq_true _ _ ▸ stands with word | mark
  · have among : (c.isUpper = true ∨ c.isLower = true) ∨ c.isDigit = true := by
      rw [← Bool.or_eq_true, ← Bool.or_eq_true]
      exact word
    have last : c.val ≤ 'z'.val := by
      rcases among with (upper | lower) | digit
      · exact UInt32.le_trans (of_decide_eq_true upper).2 (by decide)
      · exact of_decide_eq_true (Bool.and_eq_true_iff.1 lower).2
      · exact UInt32.le_trans (of_decide_eq_true (Bool.and_eq_true_iff.1 digit).2) (by decide)
    exact Nat.le_trans (UInt32.le_iff_toNat_le.1 last) (by decide)
  · exact of_decide_eq_true (List.all_eq_true.1 marks c (List.elem_iff.1 mark))

theorem toBytes_plain {c : Char} (plain : c ≠ '%') (ascii : c.toNat ≤ 0x7F) (rest : Text) :
    toBytes (c :: rest) = UInt8.ofNat c.toNat :: toBytes rest := by
  rw [toBytes_cons plain, String.utf8EncodeChar]
  exact congrArg (· ++ toBytes rest) (if_pos ascii)

/-- Only a plus sign is read as another character, and it stands for itself in a path only. -/
theorem Place.read_of_plain {c : Char} (stands : place.plain c = true) : place.read c = c := by
  cases place with
  | path => rfl
  | form =>
      refine if_neg fun same => ?_
      obtain rfl := beq_iff_eq.1 same
      revert stands
      decide

theorem Place.read_of_hexValue? {c : Char} {n : Nat} (digit : Text.hexValue? c = some n) :
    place.read c = c := by
  cases place with
  | path => rfl
  | form =>
      refine if_neg fun same => ?_
      obtain rfl := beq_iff_eq.1 same
      cases digit

/-- **A spelling, read where it was written, holds the bytes that it spells.** -/
theorem toBytes_of_spells (spelled : Spells place text bytes) :
    toBytes (text.map place.read) = bytes := by
  induction spelled with
  | done => rfl
  | plain stands _ ih =>
      rename_i c rest bytes _
      have notPercent : c ≠ '%' := by
        rintro rfl
        revert stands
        cases place <;> decide
      rw [List.map_cons, Place.read_of_plain stands,
        toBytes_plain notPercent (Place.ascii_of_plain stands), ih]
  | escape high low _ ih =>
      have percent : place.read '%' = '%' := by
        cases place <;> rfl
      rw [List.map_cons, List.map_cons, List.map_cons, percent, Place.read_of_hexValue? high,
        Place.read_of_hexValue? low, toBytes, high, low]
      exact congrArg _ ih
  | blank form _ ih =>
      subst form
      rw [List.map_cons, show Place.form.read '+' = ' ' from rfl,
        toBytes_plain (by decide) (by decide), ih]

/-- Only the empty text is written as one. -/
theorem Spells.ne_nil {written : Text} (spelled : Spells place written (Utf8.encode text))
    (nonempty : text ≠ []) : written ≠ [] := by
  rintro rfl
  have empty := (congrArg Utf8.decode? (toBytes_of_spells spelled)).trans (Utf8.decode?_encode text)
  exact nonempty (Option.some.inj empty).symm

/-- Bytes written as escapes only. -/
def escaped (bytes : Bytes) : Text :=
  bytes.flatMap fun b => ['%', Text.hexDigit (b.toNat / 16), Text.hexDigit (b.toNat % 16)]

theorem hexValue?_hexDigit : ∀ n < 16, Text.hexValue? (Text.hexDigit n) = some n := by
  decide

/-- All bytes can be written. -/
theorem spells_escaped (place : Place) (bytes : Bytes) : Spells place (escaped bytes) bytes := by
  induction bytes with
  | nil => exact .done
  | cons b rest ih =>
      have bound := b.toNat_lt
      have written := Spells.escape (hexValue?_hexDigit (b.toNat / 16) (by omega))
        (hexValue?_hexDigit (b.toNat % 16) (by omega)) ih
      rwa [Nat.div_add_mod, UInt8.ofNat_toNat] at written

/-! ## Form data -/

/-- A field of form data spells a pair. -/
def SpellsPair (field : Text) (pair : Text × Text) : Prop :=
  ∃ key value, field = key ++ '=' :: value ∧ Spells .form key (Utf8.encode pair.1) ∧
    Spells .form value (Utf8.encode pair.2)

/-- Form data spells pairs, in their order. -/
def SpellsForm (query : Text) (pairs : List (Text × Text)) : Prop :=
  ∃ fields, query = List.intercalate ['&'] fields ∧ List.Forall₂ SpellsPair fields pairs

/-- All pairs can be written. -/
theorem exists_spellsForm (pairs : List (Text × Text)) : ∃ query, SpellsForm query pairs := by
  refine ⟨_, pairs.map fun pair =>
    escaped (Utf8.encode pair.1) ++ '=' :: escaped (Utf8.encode pair.2), rfl, ?_⟩
  rw [List.forall₂_map_left_iff, List.forall₂_same]
  exact fun pair _ => ⟨_, _, rfl, spells_escaped .form _, spells_escaped .form _⟩

theorem formText_of_spells {field : Text} (spelled : Spells .form field (Utf8.encode text)) :
    formText field = text := by
  have bytes := toBytes_of_spells spelled
  rw [formText]
  exact (congrArg Utf8.decodeLossy bytes).trans (Utf8.decodeLossy_encode text)

variable {field : Text} {pair : Text × Text}

theorem formField_of_spellsPair (spelled : SpellsPair field pair) : formField field = pair := by
  obtain ⟨key, value, rfl, left, right⟩ := spelled
  have absent : '=' ∉ key := left.notMem (by decide)
  simp only [formField, Text.splitAtFirst_append absent, formText_of_spells left,
    formText_of_spells right]

theorem SpellsPair.ne_nil (spelled : SpellsPair field pair) : field ≠ [] := by
  obtain ⟨key, value, rfl, -⟩ := spelled
  exact List.append_ne_nil_of_right_ne_nil key (List.cons_ne_nil _ _)

theorem SpellsPair.notMem (spelled : SpellsPair field pair) {mark : Char} (equals : mark ≠ '=')
    (excluded : Place.form.excludes mark = true) : mark ∉ field := by
  obtain ⟨key, value, rfl, left, right⟩ := spelled
  rw [List.mem_append, List.mem_cons]
  rintro (before | same | behind)
  · exact left.notMem excluded before
  · exact equals same
  · exact right.notMem excluded behind

/-- Besides its own marks, form data has only characters of the spelled texts. -/
theorem SpellsForm.notMem {query : Text} {pairs : List (Text × Text)}
    (formed : SpellsForm query pairs) {mark : Char} (ampersand : mark ≠ '&') (equals : mark ≠ '=')
    (excluded : Place.form.excludes mark = true) : mark ∉ query := by
  obtain ⟨fields, rfl, spelled⟩ := formed
  refine Text.notMem_intercalate ampersand ?_
  induction spelled with
  | nil => exact List.forall_mem_nil _
  | cons first _ ih => exact List.forall_mem_cons.2 ⟨first.notMem equals excluded, ih⟩

/-- **Form data holds the pairs that it spells**, repeated and empty ones included. -/
theorem formPairs_of_spellsForm {query : Text} {pairs : List (Text × Text)}
    (formed : SpellsForm query pairs) : formPairs query = pairs := by
  obtain ⟨fields, rfl, spelled⟩ := formed
  have whole : ∀ field ∈ fields, field ≠ [] ∧ '&' ∉ field := by
    induction spelled with
    | nil => exact List.forall_mem_nil _
    | cons first _ ih =>
        exact List.forall_mem_cons.2 ⟨⟨first.ne_nil, first.notMem (by decide) (by decide)⟩, ih⟩
  rw [formPairs, Text.words_intercalate whole]
  clear whole
  induction spelled with
  | nil => rfl
  | cons first _ ih => rw [List.map_cons, formField_of_spellsPair first, ih]

end Percent

end CatalogListing
