/-
# Proofs.Text.Numeral -- integers written in decimal

A numeral is a run of decimal digits, as many as there are, behind an optional sign.  The reader
of integers accepts the numerals and nothing else (`integer?_eq_some_iff`), each as the number
that it denotes; with white space around a numeral it has to be trimmed first
(`integer?_trim_eq_some_iff`).  Every integer has a numeral, the one that is printed
(`numeral_ofInt`).
-/
import CatalogListing.Proofs.Text.Trim
import CatalogListing.Text.Number
import Mathlib.Data.Option.Basic

namespace CatalogListing.Text

set_option autoImplicit false

/-- A run of decimal digits. -/
structure Digits (text : Text) : Prop where
  some_ : text ≠ []
  digits : ∀ c ∈ text, c.isDigit = true

/-- The text is decimal digits behind an optional sign, and they denote the integer. -/
inductive Numeral : Int → Text → Prop
  | bare {text : Text} (run : Digits text) : Numeral (digitsValue text) text
  | plus {text : Text} (run : Digits text) : Numeral (digitsValue text) ('+' :: text)
  | minus {text : Text} (run : Digits text) : Numeral (-(digitsValue text : Int)) ('-' :: text)

/-- The text is a numeral of the integer with white space around it. -/
def Shows (n : Int) (raw : Text) : Prop :=
  ∃ before word behind, raw = before ++ (word ++ behind) ∧
    Numeral n word ∧ Blank before ∧ Blank behind

/-! ## Reading -/

variable {text raw : Text} {n : Int}

theorem natural?_eq_some_iff {m : Nat} :
    natural? text = some m ↔ Digits text ∧ digitsValue text = m := by
  have run : (!text.isEmpty && text.all Char.isDigit) = true ↔ Digits text := by
    rw [Bool.and_eq_true, Bool.not_eq_true', List.isEmpty_eq_false_iff, List.all_eq_true]
    exact ⟨fun ⟨some_, digits⟩ => ⟨some_, digits⟩, fun ⟨some_, digits⟩ => ⟨some_, digits⟩⟩
  unfold natural?
  split
  · rename_i digits
    rw [Option.some.injEq, and_iff_right (run.1 digits)]
  · rename_i other
    rw [run] at other
    exact ⟨fun none_ => (nomatch none_), fun both => absurd both.1 other⟩

/-- Digits behind a sign, which acts on the number that they denote. -/
theorem signed_eq_some_iff {sign : Int → Int} :
    ((natural? text).bind fun m => some (m : Int)).map sign = some n ↔
      Digits text ∧ sign (digitsValue text) = n := by
  simp only [Option.map_eq_some_iff, Option.bind_eq_some_iff, natural?_eq_some_iff,
    Option.some.injEq]
  constructor
  · rintro ⟨_, ⟨_, ⟨run, rfl⟩, rfl⟩, same⟩
    exact ⟨run, same⟩
  · rintro ⟨run, same⟩
    exact ⟨_, ⟨_, ⟨run, rfl⟩, rfl⟩, same⟩

theorem Digits.head_ne {c : Char} {rest : Text} (run : Digits (c :: rest)) : c ≠ '-' ∧ c ≠ '+' := by
  have digit := run.digits c List.mem_cons_self
  constructor <;> rintro rfl <;> cases digit

theorem integer?_of_digits (run : Digits text) : integer? text = some (digitsValue text) := by
  unfold integer?
  split
  · exact absurd rfl run.head_ne.1
  · exact absurd rfl run.head_ne.2
  · exact signed_eq_some_iff.2 ⟨run, rfl⟩

/-- **The reader of integers accepts the numerals**, as the numbers that they denote. -/
theorem integer?_eq_some_iff : integer? text = some n ↔ Numeral n text := by
  constructor
  · intro reads
    unfold integer? at reads
    split at reads <;> obtain ⟨run, rfl⟩ := signed_eq_some_iff.1 reads
    · exact .minus run
    · exact .plus run
    · exact .bare run
  · intro numeral
    cases numeral with
    | bare run => exact integer?_of_digits run
    | plus run => exact signed_eq_some_iff.2 ⟨run, rfl⟩
    | minus run => exact signed_eq_some_iff.2 ⟨run, rfl⟩

/-! ## White space -/

theorem isBlank_of_isDigit {c : Char} (digit : c.isDigit = true) : isBlank c = false := by
  simp only [Char.isDigit, Bool.and_eq_true, decide_eq_true_eq, UInt32.le_iff_toNat_le] at digit
  obtain ⟨low, high⟩ := digit
  change 48 ≤ c.toNat at low
  change c.toNat ≤ 57 at high
  simp only [isBlank, Bool.or_eq_false_iff, Bool.and_eq_false_iff, decide_eq_false_iff_not,
    beq_eq_false_iff_ne]
  omega

theorem Numeral.solid (numeral : Numeral n text) : ∀ c ∈ text, isBlank c = false := by
  cases numeral with
  | bare run => exact fun c member => isBlank_of_isDigit (run.digits c member)
  | plus run | minus run =>
      exact List.forall_mem_cons.2 ⟨by decide, fun c member => isBlank_of_isDigit (run.digits c member)⟩

/-- Trimmed texts are read exactly if they show an integer. -/
theorem integer?_trim_eq_some_iff : integer? (trim raw) = some n ↔ Shows n raw := by
  rw [integer?_eq_some_iff]
  constructor
  · intro numeral
    obtain ⟨before, behind, whole, blankBefore, blankBehind⟩ := exists_trim raw
    exact ⟨before, trim raw, behind, whole, numeral, blankBefore, blankBehind⟩
  · rintro ⟨before, word, behind, rfl, numeral, blankBefore, blankBehind⟩
    rw [trim_around blankBefore word blankBehind, trim_of_forall numeral.solid]
    exact numeral

/-! ## Printing -/

theorem digits_ofNat (m : Nat) : Digits (ofNat m) :=
  ⟨Nat.toDigits_ne_nil, fun _ => Nat.isDigit_of_mem_toDigits (by decide) (by decide)⟩

theorem digitsValue_ofNat (m : Nat) : digitsValue (ofNat m) = m := by
  have value : Nat.ofDigitChars 10 (ofNat m) 0 = m := Nat.ofDigitChars_ten_toDigits
  rw [Nat.ofDigitChars_eq_foldl] at value
  exact value

/-- An integer is printed as a numeral of it. -/
theorem numeral_ofInt (n : Int) : Numeral n (ofInt n) := by
  cases n with
  | ofNat m =>
      have numeral := Numeral.bare (digits_ofNat m)
      rwa [digitsValue_ofNat] at numeral
  | negSucc m =>
      have numeral := Numeral.minus (digits_ofNat (m + 1))
      rwa [digitsValue_ofNat] at numeral

end CatalogListing.Text
