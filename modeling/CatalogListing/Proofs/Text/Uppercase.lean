/-
# Proofs.Text.Uppercase -- a capital letter stays one

The uppercase form of a character starts with a character that is its own uppercase form,
also where the form is a sequence (`uppercase_starts_capital`).  So a text that has been
capitalized once is capitalized.

The images of a range of characters are compared with the ranges of the table and not looked
up one by one: `CaseRange.apart` is a test on the ends of two ranges.
-/
import CatalogListing.Text.Uppercase

namespace CatalogListing.Text

set_option autoImplicit false

/-! ## Ranges and their images -/

namespace CaseRange

/-- The range from the first to the last image of a range. -/
def images (range : CaseRange) : CaseRange :=
  ⟨(range.first + range.distance).toNat, (range.last + range.distance).toNat, range.step, 0⟩

/-- The first range lies before the other, behind it, or between two code points that the
other covers. -/
def apart (range other : CaseRange) : Bool :=
  Nat.blt range.last other.first || Nat.blt other.last range.first ||
    (Nat.blt 0 range.first && Nat.beq other.step 2 &&
      (Nat.beq range.step 2 || Nat.beq range.first range.last) &&
      Nat.beq ((range.first + other.first) % 2) 1)

theorem covers_iff {range : CaseRange} {n : Nat} :
    range.covers n = true ↔
      range.first ≤ n ∧ n ≤ range.last ∧ (n - range.first) % range.step = 0 := by
  simp [covers, and_assoc]

/-- The image of a covered code point lies between the ends of the images. -/
theorem image_between {range : CaseRange} {n : Nat} (covered : range.covers n = true) :
    range.images.first ≤ (n + range.distance).toNat ∧
      (n + range.distance).toNat ≤ range.images.last := by
  obtain ⟨low, high, -⟩ := covers_iff.1 covered
  simp only [images]
  omega

theorem not_covers_image {range other : CaseRange} (clear : range.images.apart other = true)
    {n : Nat} (covered : range.covers n = true) :
    ¬ other.covers (n + range.distance).toNat = true := by
  obtain ⟨low, high, steps⟩ := covers_iff.1 covered
  simp only [apart, images, Bool.or_eq_true, Bool.and_eq_true, Nat.blt_eq, Nat.beq_eq] at clear
  rw [covers_iff]
  rintro ⟨low', high', steps'⟩
  rcases clear with (before | behind) | ⟨⟨⟨positive, two⟩, wide | single⟩, odd⟩
  · omega
  · omega
  · rw [two] at steps'
    rw [wide] at steps
    omega
  · rw [two] at steps'
    omega

end CaseRange

/-! ## The tables -/

/-- The character is its own uppercase form. -/
def IsCapital (c : Char) : Prop :=
  uppercase c = [c]

instance (c : Char) : Decidable (IsCapital c) :=
  inferInstanceAs (Decidable (_ = _))

theorem isCapital_toUpper_of_ascii :
    ∀ code ∈ List.range 128, IsCapital (Char.ofNat code).toUpper := by
  decide +kernel

theorem sequences_start_capital :
    (uppercaseSequences.all fun entry =>
      (entry.2.map Char.ofNat).head?.any fun first => IsCapital first) = true := by
  decide +kernel

theorem images_apart_ranges :
    (uppercaseRanges.all fun range => uppercaseRanges.all range.images.apart) = true := by
  decide +kernel

theorem images_apart_sequences :
    (uppercaseRanges.all fun range => uppercaseSequences.all fun entry =>
      range.images.apart ⟨entry.1, entry.1, 1, 0⟩) = true := by
  decide +kernel

/-- An image is no small letter of ASCII, and it is a character. -/
theorem images_are_characters :
    ∀ range ∈ uppercaseRanges,
      (128 ≤ range.images.first ∨ 65 ≤ range.images.first ∧ range.images.last ≤ 90) ∧
      (range.images.last < 0xD800 ∨
        0xDFFF < range.images.first ∧ range.images.last < 0x110000) := by
  decide +kernel

/-! ## Capital letters -/

theorem isCapital_of_ascii {code : Nat} (low : 65 ≤ code) (high : code ≤ 90) :
    IsCapital (Char.ofNat code) := by
  have capitals : ∀ code ≤ 90, 65 ≤ code → IsCapital (Char.ofNat code) := by decide +kernel
  exact capitals code high low

/-- A code point that neither table lists is its own uppercase form. -/
theorem isCapital_of_unlisted {code : Nat} (valid : code.isValidChar) (high : 128 ≤ code)
    (noSequence : uppercaseSequences.lookup code = none)
    (noRange : ∀ range ∈ uppercaseRanges, ¬ range.covers code = true) :
    IsCapital (Char.ofNat code) := by
  have same : (Char.ofNat code).toNat = code := by
    rw [Char.ofNat, dif_pos valid]
    rfl
  have unmapped : mapByRanges uppercaseRanges code = code := by
    rw [mapByRanges, List.find?_eq_none.2 noRange]
  rw [IsCapital, uppercase, same, if_neg (Nat.not_lt.2 high), noSequence]
  simp only [unmapped]

theorem isCapital_image {range : CaseRange} (listed : range ∈ uppercaseRanges) {n : Nat}
    (covered : range.covers n = true) : IsCapital (Char.ofNat (n + range.distance).toNat) := by
  obtain ⟨low, high⟩ := CaseRange.image_between covered
  obtain ⟨wide | ⟨least, most⟩, valid⟩ := images_are_characters range listed
  · refine isCapital_of_unlisted ?_ (Nat.le_trans wide low) ?_ fun other member => ?_
    · unfold Nat.isValidChar
      omega
    · rw [List.lookup_eq_none_iff]
      intro entry member
      have clear := List.all_eq_true.1 (List.all_eq_true.1 images_apart_sequences range listed)
        entry member
      have off := CaseRange.not_covers_image clear covered
      rw [CaseRange.covers_iff] at off
      simp only [Nat.mod_one, and_true] at off
      exact bne_iff_ne.2 fun same => off ⟨Nat.le_of_eq same.symm, Nat.le_of_eq same⟩
    · exact CaseRange.not_covers_image
        (List.all_eq_true.1 (List.all_eq_true.1 images_apart_ranges range listed) other member)
        covered
  · exact isCapital_of_ascii (Nat.le_trans least low) (Nat.le_trans high most)

/-- **An uppercase form starts with a capital letter**; in particular it is not empty. -/
theorem uppercase_starts_capital (c : Char) :
    ∃ first rest, uppercase c = first :: rest ∧ IsCapital first := by
  by_cases ascii : c.toNat < 128
  · refine ⟨c.toUpper, [], by rw [uppercase, if_pos ascii], ?_⟩
    have capital := isCapital_toUpper_of_ascii _ (List.mem_range.2 ascii)
    rwa [Char.ofNat_toNat] at capital
  · cases found : uppercaseSequences.lookup c.toNat with
    | some sequence =>
        obtain ⟨before, after, parts, -⟩ := List.lookup_eq_some_iff.1 found
        have listed : (c.toNat, sequence) ∈ uppercaseSequences := by simp [parts]
        have starts := List.all_eq_true.1 sequences_start_capital _ listed
        obtain ⟨first, isFirst, capital⟩ := (Option.any_eq_true _ _).1 starts
        obtain ⟨rest, form⟩ := List.head?_eq_some_iff.1 isFirst
        exact ⟨first, rest, by rw [uppercase, if_neg ascii, found]; exact form,
          of_decide_eq_true capital⟩
    | none =>
        cases moved : uppercaseRanges.find? (·.covers c.toNat) with
        | some range =>
            refine ⟨Char.ofNat (c.toNat + range.distance).toNat, [],
              by rw [uppercase, if_neg ascii, found, mapByRanges, moved], ?_⟩
            have covered : range.covers c.toNat = true := by simpa using List.find?_some moved
            exact isCapital_image (List.mem_of_find?_eq_some moved) covered
        | none =>
            have capital : IsCapital (Char.ofNat c.toNat) :=
              isCapital_of_unlisted c.valid (Nat.not_lt.1 ascii) found (List.find?_eq_none.1 moved)
            rw [Char.ofNat_toNat] at capital
            exact ⟨c, [], capital, capital⟩

theorem capitalize_eq_nil_iff {text : Text} : capitalize text = [] ↔ text = [] := by
  cases text with
  | nil => simp [capitalize]
  | cons c rest =>
      obtain ⟨first, others, form, -⟩ := uppercase_starts_capital c
      simp [capitalize, form]

/-- **Capitalizing twice is capitalizing once.** -/
theorem capitalize_capitalize (text : Text) : capitalize (capitalize text) = capitalize text := by
  cases text with
  | nil => rfl
  | cons c rest =>
      obtain ⟨first, others, form, capital⟩ := uppercase_starts_capital c
      rw [capitalize, form, List.cons_append, capitalize, capital]
      rfl

end CatalogListing.Text
