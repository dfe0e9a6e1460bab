/-
# Proofs.Text.Cuts -- cuts and what joins them again

Cutting a text at a mark and joining the pieces with it are inverse to each other, in both
orders (`pieces_intercalate`, `intercalate_pieces`).  A cut at the first mark is the one whose
left side is free of it (`splitAtFirst_eq_some_iff`), and the inside of delimiters is what
stands between them (`enclosed?_eq_some_iff`).
-/
import CatalogListing.Text.Basic
import Mathlib.Data.List.Basic
import Mathlib.Data.List.TakeWhile

namespace CatalogListing.Text

set_option autoImplicit false

/-! ## Pieces -/

variable {separates : Char → Bool} {mark : Char}

theorem pieces_cons_of_not {c : Char} (plain : separates c = false) (text : Text) :
    pieces separates (c :: text) = (pieces separates text).modifyHead (c :: ·) := by
  have some_ := pieces_ne_nil separates text
  unfold pieces at some_ ⊢
  rw [List.foldr_cons, plain, if_neg Bool.false_ne_true]
  split
  · rename_i none_
    exact absurd none_ some_
  · rename_i part rest cut
    rw [cut]
    rfl

/-- A separator ends an empty piece. -/
theorem pieces_cons_of_separates {c : Char} (cuts : separates c = true) (text : Text) :
    pieces separates (c :: text) = [] :: pieces separates text := by
  change (if separates c then _ else _) = _
  rw [if_pos cuts]
  rfl

theorem pieces_of_forall {part : Text} (plain : ∀ c ∈ part, separates c = false) :
    pieces separates part = [part] := by
  induction part with
  | nil => rfl
  | cons c rest ih =>
      rw [List.forall_mem_cons] at plain
      rw [pieces_cons_of_not plain.1, ih plain.2]
      rfl

theorem pieces_append {part : Text} (plain : ∀ c ∈ part, separates c = false) {c : Char}
    (cuts : separates c = true) (rest : Text) :
    pieces separates (part ++ c :: rest) = part :: pieces separates rest := by
  induction part with
  | nil => exact pieces_cons_of_separates cuts rest
  | cons first others ih =>
      rw [List.forall_mem_cons] at plain
      rw [List.cons_append, pieces_cons_of_not plain.1, ih plain.2]
      rfl

/-- A separator ends the pieces before it. -/
theorem pieces_append_cons {c : Char} (cuts : separates c = true) (text rest : Text) :
    pieces separates (text ++ c :: rest) = pieces separates text ++ pieces separates rest := by
  induction text with
  | nil =>
      rw [List.nil_append, pieces_nil, List.singleton_append]
      exact pieces_cons_of_separates cuts rest
  | cons d others ih =>
      rw [List.cons_append]
      by_cases plain : separates d = false
      · rw [pieces_cons_of_not plain, pieces_cons_of_not plain, ih]
        obtain ⟨first, more, cut⟩ :=
          List.exists_cons_of_ne_nil (pieces_ne_nil separates others)
        rw [cut]
        rfl
      · rw [Bool.not_eq_false] at plain
        rw [pieces_cons_of_separates plain, pieces_cons_of_separates plain, ih, List.cons_append]

/-- What stands before a text and separates nothing belongs to its first piece. -/
theorem pieces_before {before : Text} (plain : ∀ c ∈ before, separates c = false) (text : Text) :
    pieces separates (before ++ text) = (pieces separates text).modifyHead (before ++ ·) := by
  induction before with
  | nil =>
      obtain ⟨first, others, cut⟩ := List.exists_cons_of_ne_nil (pieces_ne_nil separates text)
      rw [List.nil_append, cut]
      rfl
  | cons c rest ih =>
      rw [List.forall_mem_cons] at plain
      rw [List.cons_append, pieces_cons_of_not plain.1, ih plain.2, List.modifyHead_modifyHead]
      rfl

/-- What stands behind a text and separates nothing belongs to its last piece. -/
theorem pieces_behind {behind : Text} (plain : ∀ c ∈ behind, separates c = false) (text : Text) :
    ∃ parts last, pieces separates text = parts ++ [last] ∧
      pieces separates (text ++ behind) = parts ++ [last ++ behind] := by
  induction text with
  | nil => exact ⟨[], [], rfl, pieces_of_forall plain⟩
  | cons c rest ih =>
      obtain ⟨parts, last, cut, longer⟩ := ih
      by_cases cuts : separates c = true
      · rw [List.cons_append, pieces_cons_of_separates cuts, pieces_cons_of_separates cuts, cut,
          longer]
        exact ⟨[] :: parts, last, rfl, rfl⟩
      · rw [List.cons_append, pieces_cons_of_not (Bool.eq_false_iff.2 cuts),
          pieces_cons_of_not (Bool.eq_false_iff.2 cuts), cut, longer]
        cases parts with
        | nil => exact ⟨[], c :: last, rfl, rfl⟩
        | cons part others => exact ⟨(c :: part) :: others, last, rfl, rfl⟩

theorem words_append_cons {c : Char} (cuts : separates c = true) (text rest : Text) :
    words separates (text ++ c :: rest) = words separates text ++ words separates rest := by
  rw [words, pieces_append_cons cuts, List.filter_append, words, words]

theorem beq_mark_of_notMem {part : Text} (absent : mark ∉ part) :
    ∀ c ∈ part, (c == mark) = false := by
  intro c member
  rw [beq_eq_false_iff_ne]
  rintro rfl
  exact absent member

/-- Parts that a mark joins are the pieces between the marks. -/
theorem pieces_intercalate {parts : List Text} (some_ : parts ≠ [])
    (absent : ∀ part ∈ parts, mark ∉ part) :
    pieces (· == mark) (List.intercalate [mark] parts) = parts := by
  induction parts with
  | nil => exact absurd rfl some_
  | cons part rest ih =>
      rw [List.forall_mem_cons] at absent
      have plain := beq_mark_of_notMem absent.1
      cases rest with
      | nil => rw [List.intercalate_singleton, pieces_of_forall plain]
      | cons next others =>
          rw [List.intercalate_cons_cons, List.append_assoc, List.singleton_append,
            pieces_append plain (beq_self_eq_true mark), ih (List.cons_ne_nil _ _) absent.2]

/-- Nonempty parts that a mark joins are the words between the marks. -/
theorem words_intercalate {parts : List Text} (whole : ∀ part ∈ parts, part ≠ [] ∧ mark ∉ part) :
    words (· == mark) (List.intercalate [mark] parts) = parts := by
  rcases eq_or_ne parts [] with rfl | some_
  · rfl
  · rw [words, pieces_intercalate some_ fun part member => (whole part member).2,
      List.filter_eq_self]
    intro part member
    rw [Bool.not_eq_true', List.isEmpty_eq_false_iff]
    exact (whole part member).1

/-- A text is the pieces between its marks and the marks. -/
theorem pieces_cases (mark : Char) (text : Text) :
    List.intercalate [mark] (pieces (· == mark) text) = text ∧
      ∀ part ∈ pieces (· == mark) text, mark ∉ part := by
  induction text with
  | nil => exact ⟨rfl, by simp⟩
  | cons c rest ih =>
      obtain ⟨first, others, cut⟩ :=
        List.exists_cons_of_ne_nil (pieces_ne_nil (· == mark) rest)
      rw [cut, List.forall_mem_cons] at ih
      obtain ⟨joined, absent, apart⟩ := ih
      rcases eq_or_ne c mark with rfl | other
      · have cuts : pieces (· == c) (c :: rest) = [] :: first :: others := by
          rw [← cut]
          exact @pieces_cons_of_separates (· == c) c (beq_self_eq_true c) rest
        rw [cuts, List.intercalate_cons_cons, joined]
        exact ⟨rfl, by simpa using ⟨absent, apart⟩⟩
      · have keeps : pieces (· == mark) (c :: rest) = (c :: first) :: others := by
          have plain : (c == mark) = false := beq_eq_false_iff_ne.2 other
          rw [@pieces_cons_of_not (· == mark) c plain, cut]
          rfl
        rw [keeps, List.forall_mem_cons]
        refine ⟨?_, List.not_mem_cons_of_ne_of_not_mem other.symm absent, apart⟩
        rw [← joined]
        cases others <;> rfl

theorem notMem_intercalate {separator : Char} (apart : mark ≠ separator) {parts : List Text}
    (absent : ∀ part ∈ parts, mark ∉ part) : mark ∉ List.intercalate [separator] parts := by
  induction parts with
  | nil => exact List.not_mem_nil
  | cons part rest ih =>
      rw [List.forall_mem_cons] at absent
      cases rest with
      | nil =>
          rw [List.intercalate_singleton]
          exact absent.1
      | cons next others =>
          rw [List.intercalate_cons_cons, List.append_assoc, List.singleton_append, List.mem_append,
            List.mem_cons]
          rintro (before | same | behind)
          · exact absent.1 before
          · exact apart same
          · exact ih absent.2 behind

/-! ## The first mark -/

theorem passes_of_notMem {part : Text} (absent : mark ∉ part) :
    ∀ c ∈ part, (c != mark) = true := by
  intro c member
  rw [bne_iff_ne]
  rintro rfl
  exact absent member

theorem takeWhile_append {part : Text} (absent : mark ∉ part) (rest : Text) :
    (part ++ mark :: rest).takeWhile (· != mark) = part := by
  rw [List.takeWhile_append_of_pos (passes_of_notMem absent), List.takeWhile_cons_of_neg (by simp),
    List.append_nil]

/-- A text without the mark stands before it. -/
theorem splitAtFirst_append {part : Text} (absent : mark ∉ part) (rest : Text) :
    splitAtFirst mark (part ++ mark :: rest) = some (part, rest) := by
  rw [splitAtFirst, takeWhile_append absent,
    List.dropWhile_append_of_pos (passes_of_notMem absent), List.dropWhile_cons_of_neg (by simp)]

theorem splitAtFirst_of_notMem {text : Text} (absent : mark ∉ text) :
    splitAtFirst mark text = none := by
  rw [splitAtFirst, List.dropWhile_eq_nil_iff.2 (passes_of_notMem absent)]

/-- A text has no mark, or a first one. -/
theorem splitAtFirst_cases (mark : Char) (text : Text) :
    (mark ∉ text ∧ splitAtFirst mark text = none) ∨
      ∃ left right, mark ∉ left ∧ text = left ++ mark :: right ∧
        splitAtFirst mark text = some (left, right) := by
  by_cases present : mark ∈ text
  · obtain ⟨left, right, rfl, absent⟩ := List.eq_append_cons_of_mem present
    exact .inr ⟨left, right, absent, rfl, splitAtFirst_append absent right⟩
  · exact .inl ⟨present, splitAtFirst_of_notMem present⟩

/-! ## Delimiters -/

/-- The inside of delimiters is what stands between them. -/
theorem enclosed?_eq_some_iff {opening closing text inside : Text} :
    enclosed? opening closing text = some inside ↔ text = opening ++ (inside ++ closing) := by
  simp only [enclosed?, Option.bind_eq_some_iff, List.isPrefixOf?_eq_some_iff_append_eq,
    List.isSuffixOf?_eq_some_iff_append_eq]
  exact ⟨fun ⟨_, whole, rest⟩ => by rw [rest, whole], fun whole => ⟨_, whole.symm, rfl⟩⟩

end CatalogListing.Text
