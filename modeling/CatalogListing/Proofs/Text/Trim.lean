/-
# Proofs.Text.Trim -- white space around a text

A text is its trimmed text with white space around it (`exists_trim`), and white space around
it makes no difference to what trimming leaves (`trim_around`).  Nothing is left exactly of a
text that is white space (`trim_eq_nil_iff`).
-/
import CatalogListing.Text.Blank
import Mathlib.Data.List.DropRight

namespace CatalogListing.Text

set_option autoImplicit false

/-- The text is white space, or empty. -/
def Blank (text : Text) : Prop :=
  ∀ c ∈ text, isBlank c = true

instance (text : Text) : Decidable (Blank text) :=
  decidable_of_iff (text.all isBlank = true) List.all_eq_true

variable {before text behind : Text}

theorem dropEndWhile_append (drops : Char → Bool) (dropped : ∀ c ∈ behind, drops c = true) :
    dropEndWhile drops (text ++ behind) = dropEndWhile drops text := by
  rw [dropEndWhile, List.reverse_append, List.dropWhile_append_of_pos, dropEndWhile]
  intro c member
  exact dropped c (List.mem_reverse.1 member)

theorem exists_dropEndWhile (drops : Char → Bool) (text : Text) :
    ∃ behind, text = dropEndWhile drops text ++ behind ∧ ∀ c ∈ behind, drops c = true := by
  refine ⟨(text.reverse.takeWhile drops).reverse, ?_, fun c member => ?_⟩
  · rw [dropEndWhile, ← List.reverse_append, List.takeWhile_append_dropWhile, List.reverse_reverse]
  · exact List.mem_takeWhile_imp (List.mem_reverse.1 member)

/-- A text keeps its end exactly when its last character stays. -/
theorem dropEndWhile_eq_self_iff {drops : Char → Bool} :
    dropEndWhile drops text = text ↔ ∀ c, text.getLast? = some c → drops c = false := by
  change List.rdropWhile drops text = text ↔ _
  rw [List.rdropWhile_eq_self_iff]
  constructor
  · intro stays c last
    have some_ : text ≠ [] := fun nothing => by rw [nothing] at last; cases last
    rw [List.getLast?_eq_some_getLast some_] at last
    exact Option.some.inj last ▸ Bool.eq_false_iff.2 (stays some_)
  · intro stays some_
    exact Bool.eq_false_iff.1 (stays _ (List.getLast?_eq_some_getLast some_))

/-- What is left of the end of a text ends with a character that stays. -/
theorem eq_false_of_getLast?_dropEndWhile {drops : Char → Bool} {c : Char}
    (last : (dropEndWhile drops text).getLast? = some c) : drops c = false :=
  dropEndWhile_eq_self_iff.1 (List.rdropWhile_idempotent drops text) c last

/-- Of what is dropped around a text without such characters, the text is left. -/
theorem dropEndWhile_dropWhile_around {drops dropsEnd : Char → Bool}
    (droppedBefore : ∀ c ∈ before, drops c = true)
    (kept : ∀ c ∈ text, drops c = false ∧ dropsEnd c = false)
    (droppedBehind : ∀ c ∈ behind, dropsEnd c = true) :
    dropEndWhile dropsEnd ((before ++ (text ++ behind)).dropWhile drops) = text := by
  rw [List.dropWhile_append_of_pos droppedBefore]
  cases text with
  | nil =>
      have all : ∀ c ∈ behind.dropWhile drops, dropsEnd c = true := fun c member =>
        droppedBehind c ((List.dropWhile_sublist drops).subset member)
      change dropEndWhile dropsEnd ([] ++ behind.dropWhile drops) = dropEndWhile dropsEnd []
      exact dropEndWhile_append dropsEnd all
  | cons first rest =>
      have stays := (kept first List.mem_cons_self).1
      rw [List.cons_append, List.dropWhile_cons_of_neg (Bool.eq_false_iff.1 stays),
        ← List.cons_append, dropEndWhile_append dropsEnd droppedBehind, dropEndWhile_eq_self_iff]
      intro c last
      exact (kept c (List.mem_of_getLast? last)).2

theorem stripBoth_around {drops : Char → Bool} (droppedBefore : ∀ c ∈ before, drops c = true)
    (kept : ∀ c ∈ text, drops c = false) (droppedBehind : ∀ c ∈ behind, drops c = true) :
    stripBoth drops (before ++ (text ++ behind)) = text :=
  dropEndWhile_dropWhile_around droppedBefore (fun c member => ⟨kept c member, kept c member⟩)
    droppedBehind

theorem stripBoth_of_forall {drops : Char → Bool} (kept : ∀ c ∈ text, drops c = false) :
    stripBoth drops text = text := by
  have alone : stripBoth drops ([] ++ (text ++ [])) = text :=
    stripBoth_around (List.forall_mem_nil _) kept (List.forall_mem_nil _)
  rwa [List.nil_append, List.append_nil] at alone

/-- A text is its trimmed text between white space. -/
theorem exists_trim (text : Text) :
    ∃ before behind, text = before ++ (trim text ++ behind) ∧ Blank before ∧ Blank behind := by
  obtain ⟨behind, rest, blank⟩ := exists_dropEndWhile isBlank (text.dropWhile isBlank)
  refine ⟨text.takeWhile isBlank, behind, ?_, fun c => List.mem_takeWhile_imp, blank⟩
  rw [trim, stripBoth, ← rest, List.takeWhile_append_dropWhile]

theorem mem_of_mem_trim {c : Char} (member : c ∈ trim text) : c ∈ text := by
  obtain ⟨before, behind, whole, -, -⟩ := exists_trim text
  rw [whole]
  exact List.mem_append_right _ (List.mem_append_left _ member)

theorem trim_before (blank : Blank before) (text : Text) : trim (before ++ text) = trim text := by
  rw [trim, stripBoth, List.dropWhile_append_of_pos blank, trim, stripBoth]

theorem trim_behind (text : Text) (blank : Blank behind) : trim (text ++ behind) = trim text := by
  rw [trim, stripBoth, List.dropWhile_append]
  split
  · rename_i nothing
    have rest : behind.dropWhile isBlank = [] := List.dropWhile_eq_nil_iff.2 blank
    rw [rest, trim, stripBoth, List.isEmpty_iff.1 nothing]
  · rw [dropEndWhile_append isBlank blank, trim, stripBoth]

/-- White space around a text makes no difference. -/
theorem trim_around (blankBefore : Blank before) (text : Text) (blankBehind : Blank behind) :
    trim (before ++ (text ++ behind)) = trim text := by
  rw [trim_before blankBefore, trim_behind text blankBehind]

theorem trim_trim (text : Text) : trim (trim text) = trim text := by
  obtain ⟨before, behind, whole, blankBefore, blankBehind⟩ := exists_trim text
  conv_rhs => rw [whole, trim_around blankBefore _ blankBehind]

/-- What trimming leaves does not begin with white space. -/
theorem isBlank_of_head?_trim {c : Char} (first : (trim text).head? = some c) :
    isBlank c = false := by
  obtain ⟨behind, rest, -⟩ := exists_dropEndWhile isBlank (text.dropWhile isBlank)
  have begins : (text.dropWhile isBlank).head? = some c := by
    rw [rest, List.head?_append]
    exact Option.or_eq_some_iff.2 (.inl first)
  have stays := List.head?_dropWhile_not isBlank text
  rwa [begins] at stays

/-- A text between characters that are not white space is its own trimmed text. -/
theorem trim_enclosed {opening closing : Char} (solid : isBlank opening = false)
    (solidEnd : isBlank closing = false) (inside : Text) :
    trim (opening :: (inside ++ [closing])) = opening :: (inside ++ [closing]) := by
  rw [trim, stripBoth, List.dropWhile_cons_of_neg (Bool.eq_false_iff.1 solid),
    dropEndWhile_eq_self_iff, ← List.cons_append, List.getLast?_concat]
  intro c same
  exact Option.some.inj same ▸ solidEnd

/-- A text without white space stays as it is. -/
theorem trim_of_forall (solid : ∀ c ∈ text, isBlank c = false) : trim text = text :=
  stripBoth_of_forall solid

/-- Nothing is left of white space only. -/
theorem trim_eq_nil_iff : trim text = [] ↔ Blank text := by
  constructor
  · intro nothing
    obtain ⟨before, behind, whole, blankBefore, blankBehind⟩ := exists_trim text
    rw [nothing, List.nil_append] at whole
    rw [whole]
    intro c member
    exact (List.mem_append.1 member).elim (blankBefore c) (blankBehind c)
  · intro blank
    have alone := trim_before blank []
    rwa [List.append_nil] at alone

end CatalogListing.Text
