/-
# Proofs.Settings.Location -- where an expanded location lies

A location lies in a directory, or below it, if it goes through the names of the directory
first (`Location.Within`).  A relative rest behind a base goes through the names of the base and
then through its own (`Location.names_join`), so it lies within the base; an absolute rest leaves
nothing of the base.

Expansion of a text (`Surroundings.expanded_within`): every text becomes an absolute location, an
absolute one as it is written, and a relative one lies within the current directory.  Behind `~/`
a rest lies within the home directory unless it starts with a slash; such a rest replaces the
home directory (`Surroundings.doubled_slash_leaves_home`).
-/
import CatalogListing.Proofs.Text.Cuts
import CatalogListing.Proofs.Text.Trim
import CatalogListing.Settings.Location

namespace CatalogListing

set_option autoImplicit false

namespace Location

/-- The names that a location goes through, without those that stay where they are. -/
def names (location : Text) : List Text :=
  (components location).filter fun name => name != ['.']

/-- An absolute location in a directory or below it, told from the names of both. -/
structure Within (base location : Text) : Prop where
  absolute : isAbsolute location = true
  goesThrough : names base <+: names location

/-- The location is a base followed by a rest as it is written, with at most a slash between. -/
def Continues (base rest location : Text) : Prop :=
  ∃ slash, (slash = [] ∨ slash = ['/']) ∧ location = base ++ (slash ++ rest)

variable {base rest location : Text}

/-! ## Joining -/

theorem isAbsolute_append (absolute : isAbsolute base = true) (more : Text) :
    isAbsolute (base ++ more) = true := by
  cases base with
  | nil => cases absolute
  | cons c others => exact absolute

theorem join_of_relative (relative : isAbsolute rest = false) :
    Continues base rest (join base rest) := by
  rw [join, if_neg (Bool.eq_false_iff.1 relative)]
  split
  · exact ⟨[], .inl rfl, rfl⟩
  · exact ⟨['/'], .inr rfl, rfl⟩

theorem join_of_absolute (absolute : isAbsolute rest = true) : join base rest = rest :=
  if_pos absolute

theorem not_continues_self (absolute : isAbsolute base = true) : ¬ Continues base rest rest := by
  rintro ⟨slash, -, whole⟩
  have lengths := congrArg List.length whole
  rw [List.length_append, List.length_append] at lengths
  have nothing : base = [] := List.length_eq_zero_iff.1 (by omega)
  rw [nothing] at absolute
  cases absolute

theorem isAbsolute_join (absolute : isAbsolute base = true) :
    isAbsolute (join base rest) = true := by
  cases rooted : isAbsolute rest with
  | true => rwa [join_of_absolute rooted]
  | false =>
      obtain ⟨slash, -, whole⟩ : Continues base rest (join base rest) := join_of_relative rooted
      rw [whole]
      exact isAbsolute_append absolute _

theorem components_append_slash (base rest : Text) :
    components (base ++ '/' :: rest) = components base ++ components rest :=
  @Text.words_append_cons (· == '/') '/' rfl base rest

/-- A relative rest goes on where its base ends. -/
theorem components_join (relative : isAbsolute rest = false) :
    components (join base rest) = components base ++ components rest := by
  rw [join, if_neg (Bool.eq_false_iff.1 relative)]
  split
  · rename_i closed
    rw [Bool.or_eq_true, List.isEmpty_iff, beq_iff_eq, List.getLast?_eq_some_iff] at closed
    rcases closed with rfl | ⟨front, rfl⟩
    · rfl
    · have ends : components (front ++ ['/']) = components front := by
        rw [components_append_slash]
        exact List.append_nil _
      rw [List.append_assoc, List.singleton_append, components_append_slash, ends]
  · exact components_append_slash base rest

theorem names_join (relative : isAbsolute rest = false) :
    names (join base rest) = names base ++ names rest := by
  rw [names, components_join relative, List.filter_append, names, names]

theorem within_refl (absolute : isAbsolute base = true) : Within base base :=
  ⟨absolute, List.prefix_refl _⟩

theorem within_join (absolute : isAbsolute base = true) (relative : isAbsolute rest = false) :
    Within base (join base rest) := by
  refine ⟨isAbsolute_join absolute, ?_⟩
  rw [names_join relative]
  exact List.prefix_append _ _

end Location

namespace Surroundings

open Location (Continues Within isAbsolute join)
open Text (Blank trim)

variable {around : Surroundings} {text : Text}

/-! ## Expanding -/

theorem expand_of_blank (blank : Blank text) : around.expand text = around.directory := by
  rw [expand, Text.trim_eq_nil_iff.2 blank]
  rfl

theorem expand_of_solid (solid : ¬ Blank text) :
    around.expand text =
      if isAbsolute (around.withHome (trim text)) then around.withHome (trim text)
      else join around.directory (around.withHome (trim text)) := by
  rw [← Text.trim_eq_nil_iff, ← List.isEmpty_iff] at solid
  exact if_neg solid

theorem withHome_of_other {location : Text} (alone : location ≠ ['~'])
    (front : ∀ rest, location ≠ '~' :: '/' :: rest) : around.withHome location = location := by
  unfold withHome
  split
  · exact absurd rfl alone
  · exact absurd rfl (front _)
  · rfl

theorem withHome_of_absolute {location : Text} (absolute : isAbsolute location = true) :
    around.withHome location = location :=
  withHome_of_other (by rintro rfl; cases absolute) (by rintro rest rfl; cases absolute)

theorem not_blank_of_trim {location : Text} (trimmed : trim text = location)
    (some_ : location ≠ []) : ¬ Blank text :=
  fun blank => some_ (trimmed.symm.trans (Text.trim_eq_nil_iff.2 blank))

theorem expand_of_home (home : isAbsolute around.home = true) (alone : trim text = ['~']) :
    around.expand text = around.home := by
  rw [expand_of_solid (not_blank_of_trim alone (List.cons_ne_nil _ _)), alone]
  exact if_pos home

theorem expand_of_behindHome (home : isAbsolute around.home = true) {rest : Text}
    (behind : trim text = '~' :: '/' :: rest) : around.expand text = join around.home rest := by
  rw [expand_of_solid (not_blank_of_trim behind (List.cons_ne_nil _ _)), behind]
  exact if_pos (Location.isAbsolute_join home)

theorem expand_of_absolute (absolute : isAbsolute (trim text) = true) :
    around.expand text = trim text := by
  have some_ : trim text ≠ [] := fun nothing => by
    rw [nothing] at absolute
    cases absolute
  rw [expand_of_solid (not_blank_of_trim rfl some_), withHome_of_absolute absolute, if_pos absolute]

/-- Any other text stands for a location in the current directory. -/
theorem expand_of_relative (relative : isAbsolute (trim text) = false) (alone : trim text ≠ ['~'])
    (front : ∀ rest, trim text ≠ '~' :: '/' :: rest) :
    around.expand text = if Blank text then around.directory
      else join around.directory (trim text) := by
  split
  · rename_i blank
    exact expand_of_blank blank
  · rename_i solid
    rw [expand_of_solid solid, withHome_of_other alone front, if_neg (Bool.eq_false_iff.1 relative)]

theorem isAbsolute_expand (here : isAbsolute around.directory = true) (text : Text) :
    isAbsolute (around.expand text) = true := by
  by_cases blank : Blank text
  · rwa [expand_of_blank blank]
  · rw [expand_of_solid blank]
    split
    · assumption
    · exact Location.isAbsolute_join here

/-- **Where the location of a text lies**, for every text. -/
theorem expanded_within (home : isAbsolute around.home = true)
    (here : isAbsolute around.directory = true) (text : Text) :
    isAbsolute (around.expand text) = true ∧
    (trim text = ['~'] → around.expand text = around.home) ∧
    (∀ rest, trim text = '~' :: '/' :: rest →
      (Continues around.home rest (around.expand text) ↔ isAbsolute rest = false) ∧
      (Within around.home (around.expand text) ↔
        isAbsolute rest = false ∨ Within around.home rest) ∧
      (isAbsolute rest = true → around.expand text = rest)) ∧
    (isAbsolute (trim text) = false → trim text ≠ ['~'] →
        (∀ rest, trim text ≠ '~' :: '/' :: rest) →
      Continues around.directory (trim text) (around.expand text) ∧
        Within around.directory (around.expand text)) ∧
    (isAbsolute (trim text) = true → around.expand text = trim text) := by
  refine ⟨isAbsolute_expand here text, expand_of_home home, fun rest behind => ?_,
    fun relative alone front => ?_, expand_of_absolute⟩
  · have joined := expand_of_behindHome home behind
    cases rooted : isAbsolute rest with
    | false =>
        rw [joined]
        exact ⟨iff_of_true (Location.join_of_relative rooted) rfl,
          iff_of_true (Location.within_join home rooted) (.inl rfl), fun none_ => nomatch none_⟩
    | true =>
        rw [Location.join_of_absolute rooted] at joined
        rw [joined]
        exact ⟨iff_of_false (Location.not_continues_self home) nofun, (or_iff_right nofun).symm,
          fun _ => rfl⟩
  · rw [expand_of_relative relative alone front]
    split
    · rename_i blank
      rw [Text.trim_eq_nil_iff.2 blank]
      exact ⟨⟨[], .inl rfl, (List.append_nil _).symm⟩, Location.within_refl here⟩
    · exact ⟨Location.join_of_relative relative, Location.within_join here relative⟩

/-- A directory of an account whose home has a slash behind it, and a rest with detours. -/
def annAtWork : Surroundings :=
  ⟨[("HOME", "/home/ann/")], "/srv/work", "/root", []⟩

theorem detour_stays_in_home :
    annAtWork.expand " ~/./data//sieve.db " = "/home/ann/./data//sieve.db" ∧
      Within "/home/ann" "/home/ann/./data//sieve.db" ∧
      Within annAtWork.directory (annAtWork.expand "~ann/data") := by
  have home : isAbsolute annAtWork.home = true := by decide
  have here : isAbsolute annAtWork.directory = true := by decide
  have place : annAtWork.expand " ~/./data//sieve.db " = "/home/ann/./data//sieve.db" := by
    decide +kernel
  obtain ⟨-, -, behindHome, -, -⟩ := expanded_within home here " ~/./data//sieve.db "
  obtain ⟨-, -, -, relative, -⟩ := expanded_within home here "~ann/data"
  have inside := ((behindHome "./data//sieve.db" (by decide +kernel)).2.1).2 (.inl (by decide))
  rw [place] at inside
  exact ⟨place, ⟨inside.absolute, inside.goesThrough⟩,
    (relative (by decide +kernel) (by decide +kernel) fun rest same => by cases same).2⟩

/-- A rest that starts with a slash replaces the home directory. -/
theorem doubled_slash_leaves_home :
    annAtWork.expand "~//etc/passwd" = "/etc/passwd" ∧
      ¬ Within annAtWork.home (annAtWork.expand "~//etc/passwd") := by
  have place : annAtWork.expand "~//etc/passwd" = "/etc/passwd" := by decide +kernel
  rw [place]
  exact ⟨rfl, fun inside => absurd inside.goesThrough (by decide +kernel)⟩

end Surroundings

end CatalogListing
