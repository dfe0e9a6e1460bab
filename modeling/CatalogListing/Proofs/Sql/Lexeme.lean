/-
# Proofs.Sql.Lexeme -- quoted names and what stands between them

SQL text read by the rule that names depend on: a name stands between backticks, and a
doubled backtick inside it is one.  Outside of names the text is left as characters.

* `Lexes.quote`: a quoted name is read back as that name, whatever characters it has,
  unless a backtick follows it;
* `countPlaceholders_of_lexemes`: the placeholders that `countPlaceholders` counts are
  the question marks among the lexemes, so it never counts inside a name.
-/
import CatalogListing.Sql.Predicate

namespace CatalogListing.Sql

set_option autoImplicit false

/-- A piece of SQL text: a name without its quotes, or a character outside of names. -/
inductive Lexeme where
  | name (text : Text)
  | char (c : Char)
  deriving DecidableEq, Repr

/-- Where in a text the reading stands; the characters of a name are kept newest first. -/
inductive Place where
  | outside
  | inside (read : Text)
  /-- Behind a backtick, which ends the name unless another one follows. -/
  | behind (read : Text)
  deriving DecidableEq, Repr

/-- A text read up to a place, with its complete lexemes, newest first. -/
structure Scan where
  lexemes : List Lexeme
  place : Place
  deriving DecidableEq, Repr

namespace Scan

/-- One more character. -/
def step (scan : Scan) (c : Char) : Scan :=
  match scan.place with
  | .outside =>
      if c = backtick then ⟨scan.lexemes, .inside []⟩ else ⟨.char c :: scan.lexemes, .outside⟩
  | .inside read =>
      if c = backtick then ⟨scan.lexemes, .behind read⟩ else ⟨scan.lexemes, .inside (c :: read)⟩
  | .behind read =>
      if c = backtick then ⟨scan.lexemes, .inside (c :: read)⟩
      else ⟨.char c :: .name read.reverse :: scan.lexemes, .outside⟩

/-- The lexemes of a text that ends here; none inside a name. -/
def finish? (scan : Scan) : Option (List Lexeme) :=
  match scan.place with
  | .outside => some scan.lexemes.reverse
  | .inside _ => none
  | .behind read => some (.name read.reverse :: scan.lexemes).reverse

/-- The next character stands inside a name. -/
def isInside (scan : Scan) : Bool :=
  match scan.place with
  | .inside _ => true
  | _ => false

end Scan

/-- The lexemes of a text, if its last name is closed. -/
def lexemes? (text : Text) : Option (List Lexeme) :=
  (text.foldl Scan.step ⟨[], .outside⟩).finish?

/-! ## Texts that start and end outside of names -/

/-- The text is read as the lexemes wherever it starts outside of names, and what stands
behind it is outside of names again. -/
def Lexes (text : Text) (lexemes : List Lexeme) : Prop :=
  ∀ before : List Lexeme,
    text.foldl Scan.step ⟨before, .outside⟩ = ⟨lexemes.reverse ++ before, .outside⟩

/-- Lexemes read before do not matter to the reading. -/
theorem foldl_step_before (text : Text) (lexemes before : List Lexeme) (place : Place) :
    text.foldl Scan.step ⟨lexemes ++ before, place⟩ =
      ⟨(text.foldl Scan.step ⟨lexemes, place⟩).lexemes ++ before,
        (text.foldl Scan.step ⟨lexemes, place⟩).place⟩ := by
  induction text generalizing lexemes place with
  | nil => rfl
  | cons c rest ih =>
      have step : Scan.step ⟨lexemes ++ before, place⟩ c =
          ⟨(Scan.step ⟨lexemes, place⟩ c).lexemes ++ before,
            (Scan.step ⟨lexemes, place⟩ c).place⟩ := by
        cases place <;> by_cases quote : c = backtick <;> simp [Scan.step, quote]
      rw [List.foldl_cons, step, ih, List.foldl_cons]

namespace Lexes

variable {text other : Text} {lexemes others : List Lexeme}

theorem lexemes?_eq (reads : Lexes text lexemes) : lexemes? text = some lexemes := by
  simp [lexemes?, reads [], Scan.finish?]

theorem of_foldl (reads : text.foldl Scan.step ⟨[], .outside⟩ = ⟨lexemes.reverse, .outside⟩) :
    Lexes text lexemes := by
  intro before
  have framed := foldl_step_before text [] before .outside
  rw [reads] at framed
  exact framed

theorem nil : Lexes [] [] := fun _ => rfl

theorem append (reads : Lexes text lexemes) (more : Lexes other others) :
    Lexes (text ++ other) (lexemes ++ others) := by
  intro before
  rw [List.foldl_append, reads before, more, List.reverse_append, List.append_assoc]

/-- Without a backtick every character is a lexeme. -/
theorem plain (unquoted : backtick ∉ text) : Lexes text (text.map .char) := by
  intro before
  induction text generalizing before with
  | nil => rfl
  | cons c rest ih =>
      have ne : backtick ≠ c := List.ne_of_not_mem_cons unquoted
      have later : backtick ∉ rest := List.not_mem_of_not_mem_cons unquoted
      have step : Scan.step ⟨before, .outside⟩ c = ⟨.char c :: before, .outside⟩ := by
        simp [Scan.step, ne.symm]
      rw [List.foldl_cons, step, ih later]
      simp

end Lexes

/-- The characters of a name, each backtick among them doubled, stay inside the name. -/
theorem foldl_step_doubled (name : Text) (before : List Lexeme) (read : Text) :
    (name.flatMap fun c => if c = backtick then [backtick, backtick] else [c]).foldl Scan.step
        ⟨before, .inside read⟩ =
      ⟨before, .inside (name.reverse ++ read)⟩ := by
  induction name generalizing read with
  | nil => rfl
  | cons c rest ih =>
      rw [List.flatMap_cons, List.foldl_append]
      have doubled :
          (if c = backtick then [backtick, backtick] else [c]).foldl Scan.step
            ⟨before, .inside read⟩ = ⟨before, .inside (c :: read)⟩ := by
        by_cases quote : c = backtick <;> simp [quote, Scan.step]
      rw [doubled, ih]
      simp

theorem foldl_step_quote (name : Text) (before : List Lexeme) :
    (quote name).foldl Scan.step ⟨before, .outside⟩ = ⟨before, .behind name.reverse⟩ := by
  have opened : Scan.step ⟨before, .outside⟩ backtick = ⟨before, .inside []⟩ := by
    simp [Scan.step]
  rw [quote, List.foldl_cons, opened, List.foldl_append, foldl_step_doubled]
  simp [Scan.step]

/-- **No name closes its own quotes.**  Whatever characters it has, a quoted name is read
as that name when no backtick follows. -/
theorem Lexes.quote (name : Text) {c : Char} {rest : Text} {lexemes : List Lexeme}
    (apart : c ≠ backtick) (reads : Lexes (c :: rest) lexemes) :
    Lexes (quote name ++ c :: rest) (.name name :: lexemes) := by
  intro before
  have closed : Scan.step ⟨before, .behind name.reverse⟩ c =
      Scan.step ⟨.name name :: before, .outside⟩ c := by
    simp [Scan.step, apart]
  have later := reads (.name name :: before)
  rw [List.foldl_append, foldl_step_quote, List.foldl_cons, closed, ← List.foldl_cons, later]
  simp

/-! ## Placeholders -/

theorem isInside_step (scan : Scan) (c : Char) :
    (scan.step c).isInside = quotedAfter scan.isInside c := by
  obtain ⟨lexemes, place⟩ := scan
  cases place <;> by_cases quote : c = backtick <;>
    simp [Scan.step, Scan.isInside, quotedAfter, quote]

/-- One character adds a question mark to the lexemes when it is a placeholder. -/
theorem count_step (scan : Scan) (c : Char) :
    (scan.step c).lexemes.count (.char '?') =
      scan.lexemes.count (.char '?') +
        if c = '?' ∧ !quotedAfter scan.isInside c then 1 else 0 := by
  obtain ⟨lexemes, place⟩ := scan
  have markUnquoted : ('?' : Char) ≠ backtick := by decide
  cases place <;> by_cases quote : c = backtick <;> by_cases mark : c = '?' <;>
    simp_all [Scan.step, Scan.isInside, quotedAfter]

theorem count_foldl_step (text : Text) (scan : Scan) :
    (text.foldl Scan.step scan).lexemes.count (.char '?') =
      scan.lexemes.count (.char '?') + countPlaceholders scan.isInside text := by
  induction text generalizing scan with
  | nil => simp [countPlaceholders]
  | cons c rest ih =>
      rw [List.foldl_cons, ih, isInside_step, count_step, countPlaceholders]
      omega

theorem isInside_foldl_step (text : Text) (scan : Scan) :
    (text.foldl Scan.step scan).isInside = text.foldl quotedAfter scan.isInside := by
  induction text generalizing scan with
  | nil => rfl
  | cons c rest ih => rw [List.foldl_cons, ih, isInside_step, List.foldl_cons]

theorem count_of_finish? {scan : Scan} {lexemes : List Lexeme}
    (finished : scan.finish? = some lexemes) :
    lexemes.count (.char '?') = scan.lexemes.count (.char '?') := by
  obtain ⟨read, place⟩ := scan
  cases place with
  | outside =>
      cases finished
      simp
  | inside name => cases finished
  | behind name =>
      cases finished
      simp [List.count_append]

/-- The placeholders of a text are the question marks among its lexemes. -/
theorem countPlaceholders_of_lexemes {text : Text} {lexemes : List Lexeme}
    (reads : lexemes? text = some lexemes) :
    countPlaceholders false text = lexemes.count (.char '?') := by
  rw [count_of_finish? reads, count_foldl_step]
  simp [Scan.isInside]

end CatalogListing.Sql
