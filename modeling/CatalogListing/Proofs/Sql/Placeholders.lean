/-
# Proofs.Sql.Placeholders -- placeholders and the arguments bound to them

Expansion puts text at the placeholders of a condition and nowhere else, so its effect
on a text is known from the placeholders alone.

* `expandText_append`: a text behind another one is expanded with the parameters that
  the placeholders before it leave;
* `countPlaceholders_expandText`: whatever the condition and its parameters are, the
  expanded text has one placeholder for each argument;
* `arguments_expandText_eq`: the arguments, with as many parameters as placeholders or not;
* `Lexes.expandText`: expansion leaves the names of a text as they are.
-/
import CatalogListing.Proofs.Sql.Lexeme

namespace CatalogListing.Sql

set_option autoImplicit false

/-! ## Where placeholders stand -/

/-- Whether what stands behind a text is quoted. -/
def quotedBehind (quoted : Bool) (text : Text) : Bool :=
  text.foldl quotedAfter quoted

/-- The positions of the placeholders of a text. -/
def positions : Bool → Text → List Nat
  | _, [] => []
  | quoted, c :: rest =>
      let quoted := quotedAfter quoted c
      let later := (positions quoted rest).map (· + 1)
      if c = '?' ∧ !quoted then 0 :: later else later

theorem length_positions (quoted : Bool) (text : Text) :
    (positions quoted text).length = countPlaceholders quoted text := by
  induction text generalizing quoted with
  | nil => rfl
  | cons c rest ih =>
      simp only [positions, countPlaceholders]
      split
      · simp [ih, Nat.add_comm]
      · simp [ih]

theorem positions_append (quoted : Bool) (text other : Text) :
    positions quoted (text ++ other) = positions quoted text ++
      (positions (quotedBehind quoted text) other).map (· + text.length) := by
  induction text generalizing quoted with
  | nil => simp [positions, quotedBehind]
  | cons c rest ih =>
      have shifted : ((positions (quotedBehind (quotedAfter quoted c) rest) other).map
          (· + rest.length)).map (· + 1) =
          (positions (quotedBehind (quotedAfter quoted c) rest) other).map
            (· + (c :: rest).length) := by
        simp [Function.comp_def, Nat.add_assoc]
      have behind : quotedBehind quoted (c :: rest) =
          quotedBehind (quotedAfter quoted c) rest := rfl
      simp only [List.cons_append, positions, ih, List.map_append, shifted, behind]
      split <;> simp

theorem countPlaceholders_append (quoted : Bool) (text other : Text) :
    countPlaceholders quoted (text ++ other) =
      countPlaceholders quoted text + countPlaceholders (quotedBehind quoted text) other := by
  simp [← length_positions, positions_append]

theorem quotedBehind_plain {text : Text} (unquoted : backtick ∉ text) (quoted : Bool) :
    quotedBehind quoted text = quoted := by
  induction text with
  | nil => rfl
  | cons c rest ih =>
      have ne : c ≠ backtick := (List.ne_of_not_mem_cons unquoted).symm
      have same : quotedAfter quoted c = quoted := if_neg ne
      rw [quotedBehind, List.foldl_cons, same]
      exact ih (List.not_mem_of_not_mem_cons unquoted)

/-! ## What stands at one placeholder -/

theorem placeholders_cons (count : Nat) :
    placeholders (count + 2) = '?' :: ',' :: ' ' :: placeholders (count + 1) := rfl

theorem backtick_notMem_placeholders (count : Nat) : backtick ∉ placeholders count := by
  match count with
  | 0 => decide
  | 1 => decide
  | count + 2 =>
      rw [placeholders_cons]
      have later := backtick_notMem_placeholders (count + 1)
      simp [backtick] at later ⊢
      exact later

theorem countPlaceholders_placeholders (count : Nat) :
    countPlaceholders false (placeholders count) = count := by
  match count with
  | 0 => rfl
  | 1 => rfl
  | count + 2 =>
      rw [placeholders_cons]
      have later := countPlaceholders_placeholders (count + 1)
      simp [countPlaceholders, quotedAfter, backtick, later]
      omega

theorem Parameter.length_arguments (parameter : Parameter) :
    parameter.arguments.length = parameter.width := by
  cases parameter <;> simp [arguments, width]

theorem Parameter.sum_width_eq (parameters : List Parameter) :
    (parameters.map width).foldr (· + ·) 0 = (parameters.flatMap arguments).length := by
  induction parameters with
  | nil => rfl
  | cons first rest ih =>
      rw [List.map_cons, List.foldr_cons, ih, List.flatMap_cons, List.length_append,
        length_arguments]

theorem Parameter.backtick_notMem_slots (parameter : Parameter) :
    backtick ∉ parameter.slots := by
  cases parameter with
  | list items =>
      cases items with
      | nil => decide
      | cons item rest => exact backtick_notMem_placeholders _
  | boolean b => exact backtick_notMem_placeholders 1
  | text t => exact backtick_notMem_placeholders 1

/-- One placeholder for each argument. -/
theorem Parameter.countPlaceholders_slots (parameter : Parameter) :
    countPlaceholders false parameter.slots = parameter.arguments.length := by
  rw [length_arguments]
  cases parameter with
  | list items =>
      cases items with
      | nil => rfl
      | cons item rest => exact countPlaceholders_placeholders _
  | boolean b => rfl
  | text t => rfl

theorem Parameter.slots_ne_nil (parameter : Parameter) : parameter.slots ≠ [] := by
  cases parameter with
  | list items =>
      match items with
      | [] => decide
      | [item] => simp [slots, width, placeholders]
      | first :: second :: rest =>
          simp [slots, width, placeholders_cons]
  | boolean b => simp [slots, width, placeholders]
  | text t => simp [slots, width, placeholders]

/-! ## One character at a time -/

theorem countPlaceholders_mark (rest : Text) :
    countPlaceholders false ('?' :: rest) = countPlaceholders false rest + 1 := by
  have same : quotedAfter false '?' = false := rfl
  simp [countPlaceholders, same, Nat.add_comm]

theorem expandText_missing (rest : Text) :
    expandText false ('?' :: rest) [] = (expandText false rest []).after ['?'] [.null] := rfl

theorem expandText_mark (rest : Text) (parameter : Parameter) (others : List Parameter) :
    expandText false ('?' :: rest) (parameter :: others) =
      (expandText false rest others).after parameter.slots parameter.arguments := rfl

/-- The character is no placeholder, and the text behind it is quoted as it leaves it. -/
theorem not_mark {quoted : Bool} {c : Char} (other : ¬ (c = '?' ∧ quoted = false)) :
    ¬ (c = '?' ∧ !quotedAfter quoted c) := by
  rintro ⟨rfl, unquoted⟩
  have same : quotedAfter quoted '?' = quoted := rfl
  simp [same] at unquoted
  exact other ⟨rfl, unquoted⟩

theorem countPlaceholders_other {quoted : Bool} {c : Char}
    (other : ¬ (c = '?' ∧ quoted = false)) (rest : Text) :
    countPlaceholders quoted (c :: rest) = countPlaceholders (quotedAfter quoted c) rest := by
  rw [countPlaceholders, if_neg (not_mark other), Nat.zero_add]

theorem expandText_other {quoted : Bool} {c : Char} (other : ¬ (c = '?' ∧ quoted = false))
    (rest : Text) (parameters : List Parameter) :
    expandText quoted (c :: rest) parameters =
      (expandText (quotedAfter quoted c) rest parameters).after [c] [] := by
  cases parameters <;> simp only [expandText, if_neg (not_mark other)]

/-- What holds of the empty text, and of every text if it holds of the text behind its
first character, whether that is a placeholder or not. -/
theorem placeholderInduction {motive : Bool → Text → List Parameter → Prop}
    (nil : ∀ quoted parameters, motive quoted [] parameters)
    (missing : ∀ rest, motive false rest [] → motive false ('?' :: rest) [])
    (mark : ∀ rest parameter others, motive false rest others →
      motive false ('?' :: rest) (parameter :: others))
    (other : ∀ quoted c rest parameters, ¬ (c = '?' ∧ quoted = false) →
      motive (quotedAfter quoted c) rest parameters → motive quoted (c :: rest) parameters)
    (quoted : Bool) (text : Text) (parameters : List Parameter) :
    motive quoted text parameters := by
  induction text generalizing quoted parameters with
  | nil => exact nil quoted parameters
  | cons c rest ih =>
      by_cases marks : c = '?' ∧ quoted = false
      · obtain ⟨rfl, rfl⟩ := marks
        cases parameters with
        | nil => exact missing rest (ih false [])
        | cons parameter others => exact mark rest parameter others (ih false others)
      · exact other quoted c rest parameters marks (ih _ parameters)

/-! ## Expansion -/

/-- **One placeholder for each argument.**  This needs no balance of parameters and
placeholders: a missing parameter is bound to null, and a surplus one to nothing. -/
theorem countPlaceholders_expandText (quoted : Bool) (text : Text)
    (parameters : List Parameter) :
    countPlaceholders quoted (expandText quoted text parameters).sql =
      (expandText quoted text parameters).arguments.length := by
  induction quoted, text, parameters using placeholderInduction with
  | nil quoted parameters => rfl
  | missing rest ih =>
      rw [expandText_missing, Expanded.after, List.singleton_append, countPlaceholders_mark, ih]
      rfl
  | mark rest parameter others ih =>
      rw [expandText_mark, Expanded.after, countPlaceholders_append,
        quotedBehind_plain parameter.backtick_notMem_slots, parameter.countPlaceholders_slots,
        ih, List.length_append]
  | other quoted c rest parameters other ih =>
      rw [expandText_other other, Expanded.after, List.singleton_append,
        countPlaceholders_other other, ih]
      rfl

/-- A text without placeholders stays as it is. -/
theorem expandText_of_unmarked {text : Text} {quoted : Bool}
    (unmarked : countPlaceholders quoted text = 0) (parameters : List Parameter) :
    expandText quoted text parameters = ⟨text, []⟩ := by
  induction quoted, text, parameters using placeholderInduction with
  | nil quoted parameters => rfl
  | missing rest ih =>
      rw [countPlaceholders_mark] at unmarked
      cases unmarked
  | mark rest parameter others ih =>
      rw [countPlaceholders_mark] at unmarked
      cases unmarked
  | other quoted c rest parameters other ih =>
      rw [countPlaceholders_other other] at unmarked
      rw [expandText_other other, ih unmarked]
      rfl

/-- A text behind another one takes the parameters that the other one leaves. -/
theorem expandText_append (quoted : Bool) (text other : Text) (parameters : List Parameter) :
    expandText quoted (text ++ other) parameters =
      (expandText (quotedBehind quoted text) other
        (parameters.drop (countPlaceholders quoted text))).after
          (expandText quoted text parameters).sql
          (expandText quoted text parameters).arguments := by
  induction quoted, text, parameters using placeholderInduction with
  | nil quoted parameters => rfl
  | missing rest ih =>
      rw [List.cons_append, expandText_missing, expandText_missing, ih, List.drop_nil,
        List.drop_nil]
      rfl
  | mark rest parameter others ih =>
      rw [List.cons_append, expandText_mark, expandText_mark, ih, countPlaceholders_mark,
        List.drop_succ_cons]
      simp only [Expanded.after, List.append_assoc]
      rfl
  | other quoted c rest parameters other ih =>
      rw [List.cons_append, expandText_other other, expandText_other other, ih,
        countPlaceholders_other other]
      rfl

/-- Parameters beyond the placeholders are left over. -/
theorem expandText_surplus {quoted : Bool} {text : Text} {parameters : List Parameter}
    (enough : countPlaceholders quoted text ≤ parameters.length) (surplus : List Parameter) :
    expandText quoted text (parameters ++ surplus) = expandText quoted text parameters := by
  induction quoted, text, parameters using placeholderInduction with
  | nil quoted parameters => rfl
  | missing rest ih =>
      rw [countPlaceholders_mark] at enough
      cases enough
  | mark rest parameter others ih =>
      rw [countPlaceholders_mark, List.length_cons] at enough
      rw [List.cons_append, expandText_mark, expandText_mark, ih (by omega)]
  | other quoted c rest parameters other ih =>
      rw [countPlaceholders_other other] at enough
      rw [expandText_other other, expandText_other other, ih enough]

/-- The arguments are those of the parameters that have a placeholder, and null at each
placeholder without a parameter. -/
theorem arguments_expandText_eq (quoted : Bool) (text : Text) (parameters : List Parameter) :
    (expandText quoted text parameters).arguments =
      (parameters.take (countPlaceholders quoted text)).flatMap Parameter.arguments ++
        List.replicate (countPlaceholders quoted text - parameters.length) .null := by
  induction quoted, text, parameters using placeholderInduction with
  | nil quoted parameters => simp [expandText, countPlaceholders]
  | missing rest ih =>
      rw [expandText_missing, Expanded.after, ih, countPlaceholders_mark, List.take_nil,
        List.take_nil]
      rfl
  | mark rest parameter others ih =>
      rw [expandText_mark, Expanded.after, ih, countPlaceholders_mark, List.take_succ_cons,
        List.flatMap_cons, List.length_cons, Nat.add_sub_add_right, List.append_assoc]
  | other quoted c rest parameters other ih =>
      rw [expandText_other other, Expanded.after, ih, countPlaceholders_other other,
        List.nil_append]

/-- With as many parameters as placeholders, the arguments are those of the parameters. -/
theorem arguments_expandText {quoted : Bool} {text : Text} {parameters : List Parameter}
    (balanced : countPlaceholders quoted text = parameters.length) :
    (expandText quoted text parameters).arguments = parameters.flatMap Parameter.arguments := by
  rw [arguments_expandText_eq, balanced, List.take_length, Nat.sub_self, List.replicate_zero,
    List.append_nil]

/-- Without sets the text stays as it is. -/
theorem sql_expandText {quoted : Bool} {text : Text} {parameters : List Parameter}
    (single : ∀ parameter ∈ parameters, parameter.slots = ['?']) :
    (expandText quoted text parameters).sql = text := by
  induction quoted, text, parameters using placeholderInduction with
  | nil quoted parameters => rfl
  | missing rest ih =>
      rw [expandText_missing, Expanded.after, ih single, List.singleton_append]
  | mark rest parameter others ih =>
      obtain ⟨first, later⟩ := List.forall_mem_cons.1 single
      rw [expandText_mark, Expanded.after, ih later, first, List.singleton_append]
  | other quoted c rest parameters other ih =>
      rw [expandText_other other, Expanded.after, ih single, List.singleton_append]

/-! ## Names -/

def Lexeme.name? : Lexeme → Option Text
  | .name text => some text
  | .char _ => none

/-- The names of lexemes, in order. -/
def namesOf (lexemes : List Lexeme) : List Text :=
  lexemes.filterMap Lexeme.name?

@[simp] theorem namesOf_char_cons (c : Char) (lexemes : List Lexeme) :
    namesOf (.char c :: lexemes) = namesOf lexemes := rfl

@[simp] theorem namesOf_name_cons (text : Text) (lexemes : List Lexeme) :
    namesOf (.name text :: lexemes) = text :: namesOf lexemes := rfl

theorem mem_namesOf {name : Text} {lexemes : List Lexeme} :
    name ∈ namesOf lexemes ↔ Lexeme.name name ∈ lexemes := by
  induction lexemes with
  | nil => simp [namesOf]
  | cons lexeme rest ih => cases lexeme <;> simp [ih]

namespace Scan

/-- What a reading knows about names: those that are complete, and where it stands. -/
def outline (scan : Scan) : List Text × Place :=
  (namesOf scan.lexemes, scan.place)

theorem outline_step {scan other : Scan} (same : scan.outline = other.outline) (c : Char) :
    (scan.step c).outline = (other.step c).outline := by
  obtain ⟨lexemes, place⟩ := scan
  obtain ⟨others, otherPlace⟩ := other
  obtain ⟨names, rfl⟩ := Prod.mk.inj same
  have kept : namesOf lexemes = namesOf others := names
  cases place <;> by_cases quote : c = backtick <;>
    simp_all [step, outline]

theorem outline_foldl_step {scan other : Scan} (same : scan.outline = other.outline)
    (text : Text) :
    (text.foldl step scan).outline = (text.foldl step other).outline := by
  induction text generalizing scan other with
  | nil => exact same
  | cons c rest ih => exact ih (outline_step same c)

/-- Outside of names, one character that is no backtick is as good as another. -/
theorem outline_step_plain {scan : Scan} (outside : scan.isInside = false) {c d : Char}
    (plain : c ≠ backtick) (plainToo : d ≠ backtick) :
    (scan.step c).outline = (scan.step d).outline := by
  obtain ⟨lexemes, place⟩ := scan
  cases place with
  | inside read => cases outside
  | outside => simp [step, outline, plain, plainToo]
  | behind read => simp [step, outline, plain, plainToo]

theorem place_step_plain {scan : Scan} (outside : scan.isInside = false) {c : Char}
    (plain : c ≠ backtick) : (scan.step c).place = .outside := by
  obtain ⟨lexemes, place⟩ := scan
  cases place with
  | inside read => cases outside
  | outside => simp [step, plain]
  | behind read => simp [step, plain]

theorem outline_foldl_step_outside {text : Text} (unquoted : backtick ∉ text) {scan : Scan}
    (outside : scan.place = .outside) : (text.foldl step scan).outline = scan.outline := by
  induction text generalizing scan with
  | nil => rfl
  | cons c rest ih =>
      have plain : c ≠ backtick := (List.ne_of_not_mem_cons unquoted).symm
      have notInside : scan.isInside = false := by simp [isInside, outside]
      have first : (scan.step c).outline = scan.outline := by
        simp [step, outside, plain, outline]
      rw [List.foldl_cons, ih (List.not_mem_of_not_mem_cons unquoted)
        (place_step_plain notInside plain), first]

/-- Outside of names, a text without backticks is as good as one question mark. -/
theorem outline_foldl_step_plain {scan : Scan} (outside : scan.isInside = false) {text : Text}
    (nonempty : text ≠ []) (unquoted : backtick ∉ text) :
    (text.foldl step scan).outline = (scan.step '?').outline := by
  cases text with
  | nil => exact absurd rfl nonempty
  | cons c rest =>
      have plain : c ≠ backtick := (List.ne_of_not_mem_cons unquoted).symm
      rw [List.foldl_cons, outline_foldl_step_outside (List.not_mem_of_not_mem_cons unquoted)
        (place_step_plain outside plain)]
      exact outline_step_plain outside plain (by decide)

end Scan

theorem outline_expandText (scan : Scan) (text : Text) (parameters : List Parameter) :
    ((expandText scan.isInside text parameters).sql.foldl Scan.step scan).outline =
      (text.foldl Scan.step scan).outline := by
  generalize inside : scan.isInside = quoted
  induction quoted, text, parameters using placeholderInduction generalizing scan with
  | nil quoted parameters => rfl
  | missing rest ih =>
      refine ih _ ?_
      rw [isInside_step, inside]
      rfl
  | mark rest parameter others ih =>
      have slots := Scan.outline_foldl_step_plain inside parameter.slots_ne_nil
        parameter.backtick_notMem_slots
      have later := ih (scan.step '?') (by rw [isInside_step, inside]; rfl)
      rw [expandText_mark, Expanded.after, List.foldl_append, List.foldl_cons, ← later]
      exact Scan.outline_foldl_step slots _
  | other quoted c rest parameters other ih =>
      rw [expandText_other other]
      exact ih _ (by rw [isInside_step, inside])

/-- **Expansion touches no name.** -/
theorem Lexes.expandText {text : Text} {lexemes : List Lexeme} (reads : Lexes text lexemes)
    (parameters : List Parameter) :
    ∃ others, Lexes (Sql.expandText false text parameters).sql others ∧
      namesOf others = namesOf lexemes := by
  let scan := (Sql.expandText false text parameters).sql.foldl Scan.step ⟨[], .outside⟩
  have same : scan.outline = (text.foldl Scan.step ⟨[], .outside⟩).outline :=
    outline_expandText ⟨[], .outside⟩ text parameters
  rw [reads []] at same
  obtain ⟨names, place⟩ := Prod.mk.inj same
  refine ⟨scan.lexemes.reverse, .of_foldl ?_, ?_⟩
  · rw [List.reverse_reverse]
    exact congrArg (Scan.mk scan.lexemes) place
  · simpa [namesOf, List.filterMap_reverse] using congrArg List.reverse names

end CatalogListing.Sql
