/-
# Proofs.Sql.Expansion -- what expansion fills in and what it leaves

The placeholders of a condition cut it into pieces.  `Filled` says that a text has a filling at
each placeholder and the pieces between them as they are; it tells placeholders from the number
of backticks before a question mark, and knows of no reading of the text.

* `Filled.unique`: pieces and fillings make one text;
* `filled_expandText`: expansion fills placeholders from the parameters in order;
* `getElem?_stretches_expandText`: what stands inside of backticks stays;
* `expansion_fills_placeholders`: both with the arguments, for every predicate, whether it has
  as many parameters as placeholders, fewer or more.
-/
import CatalogListing.Proofs.Sql.Layout
import CatalogListing.Proofs.Text.Cuts

namespace CatalogListing.Sql

set_option autoImplicit false

/-! ## Pieces between placeholders -/

/-- Every question mark of the text is quoted: the number of backticks before it is not even. -/
def Unmarked (text : Text) : Prop :=
  ∀ before after, text = before ++ '?' :: after → ¬ Even (before.count backtick)

/-- A text with placeholders has a first one. -/
theorem exists_first_placeholder {quoted : Bool} {text : Text}
    (marked : countPlaceholders quoted text ≠ 0) :
    ∃ piece rest, text = piece ++ '?' :: rest ∧ countPlaceholders quoted piece = 0 ∧
      quotedBehind quoted piece = false := by
  induction text generalizing quoted with
  | nil => exact absurd rfl marked
  | cons c rest ih =>
      by_cases mark : c = '?' ∧ quoted = false
      · obtain ⟨rfl, rfl⟩ := mark
        exact ⟨[], rest, rfl, rfl, rfl⟩
      · rw [countPlaceholders_other mark] at marked
        obtain ⟨piece, later, rfl, unmarked, outside⟩ := ih marked
        refine ⟨c :: piece, later, rfl, ?_, outside⟩
        rw [countPlaceholders_other mark, unmarked]

theorem countPlaceholders_eq_zero_iff (text : Text) :
    countPlaceholders false text = 0 ↔ Unmarked text := by
  constructor
  · rintro none_ before after rfl closed
    rw [countPlaceholders_append, (quotedBehind_eq_iff false before).2 closed,
      countPlaceholders_mark] at none_
    omega
  · intro unmarked
    by_contra marked
    obtain ⟨piece, rest, rfl, -, outside⟩ := exists_first_placeholder marked
    exact unmarked piece rest rfl ((quotedBehind_eq_iff false piece).1 outside)

/-- The text may stand before a placeholder: it has none of its own and leaves no backtick
open. -/
structure IsPiece (text : Text) : Prop where
  unmarked : Unmarked text
  closed : Even (text.count backtick)

theorem isPiece_iff_balanced (text : Text) : IsPiece text ↔ Balanced text 0 :=
  ⟨fun piece => ⟨piece.closed, (countPlaceholders_eq_zero_iff text).2 piece.unmarked⟩,
    fun balanced => ⟨(countPlaceholders_eq_zero_iff text).1 balanced.marks, balanced.closed⟩⟩

/-- What holds of a text without placeholders, and of every text if it holds of the text behind
its first placeholder. -/
theorem pieceInduction {motive : Text → Prop} (last : ∀ piece, Unmarked piece → motive piece)
    (next : ∀ piece rest, IsPiece piece → motive rest → motive (piece ++ '?' :: rest))
    (text : Text) : motive text := by
  by_cases none_ : countPlaceholders false text = 0
  · exact last text ((countPlaceholders_eq_zero_iff text).1 none_)
  · obtain ⟨piece, rest, whole, unmarked, outside⟩ := exists_first_placeholder none_
    have balanced : Balanced piece 0 := ⟨(quotedBehind_eq_iff false piece).1 outside, unmarked⟩
    have shorter : rest.length < text.length := by
      rw [whole, List.length_append, List.length_cons]
      omega
    rw [whole]
    exact next piece rest ((isPiece_iff_balanced piece).2 balanced)
      (pieceInduction last next rest)
termination_by text.length

namespace IsPiece

variable {piece other : Text}

theorem countPlaceholders_append_mark (isPiece : IsPiece piece) (rest : Text) :
    countPlaceholders false (piece ++ '?' :: rest) = countPlaceholders false rest + 1 := by
  have balanced := (isPiece_iff_balanced piece).1 isPiece
  rw [countPlaceholders_append, balanced.quotedBehind_eq, balanced.marks, countPlaceholders_mark,
    Nat.zero_add]

/-- Expansion leaves the piece before a placeholder. -/
theorem expandText_append_mark (isPiece : IsPiece piece) (rest : Text)
    (parameters : List Parameter) :
    expandText false (piece ++ '?' :: rest) parameters =
      (expandText false ('?' :: rest) parameters).after piece [] := by
  have balanced := (isPiece_iff_balanced piece).1 isPiece
  rw [expandText_append, balanced.quotedBehind_eq, balanced.marks, List.drop_zero,
    expandText_of_unmarked balanced.marks]

/-- A text without placeholders goes no further than a piece of it with a placeholder behind,
or that one would stand in the text. -/
theorem eq_nil_of_append (isPiece : IsPiece piece) {between rest later : Text}
    (unmarked : Unmarked (piece ++ between)) (same : '?' :: rest = between ++ '?' :: later) :
    between = [] := by
  cases between with
  | nil => rfl
  | cons c between =>
      obtain ⟨rfl, -⟩ := List.cons.inj same
      exact absurd isPiece.closed (unmarked piece between rfl)

/-- The piece before the first placeholder is known from the text. -/
theorem unique (isPiece : IsPiece piece) (isPieceToo : IsPiece other) {rest later : Text}
    (same : piece ++ '?' :: rest = other ++ '?' :: later) : piece = other ∧ rest = later := by
  have equal : piece = other := by
    rcases List.append_eq_append_iff.1 same with
      ⟨between, rfl, behind⟩ | ⟨between, rfl, behind⟩
    · rw [isPiece.eq_nil_of_append isPieceToo.unmarked behind, List.append_nil]
    · rw [isPieceToo.eq_nil_of_append isPiece.unmarked behind, List.append_nil]
  subst equal
  exact ⟨rfl, (List.cons.inj (List.append_cancel_left same)).2⟩

end IsPiece

/-! ## Fillings -/

/-- The result is the text with the fillings at its placeholders, in order and one at each. -/
inductive Filled : Text → List Text → Text → Prop where
  | last {piece : Text} : Unmarked piece → Filled piece [] piece
  | next {piece filling rest result : Text} {fillings : List Text} :
      IsPiece piece → Filled rest fillings result →
      Filled (piece ++ '?' :: rest) (filling :: fillings) (piece ++ (filling ++ result))

/-- **Pieces and fillings make one text.** -/
theorem Filled.unique {text result other : Text} {fillings : List Text}
    (filled : Filled text fillings result) (again : Filled text fillings other) :
    result = other := by
  induction filled generalizing other with
  | last unmarked =>
      cases again
      rfl
  | @next piece filling rest result fillings isPiece filled ih =>
      generalize whole : piece ++ '?' :: rest = text at again
      cases again with
      | next isPieceToo later =>
          obtain ⟨rfl, rfl⟩ := isPiece.unique isPieceToo whole
          rw [ih later]

/-- **Expansion fills every placeholder.**  The first ones take a parameter each, those beyond
the parameters stay, and parameters beyond the placeholders go nowhere. -/
theorem filled_expandText (text : Text) (parameters : List Parameter) :
    Filled text
      ((parameters.take (countPlaceholders false text)).map Parameter.slots ++
        List.replicate (countPlaceholders false text - parameters.length) ['?'])
      (expandText false text parameters).sql := by
  induction text using pieceInduction generalizing parameters with
  | last piece unmarked =>
      have none_ := (countPlaceholders_eq_zero_iff piece).2 unmarked
      rw [none_, Nat.zero_sub, List.take_zero, expandText_of_unmarked none_]
      exact .last unmarked
  | next piece rest isPiece ih =>
      rw [isPiece.countPlaceholders_append_mark, isPiece.expandText_append_mark]
      cases parameters with
      | nil =>
          have later := ih []
          rw [List.take_nil] at later ⊢
          exact .next isPiece later
      | cons parameter others =>
          rw [List.take_succ_cons, List.length_cons, Nat.add_sub_add_right]
          exact .next isPiece (ih others)

/-! ## What is filled in -/

/-- A placeholder for each element of a set, and one for any other parameter; `NULL` where that
leaves none. -/
theorem Parameter.slots_eq (parameter : Parameter) :
    parameter.slots =
      if parameter.width = 0 then ("NULL" : Text)
      else List.intercalate ", " (List.replicate parameter.width ['?']) := by
  cases parameter with
  | list items => cases items <;> rfl
  | boolean b => rfl
  | text t => rfl

theorem Parameter.count_slots (parameter : Parameter) :
    parameter.slots.count '?' = parameter.width := by
  have reads : Reads (fun _ => True) parameter.slots (parameter.slots.count '?') :=
    .plain parameter.backtick_notMem_slots
  rw [← reads.countPlaceholders_eq, parameter.countPlaceholders_slots, parameter.length_arguments]

/-! ## Quoted text -/

/-- What stands between the backticks of a text; the stretches with an odd index are quoted. -/
def stretches (text : Text) : List Text :=
  Text.pieces (· == backtick) text

theorem stretches_backtick (text : Text) : stretches (backtick :: text) = [] :: stretches text :=
  @Text.pieces_cons_of_separates (· == backtick) backtick (beq_self_eq_true backtick) text

theorem stretches_cons_of_ne {c : Char} (ne : c ≠ backtick) (text : Text) :
    stretches (c :: text) = (stretches text).modifyHead (c :: ·) :=
  @Text.pieces_cons_of_not (· == backtick) c (beq_eq_false_iff_ne.2 ne) text

theorem stretches_append {before : Text} (unquoted : backtick ∉ before) (text : Text) :
    stretches (before ++ text) = (stretches text).modifyHead (before ++ ·) :=
  Text.pieces_before (Text.beq_mark_of_notMem unquoted) text

/-- Texts without backticks change only the first stretch of what they are put before. -/
theorem getElem?_stretches_congr {before other : Text} (unquoted : backtick ∉ before)
    (unquotedToo : backtick ∉ other) {text later : Text} {i : Nat}
    (same : (stretches text)[i + 1]? = (stretches later)[i + 1]?) :
    (stretches (before ++ text))[i + 1]? = (stretches (other ++ later))[i + 1]? := by
  simpa [stretches_append unquoted, stretches_append unquotedToo] using same

/-- **Expansion leaves quoted text.**  Every second stretch is quoted, from the first one on in a
text that starts inside of backticks. -/
theorem getElem?_stretches_expandText (quoted : Bool) (text : Text) (parameters : List Parameter)
    (i : Nat) :
    (stretches (expandText quoted text parameters).sql)[2 * i + (!quoted).toNat]? =
      (stretches text)[2 * i + (!quoted).toNat]? := by
  have unquotedMark : backtick ∉ ['?'] := by decide
  induction quoted, text, parameters using placeholderInduction generalizing i with
  | nil quoted parameters => rfl
  | missing rest ih =>
      rw [expandText_missing]
      exact getElem?_stretches_congr unquotedMark unquotedMark (ih i)
  | mark rest parameter others ih =>
      rw [expandText_mark]
      exact getElem?_stretches_congr parameter.backtick_notMem_slots unquotedMark (ih i)
  | other quoted c rest parameters other ih =>
      rw [expandText_other other]
      change (stretches (c :: (expandText (quotedAfter quoted c) rest parameters).sql))[_]? = _
      by_cases quote : c = backtick
      · -- A backtick ends a stretch, and the one behind it is quoted if this one is not.
        subst quote
        rw [stretches_backtick, stretches_backtick]
        have turned : quotedAfter quoted backtick = !quoted := if_pos rfl
        rw [turned] at ih ⊢
        cases quoted with
        | false => exact ih i
        | true =>
            cases i with
            | zero => rfl
            | succ i => exact ih i
      · have same : quotedAfter quoted c = quoted := if_neg quote
        rw [same] at ih ⊢
        rw [stretches_cons_of_ne quote, stretches_cons_of_ne quote, List.getElem?_modifyHead,
          List.getElem?_modifyHead, ih i]

/-! ## Predicates -/

/-- **Expansion changes a predicate at its placeholders and nowhere else.**  Each placeholder
takes a parameter while there are any and is bound to null beyond them; parameters beyond the
placeholders change nothing. -/
theorem expansion_fills_placeholders (predicate : Predicate) :
    let count := predicate.placeholderCount
    let bound := predicate.parameters.take count
    let missing := count - predicate.parameters.length
    let expanded := predicate.expand
    countPlaceholders false expanded.sql = expanded.arguments.length ∧
      (∀ sql, Filled predicate.condition
        (bound.map Parameter.slots ++ List.replicate missing ['?']) sql ↔ sql = expanded.sql) ∧
      (∀ parameter : Parameter, parameter.slots.count '?' = parameter.width ∧
        parameter.slots = if parameter.width = 0 then ("NULL" : Text)
          else List.intercalate ", " (List.replicate parameter.width ['?'])) ∧
      (∀ i, (stretches expanded.sql)[2 * i + 1]? = (stretches predicate.condition)[2 * i + 1]?) ∧
      expanded.arguments =
        bound.flatMap Parameter.arguments ++ List.replicate missing .null ∧
      (count = predicate.parameters.length →
        (∀ sql, Filled predicate.condition (predicate.parameters.map Parameter.slots) sql ↔
          sql = expanded.sql) ∧
        expanded.arguments = predicate.parameters.flatMap Parameter.arguments ∧
        expanded.arguments.length = predicate.width) ∧
      (count ≤ predicate.parameters.length → ∀ surplus,
        Predicate.expand ⟨predicate.condition, predicate.parameters ++ surplus⟩ = expanded) := by
  intro count bound missing expanded
  have fills : ∀ sql, Filled predicate.condition
      (bound.map Parameter.slots ++ List.replicate missing ['?']) sql ↔ sql = expanded.sql := by
    intro sql
    have filled := filled_expandText predicate.condition predicate.parameters
    exact ⟨fun other => other.unique filled, fun same => same ▸ filled⟩
  refine ⟨countPlaceholders_expandText .., fills,
    fun parameter => ⟨parameter.count_slots, parameter.slots_eq⟩,
    getElem?_stretches_expandText false predicate.condition predicate.parameters,
    arguments_expandText_eq .., fun balanced => ?_, fun enough => expandText_surplus enough⟩
  have arguments : expanded.arguments = predicate.parameters.flatMap Parameter.arguments :=
    arguments_expandText balanced
  have all : bound = predicate.parameters :=
    List.take_of_length_le (Nat.le_of_eq balanced.symm)
  have none_ : missing = 0 := Nat.sub_eq_zero_of_le (Nat.le_of_eq balanced)
  rw [all, none_, List.replicate_zero, List.append_nil] at fills
  exact ⟨fills, arguments, by rw [arguments, Predicate.width, Parameter.sum_width_eq]⟩

/-- Question marks in a name with a doubled backtick and in one that is left open, a set of two
and one of none. -/
def hostileMarks : Predicate :=
  ⟨"\x60we\x60\x60ird?\x60 in (?) AND (\x60a\x60 = ? OR \x60b\x60 not in (?)) AND \x60open?",
    [.list ["x", "y"], .boolean true, .list []]⟩

/-- Three of the five question marks are placeholders, and take three arguments. -/
theorem hostileMarks_take_three :
    hostileMarks.placeholderCount = hostileMarks.parameters.length ∧
      Filled hostileMarks.condition ["?, ?", "?", "NULL"] hostileMarks.expand.sql ∧
      hostileMarks.expand.arguments = [.text "x", .text "y", .boolean true] ∧
      hostileMarks.expand.arguments.length = hostileMarks.width ∧
      Predicate.expand ⟨hostileMarks.condition, hostileMarks.parameters ++ [.text "z"]⟩ =
        hostileMarks.expand := by
  have balanced : hostileMarks.placeholderCount = hostileMarks.parameters.length := by
    decide +kernel
  obtain ⟨-, -, -, -, -, whenBalanced, surplus⟩ := expansion_fills_placeholders hostileMarks
  obtain ⟨fills, arguments, width⟩ := whenBalanced balanced
  exact ⟨balanced, (fills _).2 rfl, arguments, width, surplus (Nat.le_of_eq balanced) _⟩

end CatalogListing.Sql
