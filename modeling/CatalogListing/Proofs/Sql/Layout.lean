/-
# Proofs.Sql.Layout -- texts laid out from fragments

A condition is fragments with brackets and connectives between them.  `Laid` says that
a text is such a layout; what holds of every fragment then holds of the text, and the
arguments of the text are those of its fragments, in order.

* `Laid.split`: every fragment stands at a place of its own in the text;
* `Laid.expand`: expansion lays out the expanded fragments;
* `exists_place`: an argument and its placeholder belong to the same fragment.
-/
import CatalogListing.Proofs.Sql.Placeholders
import Mathlib.Algebra.Group.Nat.Even
import CatalogListing.Filter.Clause

namespace CatalogListing.Sql

set_option autoImplicit false

/-! ## Closed texts -/

/-- No name in the text is left open, it has `count` placeholders, and only `allowed`
names. -/
def Reads (allowed : Text → Prop) (text : Text) (count : Nat) : Prop :=
  ∃ lexemes, Lexes text lexemes ∧ lexemes.count (.char '?') = count ∧
    ∀ name, Lexeme.name name ∈ lexemes → allowed name

namespace Reads

variable {allowed : Text → Prop} {text other : Text} {count more : Nat}

theorem nil : Reads allowed [] 0 :=
  ⟨[], .nil, rfl, fun _ member => nomatch member⟩

theorem append (reads : Reads allowed text count) (later : Reads allowed other more) :
    Reads allowed (text ++ other) (count + more) := by
  obtain ⟨lexemes, lexes, placeholders, names⟩ := reads
  obtain ⟨others, lexesToo, placeholdersToo, namesToo⟩ := later
  refine ⟨lexemes ++ others, lexes.append lexesToo, ?_, ?_⟩
  · rw [List.count_append, placeholders, placeholdersToo]
  · intro name member
    rcases List.mem_append.1 member with first | second
    · exact names name first
    · exact namesToo name second

theorem plain (unquoted : backtick ∉ text) : Reads allowed text (text.count '?') := by
  refine ⟨text.map .char, .plain unquoted, ?_, ?_⟩
  · rw [List.count, List.countP_map, List.count]
    refine List.countP_congr fun c _ => ?_
    simp
  · intro name member
    obtain ⟨c, -, isName⟩ := List.mem_map.1 member
    cases isName

/-- A fixed text, whose characters can be looked through. -/
theorem fixed (checked : backtick ∉ text ∧ text.count '?' = count) : Reads allowed text count := by
  obtain ⟨unquoted, rfl⟩ := checked
  exact plain unquoted

/-- The text goes on with a character that is no backtick. -/
def goesOnApart : Text → Bool
  | [] => false
  | c :: _ => c != backtick

/-- An allowed name in front of a text that does not go on with a backtick. -/
theorem quote {name : Text} (isAllowed : allowed name) (reads : Reads allowed text count)
    (apart : goesOnApart text = true) : Reads allowed (Sql.quote name ++ text) count := by
  obtain ⟨lexemes, lexes, placeholders, names⟩ := reads
  cases text with
  | nil => cases apart
  | cons c rest =>
      refine ⟨.name name :: lexemes, .quote name (by simpa [goesOnApart] using apart) lexes, ?_, ?_⟩
      · rw [← placeholders]
        exact List.count_cons_of_ne (by simp)
      · intro other member
        rcases List.mem_cons.1 member with same | later
        · obtain rfl := Lexeme.name.inj same
          exact isAllowed
        · exact names other later

theorem countPlaceholders_eq (reads : Reads allowed text count) :
    countPlaceholders false text = count := by
  obtain ⟨lexemes, lexes, placeholders, -⟩ := reads
  rw [countPlaceholders_of_lexemes lexes.lexemes?_eq, placeholders]

theorem quotedBehind_eq (reads : Reads allowed text count) : quotedBehind false text = false := by
  obtain ⟨lexemes, lexes, -, -⟩ := reads
  have inside := isInside_foldl_step text ⟨[], .outside⟩
  rw [lexes []] at inside
  exact inside.symm

theorem expandText (reads : Reads allowed text count) (parameters : List Parameter) :
    Reads allowed (Sql.expandText false text parameters).sql
      (Sql.expandText false text parameters).arguments.length := by
  obtain ⟨lexemes, lexes, -, names⟩ := reads
  obtain ⟨others, expanded, same⟩ := lexes.expandText parameters
  refine ⟨others, expanded, ?_, ?_⟩
  · rw [← countPlaceholders_of_lexemes expanded.lexemes?_eq, countPlaceholders_expandText]
  · intro name member
    rw [← mem_namesOf, same, mem_namesOf] at member
    exact names name member

end Reads

/-! ## Balanced texts -/

theorem quotedBehind_eq_iff (quoted : Bool) (text : Text) :
    quotedBehind quoted text = quoted ↔ Even (text.count backtick) := by
  induction text generalizing quoted with
  | nil => exact ⟨fun _ => Even.zero, fun _ => rfl⟩
  | cons c rest ih =>
      have behind : quotedBehind quoted (c :: rest) =
          quotedBehind (quotedAfter quoted c) rest := rfl
      by_cases quote : c = backtick
      · -- A backtick turns both sides over.
        have after : quotedAfter quoted c = !quoted := if_pos quote
        rw [behind, after, quote, List.count_cons_self, Nat.even_add_one, ← ih (!quoted)]
        cases quoted <;> simp
      · have after : quotedAfter quoted c = quoted := if_neg quote
        rw [behind, after, List.count_cons_of_ne quote, ih]

/-- Every backtick of the text has its partner, and `count` placeholders stand outside of
them. -/
structure Balanced (text : Text) (count : Nat) : Prop where
  closed : Even (text.count backtick)
  marks : countPlaceholders false text = count

namespace Balanced

variable {text other : Text} {count more : Nat}

theorem quotedBehind_eq (balanced : Balanced text count) : quotedBehind false text = false :=
  (quotedBehind_eq_iff false text).2 balanced.closed

/-- Behind a balanced text the other parameters are left. -/
theorem expandText_append {parameters : List Parameter}
    (balanced : Balanced text parameters.length) (other : Text) (more : List Parameter) :
    expandText false (text ++ other) (parameters ++ more) =
      (expandText false other more).after (expandText false text parameters).sql
        (expandText false text parameters).arguments := by
  rw [Sql.expandText_append, balanced.quotedBehind_eq, balanced.marks, List.drop_left,
    expandText_surplus (Nat.le_of_eq balanced.marks)]

theorem nil : Balanced [] 0 := ⟨Even.zero, rfl⟩

theorem append (balanced : Balanced text count) (later : Balanced other more) :
    Balanced (text ++ other) (count + more) where
  closed := by
    rw [List.count_append]
    exact balanced.closed.add later.closed
  marks := by
    rw [countPlaceholders_append, balanced.quotedBehind_eq, balanced.marks, later.marks]

end Balanced

theorem Reads.balanced {allowed : Text → Prop} {text : Text} {count : Nat}
    (reads : Reads allowed text count) : Balanced text count :=
  ⟨(quotedBehind_eq_iff false text).1 reads.quotedBehind_eq, reads.countPlaceholders_eq⟩

/-! ## Layouts -/

/-- Text between fragments: it has neither names nor placeholders. -/
def Glue (text : Text) : Prop :=
  backtick ∉ text ∧ '?' ∉ text

instance (text : Text) : Decidable (Glue text) :=
  inferInstanceAs (Decidable (_ ∧ _))

theorem Glue.reads {text : Text} (glue : Glue text) (allowed : Text → Prop) :
    Reads allowed text 0 := by
  have reads : Reads allowed text (text.count '?') := .plain glue.1
  rwa [List.count_eq_zero_of_not_mem glue.2] at reads

/-- The text is the texts of the parts, in order, with glue around them. -/
inductive Laid {α : Type} (sql : α → Text) : Text → List α → Prop where
  | nil : Laid sql [] []
  | glue {mark rest : Text} {parts : List α} :
      Glue mark → Laid sql rest parts → Laid sql (mark ++ rest) parts
  | part (one : α) {rest : Text} {parts : List α} :
      Laid sql rest parts → Laid sql (sql one ++ rest) (one :: parts)

namespace Laid

variable {α : Type} {sql : α → Text} {text other : Text} {parts others : List α}

theorem append (laid : Laid sql text parts) (later : Laid sql other others) :
    Laid sql (text ++ other) (parts ++ others) := by
  induction laid with
  | nil => exact later
  | glue glue laid ih =>
      rw [List.append_assoc]
      exact .glue glue ih
  | part one laid ih =>
      rw [List.append_assoc]
      exact .part one ih

theorem of_glue (glue : Glue text) : Laid sql text [] := by
  have whole : Laid sql (text ++ []) [] := .glue glue .nil
  rwa [List.append_nil] at whole

theorem single (one : α) : Laid sql (sql one) [one] := by
  have whole : Laid sql (sql one ++ []) [one] := .part one .nil
  rwa [List.append_nil] at whole

/-- Layouts joined by glue. -/
theorem intercalate {separator : Text} (glue : Glue separator) {layouts : List (Text × List α)}
    (laid : ∀ layout ∈ layouts, Laid sql layout.1 layout.2) :
    Laid sql (List.intercalate separator (layouts.map (·.1))) (layouts.flatMap (·.2)) := by
  induction layouts with
  | nil => exact .nil
  | cons first rest ih =>
      have whole := ih fun layout member => laid layout (List.mem_cons_of_mem _ member)
      have firstLaid := laid first List.mem_cons_self
      cases rest with
      | nil => simpa using firstLaid
      | cons second others =>
          rw [List.map_cons, List.map_cons, List.intercalate_cons_cons, List.flatMap_cons,
            List.append_assoc]
          exact firstLaid.append (.glue glue whole)

theorem parenthesized (laid : Laid sql text parts) :
    Laid sql (Filter.parenthesized text) parts := by
  have opening : Glue ['('] := by decide
  have closing : Glue [')'] := by decide
  have whole := Laid.glue opening (laid.append (of_glue closing))
  rwa [List.append_nil] at whole

/-- Every part stands at a place of its own. -/
theorem split {before after : List α} {one : α}
    (laid : Laid sql text (before ++ one :: after)) :
    ∃ left right, text = left ++ (sql one ++ right) ∧
      Laid sql left before ∧ Laid sql right after := by
  generalize whole : before ++ one :: after = parts at laid
  induction laid generalizing before with
  | nil => simp at whole
  | @glue mark rest parts glue laid ih =>
      obtain ⟨left, right, rfl, leftLaid, rightLaid⟩ := ih whole
      exact ⟨mark ++ left, right, by rw [List.append_assoc], .glue glue leftLaid, rightLaid⟩
  | @part first rest parts laid ih =>
      cases before with
      | nil =>
          obtain ⟨rfl, rfl⟩ := List.cons.inj whole
          exact ⟨[], rest, rfl, .nil, laid⟩
      | cons second before =>
          obtain ⟨rfl, later⟩ := List.cons.inj whole
          obtain ⟨left, right, rfl, leftLaid, rightLaid⟩ := ih later
          exact ⟨sql second ++ left, right, by rw [List.append_assoc], .part second leftLaid,
            rightLaid⟩

/-- What texts with a count keep when they are put one behind the other, and glue has with
none, a layout has with the arguments of its parts. -/
theorem keeps {β : Type} {holds : Text → Nat → Prop} {arguments : α → List β}
    (nil : holds [] 0) (ofGlue : ∀ mark, Glue mark → holds mark 0)
    (append : ∀ {text other : Text} {count more : Nat}, holds text count → holds other more →
      holds (text ++ other) (count + more))
    (laid : Laid sql text parts)
    (closed : ∀ one ∈ parts, holds (sql one) (arguments one).length) :
    holds text (parts.flatMap arguments).length := by
  induction laid with
  | nil => exact nil
  | glue glue laid ih =>
      have whole := append (ofGlue _ glue) (ih closed)
      rwa [Nat.zero_add] at whole
  | part one laid ih =>
      rw [List.flatMap_cons, List.length_append]
      exact append (closed one List.mem_cons_self)
        (ih fun other member => closed other (List.mem_cons_of_mem _ member))

/-- A layout of closed texts is closed, with a placeholder for each argument. -/
theorem reads {β : Type} {allowed : Text → Prop} {arguments : α → List β}
    (laid : Laid sql text parts)
    (closed : ∀ one ∈ parts, Reads allowed (sql one) (arguments one).length) :
    Reads allowed text (parts.flatMap arguments).length :=
  laid.keeps .nil (fun _ glue => glue.reads allowed) Reads.append closed

/-- A layout of balanced texts is balanced, with a placeholder for each argument. -/
theorem balanced {β : Type} {arguments : α → List β} (laid : Laid sql text parts)
    (closed : ∀ one ∈ parts, Balanced (sql one) (arguments one).length) :
    Balanced text (parts.flatMap arguments).length :=
  laid.keeps .nil (fun _ glue => (glue.reads fun _ => True).balanced) Balanced.append closed

/-- With a part that is some text, the layout is some text. -/
theorem ne_nil (laid : Laid sql text parts) {one : α} (member : one ∈ parts)
    (some_ : sql one ≠ []) : text ≠ [] := by
  obtain ⟨before, after, rfl⟩ := List.append_of_mem member
  obtain ⟨left, right, rfl, -, -⟩ := laid.split
  exact List.append_ne_nil_of_right_ne_nil left (List.append_ne_nil_of_left_ne_nil some_ right)

end Laid

/-! ## Fragments -/

/-- The fragment is closed, has only allowed names, and has one placeholder exactly when
it has a parameter. -/
def Fragment.Sound (allowed : Text → Prop) (fragment : Fragment) : Prop :=
  Reads allowed fragment.sql fragment.parameter.toList.length

/-- What the parameter of the fragment binds, a set its elements in order. -/
def Fragment.arguments (fragment : Fragment) : List Argument :=
  fragment.parameter.toList.flatMap Parameter.arguments

/-- The fragment with one placeholder for each element of its set. -/
def Fragment.expand (fragment : Fragment) : Expanded :=
  expandText false fragment.sql fragment.parameter.toList

theorem Fragment.Sound.arguments_expand {allowed : Text → Prop} {fragment : Fragment}
    (sound : fragment.Sound allowed) :
    fragment.expand.arguments = fragment.arguments :=
  arguments_expandText (Reads.countPlaceholders_eq sound)

theorem Fragment.Sound.expand {allowed : Text → Prop} {fragment : Fragment}
    (sound : fragment.Sound allowed) :
    Reads allowed fragment.expand.sql fragment.arguments.length := by
  rw [← sound.arguments_expand]
  exact Reads.expandText sound _

/-- **Expansion lays out the expanded fragments.** -/
theorem Laid.expand {allowed : Text → Prop} {text : Text} {parts : List Fragment}
    (laid : Laid Fragment.sql text parts) (sound : ∀ one ∈ parts, one.Sound allowed) :
    Laid (fun one => one.expand.sql)
        (expandText false text (parts.flatMap fun one => one.parameter.toList)).sql parts ∧
      (expandText false text (parts.flatMap fun one => one.parameter.toList)).arguments =
        parts.flatMap Fragment.arguments := by
  induction laid with
  | nil => exact ⟨.nil, rfl⟩
  | @glue mark rest parts glue laid ih =>
      have reads := glue.reads allowed
      have unmarked := reads.countPlaceholders_eq
      obtain ⟨expanded, arguments⟩ := ih sound
      rw [expandText_append, reads.quotedBehind_eq, unmarked, expandText_of_unmarked unmarked,
        List.drop_zero]
      exact ⟨.glue glue expanded, arguments⟩
  | @part one rest parts laid ih =>
      have reads : Reads allowed one.sql one.parameter.toList.length :=
        sound one List.mem_cons_self
      obtain ⟨expanded, arguments⟩ :=
        ih fun other member => sound other (List.mem_cons_of_mem _ member)
      rw [List.flatMap_cons, reads.balanced.expandText_append]
      refine ⟨.part one expanded, ?_⟩
      rw [List.flatMap_cons, ← arguments, ← (sound one List.mem_cons_self).arguments_expand]
      rfl

/-- Among what is run stands a text with one placeholder, and the argument is bound to it: there
are as many placeholders before the text as arguments before that one. -/
def Expanded.Poses (expanded : Expanded) (sql : Text) (argument : Argument) : Prop :=
  ∃ left right before after,
    expanded = ⟨left ++ (sql ++ right), before ++ argument :: after⟩ ∧
      Balanced left before.length ∧ Balanced sql 1

/-- The element of a concatenation belongs to one of the lists. -/
theorem exists_of_getElem?_flatMap {α β : Type} {f : α → List β} {parts : List α} {k : Nat}
    {x : β} (found : (parts.flatMap f)[k]? = some x) :
    ∃ before one after j, parts = before ++ one :: after ∧ (f one)[j]? = some x ∧
      k = (before.flatMap f).length + j := by
  induction parts generalizing k with
  | nil => simp at found
  | cons first rest ih =>
      rw [List.flatMap_cons] at found
      by_cases inFirst : k < (f first).length
      · rw [List.getElem?_append_left inFirst] at found
        exact ⟨[], first, rest, k, rfl, found, by simp⟩
      · rw [List.getElem?_append_right (by omega)] at found
        obtain ⟨before, one, after, j, rfl, here, position⟩ := ih found
        refine ⟨first :: before, one, after, j, rfl, here, ?_⟩
        rw [List.flatMap_cons, List.length_append]
        omega

/-- **An argument and its placeholder belong to one part.**  The placeholder stands where
the text of the part stands, at the place that the argument has among those of the part. -/
theorem exists_place {α β : Type} {sql : α → Text} {arguments : α → List β} {text : Text}
    {parts : List α} (laid : Laid sql text parts)
    (closed : ∀ one ∈ parts, Balanced (sql one) (arguments one).length) {k : Nat} {argument : β}
    (found : (parts.flatMap arguments)[k]? = some argument) :
    ∃ before one after left right j offset, parts = before ++ one :: after ∧
      text = left ++ (sql one ++ right) ∧ Laid sql left before ∧ Laid sql right after ∧
      k = (before.flatMap arguments).length + j ∧ (arguments one)[j]? = some argument ∧
      (positions false (sql one))[j]? = some offset ∧
      (positions false text)[k]? = some (left.length + offset) := by
  obtain ⟨before, one, after, j, rfl, here, place⟩ := exists_of_getElem?_flatMap found
  obtain ⟨left, right, rfl, leftLaid, rightLaid⟩ := laid.split
  have leftBalanced := leftLaid.balanced fun other member =>
    closed other (List.mem_append_left _ member)
  have oneBalanced := closed one (by simp)
  have bound : j < (positions false (sql one)).length := by
    rw [length_positions, oneBalanced.marks]
    exact (List.getElem?_eq_some_iff.1 here).1
  have leftCount : (positions false left).length = (before.flatMap arguments).length := by
    rw [length_positions, leftBalanced.marks]
  refine ⟨before, one, after, left, right, j, _, rfl, rfl, leftLaid, rightLaid, place, here,
    List.getElem?_eq_getElem bound, ?_⟩
  rw [positions_append, List.getElem?_append_right (by omega), leftBalanced.quotedBehind_eq,
    positions_append, List.map_append, leftCount, place, Nat.add_sub_cancel_left,
    List.getElem?_append_left (by simpa using bound), List.getElem?_map,
    List.getElem?_eq_getElem bound, Option.map_some, Nat.add_comm]

/-- The place of an argument of closed parts. -/
theorem exists_placed {α : Type} {allowed : Text → Prop} {sql : α → Text}
    {arguments : α → List Argument} {text : Text} {parts : List α} (laid : Laid sql text parts)
    (closed : ∀ one ∈ parts, Reads allowed (sql one) (arguments one).length) {k : Nat}
    {argument : Argument} (found : (parts.flatMap arguments)[k]? = some argument) :
    ∃ before one after left right j offset, parts = before ++ one :: after ∧
      text = left ++ (sql one ++ right) ∧ k = (before.flatMap arguments).length + j ∧
      (arguments one)[j]? = some argument ∧ (positions false (sql one))[j]? = some offset ∧
      (positions false text)[k]? = some (left.length + offset) := by
  obtain ⟨before, one, after, left, right, j, offset, split, whole, -, -, place⟩ :=
    exists_place laid (fun one member => (closed one member).balanced) found
  exact ⟨before, one, after, left, right, j, offset, split, whole, place⟩

end CatalogListing.Sql
