/-
# Proofs.Filter.Form -- the forms of values and what they ask

Every condition has a form in which a value asks for it (`Condition.written`).  A value is a
spelling of a truth value, the form of one condition, or unusable; what it asks is that
condition with its text operand coerced (`classify_cases`).

* `asked_iff`: the conditions that some value asks, exactly;
* `classify_round_trip`: what a value asks is well formed, and its form asks for it again; the
  values that ask nothing are those that have a form without its content.
-/
import CatalogListing.Filter.Classify
import CatalogListing.Proofs.Calendar.Moment
import CatalogListing.Proofs.Text.Cuts

namespace CatalogListing.Filter

set_option autoImplicit false

/-! ## Forms -/

/-- The value that compares with an operand. -/
def Comparison.written : Comparison → Text → Text
  | .equal, operand => operand
  | .notEqual, operand => '~' :: operand
  | .less, operand => '(' :: ((',' :: operand) ++ [')'])
  | .greater, operand => '(' :: ((operand ++ [',']) ++ [')'])
  | .atMost, operand => '[' :: ((',' :: operand) ++ [']'])
  | .atLeast, operand => '[' :: ((operand ++ [',']) ++ [']'])

/-- The operand in a value. -/
def Operand.written : Operand → Text
  | .boolean true => "true"
  | .boolean false => "false"
  | .text t => t

/-- Items between braces. -/
def writtenSet (items : List Text) : Text :=
  '\x7b' :: (List.intercalate [','] items ++ ['\x7d'])

/-- The value that asks for the condition. -/
def Condition.written : Condition → Text
  | .compare comparison operand => comparison.written operand.written
  | .like pattern => pattern
  | .member false items => writtenSet items
  | .member true items => '~' :: writtenSet items
  | .null false => nullMark
  | .null true => notNullMark
  | .fullText words => 'm' :: '[' :: (words ++ [']', 'm'])

/-- The condition with its text operand coerced. -/
def Condition.coerced : Condition → Condition
  | .compare comparison (.text t) => .compare comparison (.text (coerce t))
  | condition => condition

/-! ## Well-formed conditions -/

/-- The elements are those of a set: not none, not a single empty one, none with a comma. -/
def IsSet (items : List Text) : Prop :=
  items ≠ [] ∧ items ≠ [[]] ∧ ∀ item ∈ items, ',' ∉ item

/-- The comparison states a lower bound, whose operand stands before a comma. -/
def Comparison.boundsBelow : Comparison → Bool
  | .greater | .atLeast => true
  | _ => false

/-- The condition has the content that its form needs. -/
def Condition.WellFormed : Condition → Prop
  | .compare comparison (.boolean _) => comparison = .equal
  | .compare comparison (.text t) => t ≠ [] ∧ (comparison.boundsBelow = true → ',' ∉ t)
  | .like pattern => isPattern pattern = true
  | .member _ items => IsSet items
  | .null _ => True
  | .fullText words => words ≠ []

/-- The text has none of the forms, so that it stands for itself. -/
structure Formless (text : Text) : Prop where
  boolean : boolean? text = none
  pattern : isPattern text = false
  exclusive : Text.enclosed? ['('] [')'] text = none
  inclusive : Text.enclosed? ['['] [']'] text = none
  set : braced? text = none
  negation : text.head? ≠ some '~'
  null : text ≠ nullMark
  notNull : text ≠ notNullMark
  fullText : Text.enclosed? ['m', '['] [']', 'm'] text = none

/-- The form of the condition is not also another one. -/
def Condition.Unambiguous : Condition → Prop
  | .compare .equal (.text t) => Formless t
  | .compare .notEqual (.text t) => t.getLast? ≠ some '%' ∧ braced? t = none
  | _ => True

/-- The inside of brackets states no bound: it has no comma, or both sides of the first one
are empty, or neither is. -/
def Boundless (inside : Text) : Prop :=
  ',' ∉ inside ∨
    ∃ left right, ',' ∉ left ∧ inside = left ++ ',' :: right ∧ (left = [] ↔ right = [])

/-- The value has a form, but not its content. -/
inductive Unusable : Text → Prop where
  | empty : Unusable []
  | exclusive {inside : Text} : Boundless inside → Unusable ('(' :: (inside ++ [')']))
  | inclusive {inside : Text} : Boundless inside → Unusable ('[' :: (inside ++ [']']))
  | set : Unusable ['\x7b', '\x7d']
  | negation : Unusable ['~']
  | negatedSet : Unusable ['~', '\x7b', '\x7d']
  | fullText : Unusable ['m', '[', ']', 'm']

/-- The text is the form of the condition and of no other. -/
structure IsForm (text : Text) (condition : Condition) : Prop where
  wellFormed : condition.WellFormed
  unambiguous : condition.Unambiguous
  written : text = condition.written

/-- What is asked is what the text is the form of; nothing if it has no use. -/
def AsksByForm (text : Text) (asked : Option Condition) : Prop :=
  (Unusable text ∧ asked = none) ∨
    ∃ condition, IsForm text condition ∧ asked = some condition.coerced

/-! ## Parts of values -/

variable {text inside rest : Text} {condition : Condition}

theorem bound?_upper (upper lower : Comparison) {t : Text} (some_ : t ≠ []) :
    bound? upper lower (',' :: t) = some (.compare upper (.text (coerce t))) := by
  obtain ⟨c, rest, rfl⟩ := List.exists_cons_of_ne_nil some_
  rw [bound?, ← List.nil_append (',' :: _), Text.splitAtFirst_append List.not_mem_nil]
  rfl

theorem bound?_lower (upper lower : Comparison) {t : Text} (some_ : t ≠ []) (absent : ',' ∉ t) :
    bound? upper lower (t ++ [',']) = some (.compare lower (.text (coerce t))) := by
  obtain ⟨c, rest, rfl⟩ := List.exists_cons_of_ne_nil some_
  rw [bound?, Text.splitAtFirst_append absent]

theorem bound?_eq_none (upper lower : Comparison) (boundless : Boundless inside) :
    bound? upper lower inside = none := by
  rcases boundless with absent | ⟨left, right, absent, rfl, same⟩
  · rw [bound?, Text.splitAtFirst_of_notMem absent]
  · rw [bound?, Text.splitAtFirst_append absent]
    rcases left with _ | ⟨c, left⟩ <;> rcases right with _ | ⟨d, right⟩ <;> simp_all

/-- The inside of brackets states no bound, an upper one or a lower one. -/
theorem bound?_asks {upper lower : Comparison} (boundless : Boundless inside → Unusable text)
    (above : ∀ t, t ≠ [] → inside = ',' :: t → IsForm text (.compare upper (.text t)))
    (below : ∀ t, t ≠ [] → ',' ∉ t → inside = t ++ [','] →
      IsForm text (.compare lower (.text t))) :
    AsksByForm text (bound? upper lower inside) := by
  have nothing (none_ : Boundless inside) : AsksByForm text (bound? upper lower inside) :=
    .inl ⟨boundless none_, bound?_eq_none upper lower none_⟩
  rcases Text.splitAtFirst_cases ',' inside with ⟨absent, -⟩ | ⟨left, right, absent, same, -⟩
  · exact nothing (.inl absent)
  · by_cases balanced : left = [] ↔ right = []
    · exact nothing (.inr ⟨left, right, absent, same, balanced⟩)
    rcases eq_or_ne left [] with rfl | some_
    · have some_ : right ≠ [] := fun none_ => balanced (iff_of_true rfl none_)
      refine .inr ⟨_, above right some_ same, ?_⟩
      rw [same]
      exact bound?_upper upper lower some_
    · obtain rfl : right = [] :=
        Classical.byContradiction fun other => balanced (iff_of_false some_ other)
      refine .inr ⟨_, below left some_ absent same, ?_⟩
      rw [same]
      exact bound?_lower upper lower some_ absent

theorem elements?_cases (inside : Text) :
    (inside = [] ∧ elements? inside = none) ∨
      ∃ items, IsSet items ∧ inside = List.intercalate [','] items ∧
        elements? inside = some items := by
  unfold elements?
  obtain ⟨joined, absent⟩ := Text.pieces_cases ',' inside
  rcases inside with _ | ⟨c, rest⟩
  · exact .inl ⟨rfl, rfl⟩
  · refine .inr ⟨_, ⟨Text.pieces_ne_nil _ _, ?_, absent⟩, joined.symm, rfl⟩
    intro single
    rw [single] at joined
    cases joined

theorem elements?_intercalate {items : List Text} (isSet : IsSet items) :
    elements? (List.intercalate [','] items) = some items := by
  obtain ⟨some_, notEmpty, absent⟩ := isSet
  have cut := Text.pieces_intercalate some_ absent
  have nonempty : (List.intercalate [','] items).isEmpty = false := by
    rw [List.isEmpty_eq_false_iff]
    intro none_
    rw [none_] at cut
    exact notEmpty cut.symm
  rw [elements?, nonempty, cut]
  rfl

theorem negation?_of_braced (between : braced? rest = some inside) :
    negation? rest = (elements? inside).map (.member true) := by
  obtain rfl := Text.enclosed?_eq_some_iff.1 between
  rw [negation?, between]
  rfl

theorem negation?_of_unbraced (some_ : rest ≠ []) (unbraced : braced? rest = none) :
    negation? rest = some (.compare .notEqual (.text (coerce rest))) := by
  rw [negation?, List.isEmpty_eq_false_iff.2 some_, unbraced]
  rfl

/-! ## Values by their form -/

theorem isPattern_eq_false_iff :
    isPattern text = false ↔ text.head? ≠ some '%' ∧ text.getLast? ≠ some '%' := by
  simp [isPattern]

/-- The spellings of truth values. -/
def spellings : List Text :=
  (["t", "T", "true", "True", "TRUE"] : List Text) ++
    (["f", "F", "false", "False", "FALSE"] : List Text)

theorem boolean?_eq_none_iff : boolean? text = none ↔ text ∉ spellings := by
  rw [spellings, List.mem_append, not_or, boolean?]
  split_ifs with yes no
  · exact iff_of_false not_false fun absent => absent.1 yes
  · exact iff_of_false not_false fun absent => absent.2 no
  · exact iff_of_true rfl ⟨yes, no⟩

theorem boolean?_eq_none_of_first {c : Char} (first : c ∉ ("tTfF" : Text)) (rest : Text) :
    boolean? (c :: rest) = none := by
  have firsts : ∀ text ∈ spellings, text.head? ∈ ("tTfF" : Text).map some := by decide
  refine boolean?_eq_none_iff.2 fun member => ?_
  obtain ⟨d, among, same⟩ := List.mem_map.1 (firsts _ member)
  exact first (Option.some.inj same ▸ among)

theorem enclosed?_eq_none_of_first {o c : Char} (other : c ≠ o) (opening closing rest : Text) :
    Text.enclosed? (o :: opening) closing (c :: rest) = none := by
  rw [Option.eq_none_iff_forall_ne_some]
  intro inside found
  rw [Text.enclosed?_eq_some_iff] at found
  exact other (List.cons.inj found).1

theorem getLast?_cons_iff {c d : Char} (other : c ≠ d) (rest : Text) :
    (c :: rest).getLast? = some d ↔ rest.getLast? = some d := by
  cases rest with
  | nil => simpa using other
  | cons e rest => rw [List.getLast?_cons_cons]

theorem getLast?_between (o c : Char) (inside : Text) :
    (o :: (inside ++ [c])).getLast? = some c := by
  rw [← List.cons_append, List.getLast?_concat]

theorem enclosed?_between (o c : Char) (inside : Text) :
    Text.enclosed? [o] [c] (o :: (inside ++ [c])) = some inside :=
  Text.enclosed?_eq_some_iff.2 rfl

/-- A text that no form starts like has no form. -/
theorem formless_of_first {c : Char} (first : c ∉ ("%([\x7b~em" : Text)) {rest : Text}
    (last : (c :: rest).getLast? ≠ some '%') (unspelled : boolean? (c :: rest) = none) :
    Formless (c :: rest) := by
  have other {d : Char} (mark : d ∈ ("%([\x7b~em" : Text)) : c ≠ d := by
    rintro rfl
    exact first mark
  exact {
    boolean := unspelled
    pattern := isPattern_eq_false_iff.2 ⟨fun same => other (by decide) (Option.some.inj same), last⟩
    exclusive := enclosed?_eq_none_of_first (other (by decide)) _ _ _
    inclusive := enclosed?_eq_none_of_first (other (by decide)) _ _ _
    set := enclosed?_eq_none_of_first (other (by decide)) _ _ _
    negation := fun same => other (by decide) (Option.some.inj same)
    null := fun same => other (by decide) (List.cons.inj same).1
    notNull := fun same => other (by decide) (List.cons.inj same).1
    fullText := enclosed?_eq_none_of_first (other (by decide)) _ _ _ }

/-- A text of the characters of timestamps has no form. -/
theorem formless_of_writes (some_ : text ≠ []) (plain : ∀ c ∈ text, Calendar.writes c = true) :
    Formless text := by
  obtain ⟨c, rest, rfl⟩ := List.exists_cons_of_ne_nil some_
  have apart {marks : Text} (unwritten : marks.any Calendar.writes = false) : c ∉ marks :=
    fun member => List.any_eq_false.1 unwritten c member (plain c List.mem_cons_self)
  have last : (c :: rest).getLast? ≠ some '%' := fun wild =>
    absurd (plain '%' (List.mem_of_getLast? wild)) (by decide)
  exact formless_of_first (apart (by decide)) last
    (boolean?_eq_none_of_first (apart (by decide)) rest)

/-- The first character is not that of a truth value and there is no wildcard at an end. -/
theorem classify_eq_delimited {c : Char} (first : c ∉ ("tTfF%" : Text)) {rest : Text}
    (last : (c :: rest).getLast? ≠ some '%') : classify (c :: rest) = delimited? (c :: rest) := by
  have spelled : boolean? (c :: rest) = none :=
    boolean?_eq_none_of_first (fun member => first (List.mem_append_left ['%'] member)) rest
  have pattern : isPattern (c :: rest) = false := by
    refine isPattern_eq_false_iff.2 ⟨fun start => first ?_, last⟩
    rw [Option.some.inj start]
    decide
  simp only [classify, List.isEmpty_cons, Bool.false_eq_true, if_false, spelled, pattern]

theorem classify_pattern (pattern : isPattern text = true) :
    classify text = some (.like text) := by
  have spelled : boolean? text = none := by
    have tame : ∀ text ∈ spellings, isPattern text = false := by decide
    exact boolean?_eq_none_iff.2 fun member =>
      Bool.false_ne_true ((tame text member).symm.trans pattern)
  have some_ : text.isEmpty = false := by
    cases text with
    | nil => cases pattern
    | cons c rest => rfl
  simp only [classify, some_, spelled, pattern, Bool.false_eq_true, if_false, if_true]

theorem classify_exclusive (inside : Text) :
    classify ('(' :: (inside ++ [')'])) = bound? .less .greater inside := by
  rw [classify_eq_delimited (by decide) (by rw [getLast?_between]; decide)]
  unfold delimited?
  rw [enclosed?_between]

theorem classify_inclusive (inside : Text) :
    classify ('[' :: (inside ++ [']'])) = bound? .atMost .atLeast inside := by
  rw [classify_eq_delimited (by decide) (by rw [getLast?_between]; decide)]
  unfold delimited?
  rw [enclosed?_eq_none_of_first (by decide), enclosed?_between]

theorem classify_set (inside : Text) :
    classify ('\x7b' :: (inside ++ ['\x7d'])) = (elements? inside).map (.member false) := by
  rw [classify_eq_delimited (by decide) (by rw [getLast?_between]; decide)]
  unfold delimited? braced?
  rw [enclosed?_eq_none_of_first (by decide), enclosed?_eq_none_of_first (by decide),
    enclosed?_between]

theorem classify_negation (last : rest.getLast? ≠ some '%') :
    classify ('~' :: rest) = negation? rest := by
  have last' : ('~' :: rest).getLast? ≠ some '%' :=
    (getLast?_cons_iff (by decide) rest).not.2 last
  rw [classify_eq_delimited (by decide) last']
  unfold delimited? braced?
  rw [enclosed?_eq_none_of_first (by decide), enclosed?_eq_none_of_first (by decide),
    enclosed?_eq_none_of_first (by decide)]
  rfl

theorem classify_fullText (words : Text) :
    classify ('m' :: '[' :: (words ++ [']', 'm'])) =
      if words = [] then none else some (.fullText words) := by
  have last : ('m' :: '[' :: (words ++ [']', 'm'])).getLast? ≠ some '%' := by
    rw [← List.cons_append, ← List.cons_append, List.getLast?_append]
    exact (by decide : some 'm' ≠ some '%')
  have between : Text.enclosed? ['m', '['] [']', 'm'] ('m' :: '[' :: (words ++ [']', 'm'])) =
      some words := Text.enclosed?_eq_some_iff.2 rfl
  have null : 'm' :: '[' :: (words ++ [']', 'm']) ≠ nullMark := fun same =>
    absurd (congrArg List.head? same) (by decide : some 'm' ≠ nullMark.head?)
  have notNull : 'm' :: '[' :: (words ++ [']', 'm']) ≠ notNullMark := fun same =>
    absurd (congrArg List.head? same) (by decide : some 'm' ≠ notNullMark.head?)
  rw [classify_eq_delimited (by decide) last]
  unfold delimited? braced?
  rw [enclosed?_eq_none_of_first (by decide), enclosed?_eq_none_of_first (by decide),
    enclosed?_eq_none_of_first (by decide)]
  change plain? _ = _
  rw [plain?, if_neg null, if_neg notNull, between]
  cases words <;> rfl

theorem classify_formless (some_ : text ≠ []) (formless : Formless text) :
    classify text = some (.compare .equal (.text (coerce text))) := by
  obtain ⟨boolean, pattern, exclusive, inclusive, set, negation, null, notNull, fullText⟩ := formless
  have plain : plain? text = some (.compare .equal (.text (coerce text))) := by
    rw [plain?, if_neg null, if_neg notNull, fullText]
  have nonempty : text.isEmpty = false := List.isEmpty_eq_false_iff.2 some_
  simp only [classify, nonempty, Bool.false_eq_true, if_false, boolean, pattern,
    delimited?, exclusive, inclusive, set]
  split
  · exact absurd rfl negation
  · exact plain

/-- What a value looks like. -/
inductive ValueShape : Text → Prop where
  | empty : ValueShape []
  | spelled {text : Text} {b : Bool} : boolean? text = some b → ValueShape text
  | pattern {text : Text} : isPattern text = true → ValueShape text
  | exclusive (inside : Text) : ValueShape ('(' :: (inside ++ [')']))
  | inclusive (inside : Text) : ValueShape ('[' :: (inside ++ [']']))
  | set (inside : Text) : ValueShape ('\x7b' :: (inside ++ ['\x7d']))
  | negation {rest : Text} : rest.getLast? ≠ some '%' → ValueShape ('~' :: rest)
  | null : ValueShape nullMark
  | notNull : ValueShape notNullMark
  | fullText (words : Text) : ValueShape ('m' :: '[' :: (words ++ [']', 'm']))
  | formless {text : Text} : text ≠ [] → Formless text → ValueShape text

theorem valueShape (text : Text) : ValueShape text := by
  rcases eq_or_ne text [] with rfl | some_
  · exact .empty
  cases spelled : boolean? text with
  | some b => exact .spelled spelled
  | none =>
  cases wild : isPattern text with
  | true => exact .pattern wild
  | false =>
  cases exclusive : Text.enclosed? ['('] [')'] text with
  | some inside => exact Text.enclosed?_eq_some_iff.1 exclusive ▸ .exclusive inside
  | none =>
  cases inclusive : Text.enclosed? ['['] [']'] text with
  | some inside => exact Text.enclosed?_eq_some_iff.1 inclusive ▸ .inclusive inside
  | none =>
  cases set : braced? text with
  | some inside => exact Text.enclosed?_eq_some_iff.1 set ▸ .set inside
  | none =>
  by_cases negation : text.head? = some '~'
  · obtain ⟨rest, rfl⟩ := List.head?_eq_some_iff.1 negation
    have last := (isPattern_eq_false_iff.1 wild).2
    exact .negation ((getLast?_cons_iff (by decide) rest).not.1 last)
  by_cases null : text = nullMark
  · exact null ▸ .null
  by_cases notNull : text = notNullMark
  · exact notNull ▸ .notNull
  cases fullText : Text.enclosed? ['m', '['] [']', 'm'] text with
  | some words => exact Text.enclosed?_eq_some_iff.1 fullText ▸ .fullText words
  | none =>
      exact .formless some_
        ⟨spelled, wild, exclusive, inclusive, set, negation, null, notNull, fullText⟩

/-! ## What values ask -/

theorem eq_of_spelled {b : Bool} (spelled : boolean? text = some b) :
    classify text = some (.compare .equal (.boolean b)) := by
  have some_ : text.isEmpty = false := by
    cases text with
    | nil => cases spelled
    | cons c rest => rfl
  simp only [classify, some_, spelled, Bool.false_eq_true, if_false]

/-- **A condition is asked by its form**, with its text operand coerced. -/
theorem classify_written (wellFormed : condition.WellFormed)
    (unambiguous : condition.Unambiguous) : classify condition.written = some condition.coerced := by
  cases condition with
  | compare comparison operand =>
      cases operand with
      | boolean b =>
          obtain rfl : comparison = .equal := wellFormed
          cases b <;> rfl
      | text t =>
          obtain ⟨some_, absent⟩ := wellFormed
          cases comparison with
          | equal => exact classify_formless some_ unambiguous
          | notEqual =>
              obtain ⟨last, unbraced⟩ := unambiguous
              exact (classify_negation last).trans (negation?_of_unbraced some_ unbraced)
          | less => exact (classify_exclusive _).trans (bound?_upper _ _ some_)
          | greater => exact (classify_exclusive _).trans (bound?_lower _ _ some_ (absent rfl))
          | atMost => exact (classify_inclusive _).trans (bound?_upper _ _ some_)
          | atLeast => exact (classify_inclusive _).trans (bound?_lower _ _ some_ (absent rfl))
  | like pattern => exact classify_pattern wellFormed
  | member negated items =>
      have cut := elements?_intercalate wellFormed
      cases negated with
      | false =>
          refine (classify_set _).trans ?_
          rw [cut]
          rfl
      | true =>
          have last : (writtenSet items).getLast? ≠ some '%' := by
            rw [writtenSet, getLast?_between]
            decide
          have between : braced? (writtenSet items) = some (List.intercalate [','] items) :=
            enclosed?_between _ _ _
          refine (classify_negation last).trans ?_
          rw [negation?_of_braced between, cut]
          rfl
  | null negated => cases negated <;> rfl
  | fullText words => exact (classify_fullText words).trans (if_neg wellFormed)

theorem negation?_asks (last : rest.getLast? ≠ some '%') :
    AsksByForm ('~' :: rest) (negation? rest) := by
  rcases eq_or_ne rest [] with rfl | some_
  · exact .inl ⟨.negation, rfl⟩
  cases unbraced : braced? rest with
  | none =>
      exact .inr ⟨.compare .notEqual (.text rest),
        ⟨⟨some_, fun lower => nomatch lower⟩, ⟨last, unbraced⟩, rfl⟩,
        negation?_of_unbraced some_ unbraced⟩
  | some inside =>
      rw [negation?_of_braced unbraced]
      obtain rfl := Text.enclosed?_eq_some_iff.1 unbraced
      rcases elements?_cases inside with ⟨rfl, none_⟩ | ⟨items, isSet, rfl, found⟩
      · exact .inl ⟨.negatedSet, rfl⟩
      · refine .inr ⟨.member true items, ⟨isSet, trivial, rfl⟩, ?_⟩
        rw [found]
        rfl

/-- **A value asks what it is the form of**, unless it spells a truth value. -/
theorem classify_cases (text : Text) :
    (∃ b, boolean? text = some b ∧ classify text = some (.compare .equal (.boolean b))) ∨
      AsksByForm text (classify text) := by
  cases valueShape text with
  | empty => exact .inr (.inl ⟨.empty, rfl⟩)
  | spelled spelled => exact .inl ⟨_, spelled, eq_of_spelled spelled⟩
  | pattern wild =>
      exact .inr (.inr ⟨.like text, ⟨wild, trivial, rfl⟩, classify_pattern wild⟩)
  | exclusive inside =>
      rw [classify_exclusive]
      refine .inr (bound?_asks .exclusive (fun t some_ same => ?_) fun t some_ absent same => ?_)
      · exact ⟨⟨some_, fun lower => nomatch lower⟩, trivial, by rw [same]; rfl⟩
      · exact ⟨⟨some_, fun _ => absent⟩, trivial, by rw [same]; rfl⟩
  | inclusive inside =>
      rw [classify_inclusive]
      refine .inr (bound?_asks .inclusive (fun t some_ same => ?_) fun t some_ absent same => ?_)
      · exact ⟨⟨some_, fun lower => nomatch lower⟩, trivial, by rw [same]; rfl⟩
      · exact ⟨⟨some_, fun _ => absent⟩, trivial, by rw [same]; rfl⟩
  | set inside =>
      rw [classify_set]
      rcases elements?_cases inside with ⟨rfl, none_⟩ | ⟨items, isSet, rfl, found⟩
      · exact .inr (.inl ⟨.set, rfl⟩)
      · refine .inr (.inr ⟨.member false items, ⟨isSet, trivial, rfl⟩, ?_⟩)
        rw [found]
        rfl
  | negation last =>
      rw [classify_negation last]
      exact .inr (negation?_asks last)
  | null => exact .inr (.inr ⟨.null false, ⟨trivial, trivial, rfl⟩, rfl⟩)
  | notNull => exact .inr (.inr ⟨.null true, ⟨trivial, trivial, rfl⟩, rfl⟩)
  | fullText words =>
      rw [classify_fullText]
      rcases eq_or_ne words [] with rfl | some_
      · exact .inr (.inl ⟨.fullText, rfl⟩)
      · exact .inr (.inr ⟨.fullText words, ⟨some_, trivial, rfl⟩, if_neg some_⟩)
  | formless some_ formless =>
      exact .inr (.inr ⟨.compare .equal (.text text),
        ⟨⟨some_, fun lower => nomatch lower⟩, formless, rfl⟩, classify_formless some_ formless⟩)

theorem classify_eq_none_iff : classify text = none ↔ Unusable text := by
  constructor
  · intro none_
    rcases classify_cases text with ⟨b, -, asks⟩ | ⟨unusable, -⟩ | ⟨condition, -, asks⟩
    · cases none_.symm.trans asks
    · exact unusable
    · cases none_.symm.trans asks
  · intro unusable
    cases unusable with
    | empty => rfl
    | exclusive boundless => exact (classify_exclusive _).trans (bound?_eq_none _ _ boundless)
    | inclusive boundless => exact (classify_inclusive _).trans (bound?_eq_none _ _ boundless)
    | set => rfl
    | negation => rfl
    | negatedSet => rfl
    | fullText => rfl

/-! ## Coerced operands -/

theorem coerce_cases (t : Text) : coerce t = t ∨ ∃ instant, coerce t = Calendar.timestamp instant := by
  unfold coerce wrappedTimestamp?
  cases ((Text.enclosed? ['t'] ['t'] t).bind Text.signed64?).filter Calendar.inRange with
  | none => exact .inl rfl
  | some instant => exact .inr ⟨instant, rfl⟩

/-- What holds of a text and of all timestamps holds of the coerced text. -/
theorem coerce_induction {P : Text → Prop} {t : Text} (own : P t)
    (timestamps : ∀ instant, P (Calendar.timestamp instant)) : P (coerce t) := by
  rcases coerce_cases t with same | ⟨instant, same⟩
  · rwa [same]
  · rw [same]
    exact timestamps instant

theorem formless_timestamp (instant : Int) : Formless (Calendar.timestamp instant) :=
  formless_of_writes (Calendar.timestamp_ne_nil instant) Calendar.writes_of_mem_timestamp

theorem notMem_timestamp {c : Char} (other : Calendar.writes c = false) (instant : Int) :
    c ∉ Calendar.timestamp instant := fun member =>
  Bool.false_ne_true (other.symm.trans (Calendar.writes_of_mem_timestamp c member))

theorem coerce_timestamp (instant : Int) :
    coerce (Calendar.timestamp instant) = Calendar.timestamp instant := by
  have unwrapped : Text.enclosed? ['t'] ['t'] (Calendar.timestamp instant) = none := by
    rw [Option.eq_none_iff_forall_ne_some]
    intro inside found
    rw [Text.enclosed?_eq_some_iff] at found
    have first : 't' ∈ Calendar.timestamp instant := by
      rw [found]
      exact List.mem_cons_self
    exact notMem_timestamp (by decide) instant first
  rw [coerce, wrappedTimestamp?, unwrapped]
  rfl

theorem coerce_coerce (t : Text) : coerce (coerce t) = coerce t := by
  rcases coerce_cases t with same | ⟨instant, same⟩
  · rw [same, same]
  · rw [same, coerce_timestamp]

theorem coerced_coerced (condition : Condition) : condition.coerced.coerced = condition.coerced := by
  cases condition with
  | compare comparison operand =>
      cases operand with
      | boolean b => rfl
      | text t => exact congrArg (fun t => Condition.compare comparison (.text t)) (coerce_coerce t)
  | like | member | null | fullText => rfl

theorem Condition.WellFormed.coerced (wellFormed : condition.WellFormed) :
    condition.coerced.WellFormed := by
  cases condition with
  | compare comparison operand =>
      cases operand with
      | boolean b => exact wellFormed
      | text t =>
          obtain ⟨some_, absent⟩ := wellFormed
          exact ⟨coerce_induction (P := (· ≠ [])) some_ Calendar.timestamp_ne_nil, fun lower =>
            coerce_induction (P := (',' ∉ ·)) (absent lower) (notMem_timestamp rfl)⟩
  | like | member | null | fullText => exact wellFormed

theorem Condition.Unambiguous.coerced (unambiguous : condition.Unambiguous) :
    condition.coerced.Unambiguous := by
  cases condition with
  | compare comparison operand =>
      cases operand with
      | boolean b => exact unambiguous
      | text t =>
          cases comparison with
          | equal => exact coerce_induction unambiguous formless_timestamp
          | notEqual =>
              refine coerce_induction (P := fun t => t.getLast? ≠ some '%' ∧ braced? t = none)
                unambiguous fun instant => ⟨fun wild => ?_, (formless_timestamp instant).set⟩
              exact notMem_timestamp rfl instant (List.mem_of_getLast? wild)
          | less | greater | atMost | atLeast => trivial
  | like | member | null | fullText => exact unambiguous

/-! ## Round trip -/

/-- **The conditions that values ask**: those that are well formed, with a form of their own and
their text operand coerced. -/
theorem asked_iff : (∃ text, classify text = some condition) ↔
    condition.WellFormed ∧ condition.Unambiguous ∧ condition.coerced = condition := by
  constructor
  · rintro ⟨text, asks⟩
    rcases classify_cases text with ⟨b, -, truth⟩ | ⟨-, none_⟩ | ⟨asked, form, found⟩
    · obtain rfl := Option.some.inj (truth.symm.trans asks)
      exact ⟨rfl, trivial, rfl⟩
    · cases none_.symm.trans asks
    · obtain rfl := Option.some.inj (found.symm.trans asks)
      exact ⟨form.wellFormed.coerced, form.unambiguous.coerced, coerced_coerced asked⟩
  · rintro ⟨wellFormed, unambiguous, same⟩
    exact ⟨condition.written, (classify_written wellFormed unambiguous).trans (congrArg _ same)⟩

/-- **Round trip over the values.**  What a value asks is well formed, and its form asks for it
again; the values that ask nothing are the unusable ones. -/
theorem classify_round_trip (text : Text) :
    (∀ condition, classify text = some condition →
      condition.WellFormed ∧ classify condition.written = some condition) ∧
    (classify text = none ↔ Unusable text) := by
  refine ⟨fun condition asks => ?_, classify_eq_none_iff⟩
  obtain ⟨wellFormed, unambiguous, same⟩ := asked_iff.1 ⟨text, asks⟩
  have reads := classify_written wellFormed unambiguous
  rw [same] at reads
  exact ⟨wellFormed, reads⟩

/-- A bound by an instant is asked for by the timestamp as well. -/
theorem wrapped_bound_round_trip :
    classify "(,t86400t)" = some (.compare .less (.text "1970-01-02 00:00:00")) ∧
      classify "(,1970-01-02 00:00:00)" = some (.compare .less (.text "1970-01-02 00:00:00")) ∧
      classify "(,t86400t)" ≠ none := by
  have asks : classify "(,t86400t)" = some (.compare .less (.text "1970-01-02 00:00:00")) := by
    decide +kernel
  exact ⟨asks, ((classify_round_trip _).1 _ asks).2, fun none_ => nomatch asks.symm.trans none_⟩

end CatalogListing.Filter
