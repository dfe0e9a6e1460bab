/-
# Proofs.Query.Names -- the ways to list the same names

Names may be listed as a JSON array of strings, in brackets with or without quotes around each
name, and with commas alone (`Lists`).  Whichever way they are listed, the same names are read
(`ofText_of_lists`), and a JSON array of any strings is read as its nonempty trimmed strings
(`ofText_of_spellsArray`).

A list in brackets may be a JSON array, too, if each of its names is in double quotes.  Then its
strings are the names, with the white space inside of their quotes (`map_trim_of_jsonStrings?`).
Any other list in brackets is none: a name without quotes or in single ones begins with a
character that begins no token of an array of strings, like white space that JSON does not know.
-/
import CatalogListing.Proofs.Json.Strings
import CatalogListing.Proofs.Query.Reading
import CatalogListing.Proofs.Text.Cuts
import CatalogListing.Proofs.Text.Trim

namespace CatalogListing

set_option autoImplicit false

/-- White space around a text does not change the trimmed pieces of it. -/
theorem Text.map_trim_pieces_trim {separates : Char → Bool}
    (solid : ∀ c, isBlank c = true → separates c = false) (text : Text) :
    (pieces separates (trim text)).map trim = (pieces separates text).map trim := by
  obtain ⟨before, behind, whole, blankBefore, blankBehind⟩ := exists_trim text
  have plainBefore : ∀ c ∈ before, separates c = false := fun c member =>
    solid c (blankBefore c member)
  have plainBehind : ∀ c ∈ behind, separates c = false := fun c member =>
    solid c (blankBehind c member)
  obtain ⟨parts, last, cut, longer⟩ := pieces_behind plainBehind (trim text)
  have trimmedBehind : (pieces separates (trim text ++ behind)).map trim =
      (pieces separates (trim text)).map trim := by
    rw [cut, longer, List.map_append, List.map_append, List.map_singleton, List.map_singleton,
      trim_behind last blankBehind]
  conv_rhs => rw [whole, pieces_before plainBefore]
  rw [← trimmedBehind]
  cases pieces separates (trim text ++ behind) with
  | nil => rfl
  | cons first others =>
      rw [List.modifyHead_cons, List.map_cons, List.map_cons, trim_before blankBefore]

namespace NameList

open Text (Blank isBlank trim)

/-! ## Lists of names -/

/-- The characters that no name in a list has. -/
def marks : List Char :=
  [',', '"', '\'', '[', ']', '\\']

/-- A name that can be listed: it is not empty, has no white space around it and none of the
marks. -/
structure IsName (name : Text) : Prop where
  some_ : name ≠ []
  trimmed : trim name = name
  free : ∀ c ∈ name, c ∉ marks

instance (name : Text) : Decidable (IsName name) :=
  decidable_of_iff
    (name ≠ [] ∧ trim name = name ∧ name.all (fun c => decide (c ∉ marks)) = true) (by
      simp only [List.all_eq_true, decide_eq_true_eq]
      exact ⟨fun ⟨some_, trimmed, free⟩ => ⟨some_, trimmed, free⟩,
        fun ⟨some_, trimmed, free⟩ => ⟨some_, trimmed, free⟩⟩)

/-- A name, or the name in quotes of either kind; white space may stand in the quotes. -/
inductive Wraps (name : Text) : Text → Prop where
  | bare : Wraps name name
  | quoted {mark : Char} {before behind : Text} :
      mark = '"' ∨ mark = '\'' → Blank before → Blank behind →
      Wraps name (mark :: ((before ++ (name ++ behind)) ++ [mark]))

/-- A name and how it may be written between commas. -/
def WritesName (name item : Text) : Prop :=
  ∃ before body behind, item = before ++ (body ++ behind) ∧
    Blank before ∧ Wraps name body ∧ Blank behind

/-- Names and how they may be listed. -/
inductive Lists (names : List Text) : Text → Prop where
  /-- As the strings of a JSON array. -/
  | json {before array behind : Text} :
      Blank before → Json.SpellsArray names array → Blank behind →
      Lists names (before ++ (array ++ behind))
  /-- In brackets, with commas between them. -/
  | bracketed {before behind : Text} {items : List Text} :
      Blank before → List.Forall₂ WritesName names items → Blank behind →
      Lists names (before ++ (('[' :: (List.intercalate [','] items ++ [']'])) ++ behind))
  /-- With commas between them. -/
  | bare {items : List Text} :
      List.Forall₂ WritesName names items → Lists names (List.intercalate [','] items)

variable {name item : Text} {names items : List Text}

/-! ## Names between commas -/

/-- The quotes that may stand around a name. -/
def isQuote (c : Char) : Bool :=
  c == '"' || c == '\''

theorem unquoted_eq (text : Text) :
    unquoted text = trim (Text.stripBoth isQuote (trim text)) := rfl

theorem isQuote_eq_false {c : Char} (plain : c ∉ marks) : isQuote c = false := by
  rw [← Bool.not_eq_true, isQuote, Bool.or_eq_true, beq_iff_eq, beq_iff_eq]
  rintro (rfl | rfl) <;> exact plain (by decide)

theorem notMem_marks_of_blank {c : Char} (blank : isBlank c = true) : c ∉ marks := by
  have solid : ∀ mark ∈ marks, isBlank mark = false := by simp [marks, isBlank]
  exact fun known => Bool.eq_false_iff.1 (solid c known) blank

/-- A name between white space has none of the marks either. -/
theorem IsName.padded (isName : IsName name) {before behind : Text} (blank : Blank before)
    (blank' : Blank behind) : ∀ c ∈ before ++ (name ++ behind), c ∉ marks := by
  simp only [List.forall_mem_append]
  exact ⟨fun c member => notMem_marks_of_blank (blank c member), isName.free,
    fun c member => notMem_marks_of_blank (blank' c member)⟩

/-- Only quotes stand around a name, of all marks. -/
theorem WritesName.free (writes : WritesName name item) (isName : IsName name) :
    ∀ c ∈ item, isQuote c = true ∨ c ∉ marks := by
  obtain ⟨before, body, behind, rfl, blank, wraps, blank'⟩ := writes
  cases wraps with
  | bare => exact fun c member => .inr (isName.padded blank blank' c member)
  | @quoted mark _ _ quote inBlank inBlank' =>
      have outer : isQuote mark = true := by rcases quote with rfl | rfl <;> rfl
      have inner := isName.padded inBlank inBlank'
      rw [List.forall_mem_append, List.forall_mem_append, List.forall_mem_cons,
        List.forall_mem_append, List.forall_mem_singleton]
      exact ⟨fun c member => .inr (notMem_marks_of_blank (blank c member)),
        ⟨.inl outer, fun c member => .inr (inner c member), .inl outer⟩,
        fun c member => .inr (notMem_marks_of_blank (blank' c member))⟩

/-- White space and quotes around a name do not belong to it. -/
theorem WritesName.unquoted (writes : WritesName name item) (isName : IsName name) :
    unquoted item = name := by
  obtain ⟨before, body, behind, rfl, blank, wraps, blank'⟩ := writes
  rw [unquoted_eq, Text.trim_around blank body blank']
  cases wraps with
  | bare =>
      have plain : ∀ c ∈ name, isQuote c = false := fun c member =>
        isQuote_eq_false (isName.free c member)
      rw [isName.trimmed, Text.stripBoth_of_forall plain, isName.trimmed]
  | @quoted mark inBefore inBehind quote inBlank inBlank' =>
      have outer : isQuote mark = true ∧ isBlank mark = false := by
        rcases quote with rfl | rfl <;> exact ⟨rfl, rfl⟩
      have outside : ∀ c ∈ [mark], isQuote c = true := by
        rw [List.forall_mem_singleton]
        exact outer.1
      have inside : ∀ c ∈ inBefore ++ (name ++ inBehind), isQuote c = false := fun c member =>
        isQuote_eq_false (isName.padded inBlank inBlank' c member)
      have stripped := Text.stripBoth_around outside inside outside
      rw [List.singleton_append] at stripped
      rw [Text.trim_enclosed outer.2 outer.2, stripped,
        Text.trim_around inBlank name inBlank', isName.trimmed]

theorem nonempty_of_isName (isNames : ∀ name ∈ names, IsName name) : nonempty names = names := by
  rw [nonempty, List.filter_eq_self]
  intro name member
  rw [Bool.not_eq_true', List.isEmpty_eq_false_iff]
  exact (isNames name member).some_

/-- What trimming the whole changes in the pieces, trimming a piece removes. -/
theorem map_unquoted_pieces_trim (text : Text) :
    (Text.pieces (· == ',') (trim text)).map unquoted =
      (Text.pieces (· == ',') text).map unquoted := by
  have trims (text : Text) : unquoted text = unquoted (trim text) := by
    rw [unquoted_eq, unquoted_eq, Text.trim_trim]
  have solid : ∀ c, isBlank c = true → (c == ',') = false := by
    intro c blank
    rw [beq_eq_false_iff_ne]
    rintro rfl
    exact notMem_marks_of_blank blank (by decide)
  have same := congrArg (List.map unquoted) (Text.map_trim_pieces_trim solid text)
  rw [List.map_map, List.map_map] at same
  rw [funext trims]
  exact same

theorem free_of_each (each : List.Forall₂ WritesName names items)
    (isNames : ∀ name ∈ names, IsName name) :
    ∀ item ∈ items, ∀ mark ∈ [',', '[', ']'], mark ∉ item := by
  induction each with
  | nil => exact List.forall_mem_nil _
  | cons first _ ih =>
      rw [List.forall_mem_cons] at isNames ⊢
      refine ⟨fun mark known member => ?_, ih isNames.2⟩
      have other : ∀ c ∈ [',', '[', ']'], isQuote c = false ∧ c ∈ marks := by
        simp [isQuote, marks]
      rcases first.free isNames.1 mark member with quote | plain
      · exact Bool.eq_false_iff.1 (other mark known).1 quote
      · exact plain (other mark known).2

theorem notMem_joined (each : List.Forall₂ WritesName names items)
    (isNames : ∀ name ∈ names, IsName name) :
    '[' ∉ List.intercalate [','] items ∧ ']' ∉ List.intercalate [','] items := by
  have free := free_of_each each isNames
  exact ⟨Text.notMem_intercalate (by decide) fun item member => free item member _ (by decide),
    Text.notMem_intercalate (by decide) fun item member => free item member _ (by decide)⟩

/-- The names that commas join are found between the commas. -/
theorem nonempty_map_unquoted (each : List.Forall₂ WritesName names items)
    (isNames : ∀ name ∈ names, IsName name) :
    nonempty ((Text.pieces (· == ',') (List.intercalate [','] items)).map unquoted) = names := by
  have free := free_of_each each isNames
  have read : items.map unquoted = names := by
    induction each with
    | nil => rfl
    | cons first _ ih =>
        rw [List.forall_mem_cons] at isNames free
        rw [List.map_cons, first.unquoted isNames.1, ih isNames.2 free.2]
  rcases eq_or_ne items [] with rfl | some_
  · rw [← read]
    decide
  · rw [Text.pieces_intercalate some_ fun item member => free item member ',' (by decide), read,
      nonempty_of_isName isNames]

theorem ofCommas_around {opening text closing : Text} (opens : ∀ c ∈ opening, c = '[')
    (free : '[' ∉ text ∧ ']' ∉ text) (closes : ∀ c ∈ closing, c = ']') :
    ofCommas (opening ++ (text ++ closing)) =
      nonempty ((Text.pieces (· == ',') text).map unquoted) := by
  rw [ofCommas, Text.dropEndWhile_dropWhile_around]
  · exact fun c member => beq_iff_eq.2 (opens c member)
  · exact fun c member => ⟨Text.beq_mark_of_notMem free.1 c member,
      Text.beq_mark_of_notMem free.2 c member⟩
  · exact fun c member => beq_iff_eq.2 (closes c member)

/-! ## Names in JSON -/

theorem jsonStrings?_cons (rest : Text) :
    jsonStrings? ('[' :: rest) = (Json.tokens? ('[' :: rest)).bind strings? :=
  if_pos rfl

theorem jsonStrings?_of_notMem {text : Text} (absent : '[' ∉ text) : jsonStrings? text = none :=
  if_neg fun first => absent (List.mem_of_head? first)

section Tokens

open Json

theorem exists_laterStrings? {pieces : List (List Piece)} {strings : List Text}
    (hold : List.Forall₂ (fun pieces string => pieceText? pieces = some string) pieces strings)
    (first : List Piece) :
    ∃ later, List.intercalate [.comma] ((first :: pieces).map fun pieces => [Token.text pieces]) ++
        [.closeArray] = .text first :: later ∧ laterStrings? later = some strings := by
  induction hold generalizing first with
  | nil => exact ⟨[.closeArray], rfl, rfl⟩
  | @cons second _ _ _ holds _ ih =>
      obtain ⟨later, tokens, read⟩ := ih second
      refine ⟨.comma :: .text second :: later, ?_, by rw [laterStrings?, holds, read]; rfl⟩
      rw [← tokens]
      rfl

/-- The tokens of an array of strings hold them. -/
theorem strings?_arrayTokens {pieces : List (List Piece)} {strings : List Text}
    (hold : List.Forall₂ (fun pieces string => pieceText? pieces = some string) pieces strings) :
    strings? (arrayTokens pieces) = some strings := by
  cases hold with
  | nil => rfl
  | @cons first _ _ _ holds others =>
      obtain ⟨later, tokens, read⟩ := exists_laterStrings? others first
      rw [arrayTokens, tokens, strings?, holds, read]
      rfl

theorem inStrings_of_laterStrings? {tokens : List Token} {strings : List Text}
    (read : laterStrings? tokens = some strings) : ∀ token ∈ tokens, token.inStrings = true := by
  fun_induction laterStrings? tokens generalizing strings with
  | case1 => decide
  | case2 pieces rest ih =>
      simp only [Option.bind_eq_bind, Option.bind_eq_some_iff] at read
      obtain ⟨_, -, others, later, -⟩ := read
      simpa [Token.inStrings] using ih later
  | case3 => cases read

theorem inStrings_of_strings? {tokens : List Token} {strings : List Text}
    (read : strings? tokens = some strings) : ∀ token ∈ tokens, token.inStrings = true := by
  unfold strings? at read
  split at read
  · decide
  · simp only [Option.bind_eq_bind, Option.bind_eq_some_iff] at read
    obtain ⟨_, -, others, later, -⟩ := read
    simpa [Token.inStrings] using inStrings_of_laterStrings? later
  · cases read

theorem isBlank_of_isSpace {c : Char} (space : isSpace c = true) : isBlank c = true := by
  simp only [isSpace, Bool.or_eq_true, beq_iff_eq] at space
  rcases space with ((rfl | rfl) | rfl) | rfl <;> decide

theorem spoils_of_notMem_marks {c : Char} (noSpace : isSpace c = false) (plain : c ∉ marks) :
    Spoils [c] := by
  have isMark : ∀ mark ∈ ['"', '[', ']', ','], mark ∈ marks := by simp [marks]
  exact .of_char noSpace fun known => plain (isMark c known)

/-- White space has no tokens, if it is white space of JSON. -/
theorem yields_blank {gap : Text} (blank : Blank gap) : Yields gap [] := by
  induction gap with
  | nil => exact .inl .nil
  | cons c rest ih =>
      rw [Blank, List.forall_mem_cons] at blank
      have first : Yields [c] [] := by
        by_cases space : isSpace c = true
        · exact .inl (.space space)
        · exact .inr (spoils_of_notMem_marks (Bool.eq_false_iff.2 space)
            (notMem_marks_of_blank blank.1))
      exact first.append (ih blank.2)

/-- A name in double quotes is a string; in any other form, it is no token of an array of
strings. -/
theorem WritesName.yields (writes : WritesName name item) (isName : IsName name) :
    ∃ string, trim string = name ∧ Yields item [.text (string.map .plain)] := by
  obtain ⟨before, body, behind, rfl, blank, wraps, blank'⟩ := writes
  suffices inner : ∃ string, trim string = name ∧ Yields body [.text (string.map .plain)] by
    obtain ⟨string, trims, yields⟩ := inner
    exact ⟨string, trims, (yields_blank blank).append (yields.append (yields_blank blank'))⟩
  cases wraps with
  | bare =>
      obtain ⟨c, rest, rfl⟩ := List.exists_cons_of_ne_nil isName.some_
      have first : (trim (c :: rest)).head? = some c := by rw [isName.trimmed]; rfl
      have solid : isBlank c = false := Text.isBlank_of_head?_trim first
      have noSpace : isSpace c = false :=
        Bool.eq_false_iff.2 fun space => Bool.eq_false_iff.1 solid (isBlank_of_isSpace space)
      have spoils := spoils_of_notMem_marks noSpace (isName.free c List.mem_cons_self)
      exact ⟨c :: rest, isName.trimmed, .inr (spoils.append rest)⟩
  | @quoted mark inBefore inBehind quote inBlank inBlank' =>
      refine ⟨inBefore ++ (name ++ inBehind), ?_, ?_⟩
      · rw [Text.trim_around inBlank name inBlank', isName.trimmed]
      · rcases quote with rfl | rfl
        · refine Yields.quoted fun c member => ?_
          have plain := isName.padded inBlank inBlank' c member
          refine ⟨?_, ?_⟩ <;>
          · rintro rfl
            exact plain (by decide)
        · exact .inr ((Spoils.of_char rfl (by decide)).append _)

/-- If a list in brackets is a JSON array, its strings are the names. -/
theorem map_trim_of_jsonStrings? (each : List.Forall₂ WritesName names items)
    (isNames : ∀ name ∈ names, IsName name) {strings : List Text}
    (read : jsonStrings? ('[' :: (List.intercalate [','] items ++ [']'])) = some strings) :
    strings.map trim = names := by
  have exist : ∃ inside : List Text, inside.map trim = names ∧
      List.Forall₂ Yields items ((inside.map (·.map .plain)).map fun pieces => [.text pieces]) := by
    clear read
    induction each with
    | nil => exact ⟨[], rfl, .nil⟩
    | cons first _ ih =>
        rw [List.forall_mem_cons] at isNames
        obtain ⟨string, trims, yields⟩ := first.yields isNames.1
        obtain ⟨inside, others, each⟩ := ih isNames.2
        exact ⟨string :: inside, by rw [List.map_cons, trims, others], .cons yields each⟩
  obtain ⟨inside, trims, each⟩ := exist
  have joined := intercalate_comma (.inl .nil) (.inl .comma) Yields.append each
  have yields : Yields ('[' :: (List.intercalate [','] items ++ [']']))
      (arrayTokens (inside.map (·.map .plain))) :=
    Yields.append (.inl .openArray) (joined.append (.inl .closeArray))
  rw [jsonStrings?_cons, Option.bind_eq_some_iff] at read
  obtain ⟨tokens, read, hold⟩ := read
  rcases yields with reads | spoils
  · have plain : List.Forall₂ (fun pieces string => pieceText? pieces = some string)
        (inside.map (·.map .plain)) inside := by
      rw [List.forall₂_map_left_iff, List.forall₂_same]
      exact fun string _ => pieceText?_map_plain string
    obtain rfl := Option.some.inj (reads.tokens?_eq.symm.trans read)
    rw [strings?_arrayTokens plain] at hold
    rw [← Option.some.inj hold, trims]
  · obtain ⟨reversed, read, rfl⟩ := Option.map_eq_some_iff.1 read
    obtain ⟨token, member, foreign⟩ := spoils [] [] reversed (by rwa [List.append_nil])
    have known := inStrings_of_strings? hold token (List.mem_reverse.2 member)
    rw [foreign] at known
    cases known

end Tokens

/-! ## Agreement -/

/-- **A JSON array of strings is read as its nonempty trimmed strings.** -/
theorem ofText_of_spellsArray {strings : List Text} {before array behind : Text}
    (blank : Blank before) (spells : Json.SpellsArray strings array) (blank' : Blank behind) :
    ofText (before ++ (array ++ behind)) = nonempty (strings.map trim) := by
  have enclosed : ∃ inside, array = '[' :: (inside ++ [']']) := by
    cases spells with
    | empty => exact ⟨_, rfl⟩
    | items => exact ⟨_, rfl⟩
  obtain ⟨pieces, reads, hold⟩ := spells.reads
  obtain ⟨inside, rfl⟩ := enclosed
  have read : jsonStrings? ('[' :: (inside ++ [']'])) = some strings := by
    rw [jsonStrings?_cons, reads.tokens?_eq]
    exact strings?_arrayTokens hold
  rw [ofText, Text.trim_around blank _ blank', Text.trim_enclosed rfl rfl, read]

/-- **Names are read from each way to list them.** -/
theorem ofText_of_lists {value : Text} (isNames : ∀ name ∈ names, IsName name)
    (lists : Lists names value) : ofText value = names := by
  cases lists with
  | json blank spells blank' =>
      rw [ofText_of_spellsArray blank spells blank']
      have trimmed : names.map trim = names :=
        (List.map_congr_left fun name member => (isNames name member).trimmed).trans
          (List.map_id names)
      rw [trimmed, nonempty_of_isName isNames]
  | @bracketed before behind items blank each blank' =>
      rw [ofText, Text.trim_around blank _ blank', Text.trim_enclosed rfl rfl]
      cases read : jsonStrings? ('[' :: (List.intercalate [','] items ++ [']'])) with
      | some strings =>
          dsimp only
          rw [map_trim_of_jsonStrings? each isNames read, nonempty_of_isName isNames]
      | none =>
          have inside : ofCommas (['['] ++ (List.intercalate [','] items ++ [']'])) = _ :=
            ofCommas_around (List.forall_mem_singleton.2 rfl) (notMem_joined each isNames)
              (List.forall_mem_singleton.2 rfl)
          exact inside.trans (nonempty_map_unquoted each isNames)
  | @bare items each =>
      obtain ⟨noOpening, noClosing⟩ := notMem_joined each isNames
      have free : '[' ∉ trim (List.intercalate [','] items) ∧
          ']' ∉ trim (List.intercalate [','] items) :=
        ⟨fun member => noOpening (Text.mem_of_mem_trim member),
          fun member => noClosing (Text.mem_of_mem_trim member)⟩
      have inside : ofCommas ([] ++ (trim (List.intercalate [','] items) ++ [])) = _ :=
        ofCommas_around (List.forall_mem_nil _) free (List.forall_mem_nil _)
      rw [List.nil_append, List.append_nil, map_unquoted_pieces_trim,
        nonempty_map_unquoted each isNames] at inside
      rw [ofText, jsonStrings?_of_notMem free.1]
      exact inside

end NameList

/-- Values that list the same names may stand for each other in a request. -/
theorem Parameters.ofPairs_congr_names {value other : Text}
    (same : NameList.ofText value = NameList.ofText other) (before after : List Pair)
    (bounds : PageBounds) :
    ofPairs (before ++ (populateKey, value) :: after) bounds =
      ofPairs (before ++ (populateKey, other) :: after) bounds := by
  have step (reading : Reading) :
      reading.step (populateKey, value) = reading.step (populateKey, other) := by
    obtain ⟨⟨-, -, limit⟩, ⟨-, offset⟩, order⟩ := Reading.reserved_apart
    simp only [Reading.step, limit.symm, offset.symm, order.symm, same, if_true, if_false]
  rw [ofPairs_eq_reading, ofPairs_eq_reading, List.foldl_append, List.foldl_append,
    List.foldl_cons, List.foldl_cons, step]

/-- **However names are listed, they are read alike.**  Names that can be listed are read from
each way to list them, and so a request asks for the same whichever way it lists them; a JSON
array of any strings, such as the printed one, is read as its nonempty trimmed strings. -/
theorem NameList.listings_are_read_alike :
    (∀ names value, (∀ name ∈ names, IsName name) → Lists names value → ofText value = names) ∧
    (∀ strings array before behind, Json.SpellsArray strings array → Text.Blank before →
      Text.Blank behind →
      ofText (before ++ (array ++ behind)) = nonempty (strings.map Text.trim)) ∧
    (∀ strings : List Text, ofText (Json.array (strings.map .text)).print =
      nonempty (strings.map Text.trim)) ∧
    ∀ names value other, (∀ name ∈ names, IsName name) → Lists names value →
      Lists names other → ∀ before after bounds,
        Parameters.ofPairs (before ++ (populateKey, value) :: after) bounds =
          Parameters.ofPairs (before ++ (populateKey, other) :: after) bounds := by
  refine ⟨fun names value isNames lists => ofText_of_lists isNames lists,
    fun strings array before behind spells blank blank' =>
      ofText_of_spellsArray blank spells blank', fun strings => ?_,
    fun names value other isNames lists lists' before after bounds => ?_⟩
  · have none_ : Text.Blank [] := List.forall_mem_nil _
    have printed := ofText_of_spellsArray none_ (Json.spellsArray_print strings) none_
    rwa [List.nil_append, List.append_nil] at printed
  · have read := ofText_of_lists isNames lists
    exact Parameters.ofPairs_congr_names (read.trans (ofText_of_lists isNames lists').symm)
      before after bounds

theorem NameList.escapedAuthor_is_read :
    ofText "[author, 'reviews' ]" = ["author", "reviews"] ∧
    ofText "[\"\\u0061uthor\" ,\"reviews\"]" = ["author", "reviews"] ∧
    Parameters.ofPairs [("populate", "[author, 'reviews' ]")] .standard =
      Parameters.ofPairs [("populate", "[\"\\u0061uthor\" ,\"reviews\"]")] .standard := by
  have isNames : ∀ name ∈ (["author", "reviews"] : List Text), IsName name := by decide
  have nothing : Text.Blank [] := List.forall_mem_nil _
  have bare : Lists ["author", "reviews"] "[author, 'reviews' ]" := by
    have author : WritesName "author" "author" := ⟨[], _, [], rfl, nothing, .bare, nothing⟩
    have reviews : WritesName "reviews" " 'reviews' " :=
      ⟨[' '], _, [' '], rfl, by decide, .quoted (.inr rfl) nothing nothing, by decide⟩
    exact .bracketed nothing (.cons author (.cons reviews .nil)) nothing
  have escaped : Lists ["author", "reviews"] "[\"\\u0061uthor\" ,\"reviews\"]" := by
    have noSpace : Json.Spaces [] := List.forall_mem_nil _
    have letter : Json.HexUnit "0061" 'a'.toNat :=
      @Json.HexUnit.digits '0' '0' '6' '1' 0 0 6 1 rfl rfl rfl rfl
    have author : Json.Spells "author" "\\u0061uthor" :=
      Json.Spells.unit (c := 'a') letter (Json.spells_flatMap "uthor")
    have items : List.Forall₂ Json.SpellsItem ["author", "reviews"]
        ["\"\\u0061uthor\" ", "\"reviews\""] :=
      .cons ⟨[], _, [' '], rfl, noSpace, author, List.forall_mem_singleton.2 rfl⟩
        (.cons ⟨[], _, [], rfl, noSpace, Json.spells_flatMap "reviews", noSpace⟩ .nil)
    exact .json nothing (.items items) nothing
  obtain ⟨read, -, -, requests⟩ := listings_are_read_alike
  exact ⟨read _ _ isNames bare, read _ _ isNames escaped,
    requests _ _ _ isNames bare escaped [] [] _⟩

end CatalogListing
