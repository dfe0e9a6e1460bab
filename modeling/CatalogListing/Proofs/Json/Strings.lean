/-
# Proofs.Json.Strings -- strings in JSON text

A string can be written in many ways: a character stands for itself, or behind a backslash,
or as one code unit or two in hexadecimal digits (`Spells`); white space may stand around
every token of an array (`SpellsArray`).  However an array of strings is written, its tokens
hold the strings (`SpellsArray.reads`).

* `Reads`: where no token is pending, a text is read as tokens, whatever follows; such texts
  may be put one behind the other;
* `Spoils`: whatever follows the text, its tokens are not those of an array of strings,
  because a token that is none of them is never lost (`Scan.Foreign.step`);
* `Yields`: the text is read as tokens or spoils what it stands in.  Such texts, too, may be
  put one behind the other.
-/
import CatalogListing.Json.Printer
import Mathlib.Data.List.Forall2

namespace CatalogListing.Json

set_option autoImplicit false

/-! ## Spelled strings -/

/-- The characters that may stand behind a backslash, and those that they stand for. -/
def shortEscapes : List (Char × Char) :=
  [('"', '"'), ('\\', '\\'), ('/', '/'), ('b', '\x08'), ('f', '\x0c'), ('n', '\n'), ('r', '\r'),
    ('t', '\t')]

/-- Four hexadecimal digits of either case, and their number. -/
inductive HexUnit : Text → Nat → Prop where
  | digits {a b c d : Char} {h i j k : Nat} :
      Text.hexValue? a = some h → Text.hexValue? b = some i → Text.hexValue? c = some j →
      Text.hexValue? d = some k → HexUnit [a, b, c, d] (4096 * h + 256 * i + 16 * j + k)

/-- A text and how it may be written between quotes. -/
inductive Spells : Text → Text → Prop where
  | nil : Spells [] []
  | plain {c : Char} {text spelling : Text} :
      c ≠ '"' → c ≠ '\\' → 32 ≤ c.toNat → Spells text spelling →
      Spells (c :: text) (c :: spelling)
  | short {mark c : Char} {text spelling : Text} :
      (mark, c) ∈ shortEscapes → Spells text spelling →
      Spells (c :: text) ('\\' :: mark :: spelling)
  | unit {c : Char} {digits text spelling : Text} :
      HexUnit digits c.toNat → Spells text spelling →
      Spells (c :: text) ('\\' :: 'u' :: (digits ++ spelling))
  /-- A character beyond the first 65536 has two code units, the high surrogate first. -/
  | pair {c : Char} {high low text spelling : Text} {h l : Nat} :
      HexUnit high (0xD800 + h) → HexUnit low (0xDC00 + l) → h < 0x400 → l < 0x400 →
      c.toNat = 0x10000 + h * 0x400 + l → Spells text spelling →
      Spells (c :: text) ('\\' :: 'u' :: (high ++ '\\' :: 'u' :: (low ++ spelling)))

/-- Inside of quotes the text is read as the pieces. -/
def ReadsPieces (text : Text) (pieces : List Piece) : Prop :=
  ∀ done before, text.foldlM Scan.step? ⟨done, .quoted before⟩ =
    some ⟨done, .quoted (pieces.reverse ++ before)⟩

namespace ReadsPieces

variable {text other : Text} {pieces more : List Piece}

theorem nil : ReadsPieces [] [] := fun _ _ => rfl

theorem append (reads : ReadsPieces text pieces) (later : ReadsPieces other more) :
    ReadsPieces (text ++ other) (pieces ++ more) := by
  intro done before
  rw [List.foldlM_append, reads]
  exact (later done _).trans (by rw [List.reverse_append, List.append_assoc])

theorem plain {c : Char} (noQuote : c ≠ '"') (noEscape : c ≠ '\\') (noControl : 32 ≤ c.toNat) :
    ReadsPieces [c] [.plain c] := by
  intro done before
  simp [Scan.step?, noQuote, noEscape, Nat.not_lt.2 noControl]

theorem short {mark c : Char} (escape : (mark, c) ∈ shortEscapes) :
    ReadsPieces ['\\', mark] [.plain c] := by
  have known : ∀ pair ∈ shortEscapes, pair.1 ≠ 'u' ∧ shortEscape? pair.1 = some pair.2 := by
    decide
  obtain ⟨notUnit, stands⟩ := known _ escape
  intro done before
  simp [Scan.step?, notUnit, stands]

theorem unit {digits : Text} {n : Nat} (unit : HexUnit digits n) :
    ReadsPieces ('\\' :: 'u' :: digits) [.unit n] := by
  obtain ⟨first, second, third, fourth⟩ := unit
  intro done before
  simp [Scan.step?, first, second, third, fourth]
  omega

end ReadsPieces

theorem pieceText?_unit (c : Char) (rest : List Piece) :
    pieceText? (.unit c.toNat :: rest) = (pieceText? rest).map (c :: ·) := by
  have valid : c.toNat < 0xD800 ∨ 0xDFFF < c.toNat := by
    rcases c.valid with small | ⟨large, -⟩
    · exact .inl small
    · exact .inr large
  have noLow : isLowSurrogate c.toNat = false := by simp [isLowSurrogate]; omega
  have noHigh : isHighSurrogate c.toNat = false := by simp [isHighSurrogate]; omega
  rw [pieceText?.eq_def]
  simp [noLow, noHigh]

theorem pieceText?_pair {c : Char} {h l : Nat} (high : h < 0x400) (low : l < 0x400)
    (value : c.toNat = 0x10000 + h * 0x400 + l) (rest : List Piece) :
    pieceText? (.unit (0xD800 + h) :: .unit (0xDC00 + l) :: rest) =
      (pieceText? rest).map (c :: ·) := by
  have noLow : isLowSurrogate (0xD800 + h) = false := by simp [isLowSurrogate]; omega
  have isHigh : isHighSurrogate (0xD800 + h) = true := by simp [isHighSurrogate]; omega
  have isLow : isLowSurrogate (0xDC00 + l) = true := by simp [isLowSurrogate]; omega
  have whole : Char.ofNat (0x10000 + (0xD800 + h - 0xD800) * 0x400 + (0xDC00 + l - 0xDC00)) =
      c := by
    rw [Nat.add_sub_cancel_left, Nat.add_sub_cancel_left, ← value, Char.ofNat_toNat]
  rw [pieceText?, noLow, isHigh, ← whole]
  simp [isLow]

/-- **However a text is written, it is read as pieces that hold it.** -/
theorem Spells.reads {text spelling : Text} (spells : Spells text spelling) :
    ∃ pieces, ReadsPieces spelling pieces ∧ pieceText? pieces = some text := by
  induction spells with
  | nil => exact ⟨[], .nil, rfl⟩
  | @plain c _ _ noQuote noEscape noControl _ ih =>
      obtain ⟨pieces, reads, holds⟩ := ih
      exact ⟨.plain c :: pieces, (ReadsPieces.plain noQuote noEscape noControl).append reads,
        by rw [pieceText?, holds]; rfl⟩
  | @short mark c _ _ escape _ ih =>
      obtain ⟨pieces, reads, holds⟩ := ih
      exact ⟨.plain c :: pieces, (ReadsPieces.short escape).append reads,
        by rw [pieceText?, holds]; rfl⟩
  | @unit c _ _ _ unit _ ih =>
      obtain ⟨pieces, reads, holds⟩ := ih
      exact ⟨.unit c.toNat :: pieces, (ReadsPieces.unit unit).append reads,
        by rw [pieceText?_unit, holds]; rfl⟩
  | @pair c _ _ _ _ h l high low highBound lowBound value _ ih =>
      obtain ⟨pieces, reads, holds⟩ := ih
      refine ⟨.unit (0xD800 + h) :: .unit (0xDC00 + l) :: pieces, ?_,
        by rw [pieceText?_pair highBound lowBound value, holds]; rfl⟩
      exact (ReadsPieces.unit high).append ((ReadsPieces.unit low).append reads)

/-! ## Tokens -/

/-- Where no token is pending, the text is read as the tokens. -/
def Reads (text : Text) (tokens : List Token) : Prop :=
  ∀ done, text.foldlM Scan.step? ⟨done, .nothing⟩ = some ⟨tokens.reverse ++ done, .nothing⟩

namespace Reads

variable {text other : Text} {tokens more : List Token}

theorem nil : Reads [] [] := fun _ => rfl

theorem append (reads : Reads text tokens) (later : Reads other more) :
    Reads (text ++ other) (tokens ++ more) := by
  intro done
  rw [List.foldlM_append, reads]
  exact (later _).trans (by rw [List.reverse_append, List.append_assoc])

theorem openArray : Reads ['['] [.openArray] := fun _ => rfl

theorem closeArray : Reads [']'] [.closeArray] := fun _ => rfl

theorem comma : Reads [','] [.comma] := fun _ => rfl

theorem space {c : Char} (space : isSpace c = true) : Reads [c] [] := by
  intro done
  simp [Scan.step?, Scan.outside?, space, Scan.finish?]

theorem spaces {gap : Text} (white : ∀ c ∈ gap, isSpace c = true) : Reads gap [] := by
  induction gap with
  | nil => exact nil
  | cons c rest ih =>
      rw [List.forall_mem_cons] at white
      exact (space white.1).append (ih white.2)

theorem quoted {spelling : Text} {pieces : List Piece} (reads : ReadsPieces spelling pieces) :
    Reads ('"' :: (spelling ++ ['"'])) [.text pieces] := by
  intro done
  have opening : Scan.step? ⟨done, .nothing⟩ '"' = some ⟨done, .quoted []⟩ := rfl
  have closing : ['"'].foldlM Scan.step? ⟨done, .quoted (pieces.reverse ++ [])⟩ =
      some ⟨.text (pieces.reverse ++ []).reverse :: done, .nothing⟩ := rfl
  rw [List.foldlM_cons, opening, Option.bind_eq_bind, Option.bind_some, List.foldlM_append, reads]
  refine closing.trans ?_
  rw [List.append_nil, List.reverse_reverse]
  rfl

theorem tokens?_eq (reads : Reads text tokens) : tokens? text = some tokens := by
  have read := reads []
  rw [List.append_nil] at read
  rw [tokens?, read]
  exact congrArg some (List.reverse_reverse tokens)

end Reads

/-- What texts and their tokens keep when they are put one behind the other, texts that commas
join have with tokens that commas join. -/
theorem intercalate_comma {related : Text → List Token → Prop} (nil : related [] [])
    (comma : related [','] [.comma])
    (append : ∀ {text other : Text} {tokens more : List Token}, related text tokens →
      related other more → related (text ++ other) (tokens ++ more))
    {texts : List Text} {tokens : List (List Token)} (each : List.Forall₂ related texts tokens) :
    related (List.intercalate [','] texts) (List.intercalate [.comma] tokens) := by
  induction each with
  | nil => exact nil
  | @cons text one texts tokens first rest ih =>
      cases rest with
      | nil =>
          rw [List.intercalate_singleton, List.intercalate_singleton]
          exact first
      | cons second later =>
          rw [List.intercalate_cons_cons, List.intercalate_cons_cons]
          exact append (append first comma) ih

/-! ## Arrays of strings -/

/-- White space that may stand around tokens. -/
def Spaces (gap : Text) : Prop :=
  ∀ c ∈ gap, isSpace c = true

/-- A string and how it may be written in an array. -/
def SpellsItem (string item : Text) : Prop :=
  ∃ before spelling behind, item = before ++ (('"' :: (spelling ++ ['"'])) ++ behind) ∧
    Spaces before ∧ Spells string spelling ∧ Spaces behind

/-- Strings and how an array of them may be written. -/
inductive SpellsArray : List Text → Text → Prop where
  | empty {gap : Text} : Spaces gap → SpellsArray [] ('[' :: (gap ++ [']']))
  | items {strings items : List Text} :
      List.Forall₂ SpellsItem strings items →
      SpellsArray strings ('[' :: (List.intercalate [','] items ++ [']']))

/-- The tokens of an array of strings. -/
def arrayTokens (items : List (List Piece)) : List Token :=
  .openArray :: (List.intercalate [.comma] (items.map fun pieces => [.text pieces]) ++
    [.closeArray])

theorem SpellsItem.reads {string item : Text} (spells : SpellsItem string item) :
    ∃ pieces, Reads item [.text pieces] ∧ pieceText? pieces = some string := by
  obtain ⟨before, spelling, behind, rfl, spaces, spelled, spaces'⟩ := spells
  obtain ⟨pieces, reads, holds⟩ := spelled.reads
  exact ⟨pieces, (Reads.spaces spaces).append ((Reads.quoted reads).append (.spaces spaces')),
    holds⟩

/-- **However an array of strings is written, its tokens hold the strings.** -/
theorem SpellsArray.reads {strings : List Text} {text : Text} (spells : SpellsArray strings text) :
    ∃ items, Reads text (arrayTokens items) ∧
      List.Forall₂ (fun pieces string => pieceText? pieces = some string) items strings := by
  cases spells with
  | empty spaces =>
      exact ⟨[], Reads.openArray.append ((Reads.spaces spaces).append .closeArray), .nil⟩
  | @items strings texts each =>
      have exist : ∃ items : List (List Piece),
          List.Forall₂ Reads texts (items.map fun pieces => [Token.text pieces]) ∧
          List.Forall₂ (fun pieces string => pieceText? pieces = some string) items strings := by
        induction each with
        | nil => exact ⟨[], .nil, .nil⟩
        | cons first _ ih =>
            obtain ⟨pieces, reads, holds⟩ := first.reads
            obtain ⟨items, others, hold⟩ := ih
            exact ⟨pieces :: items, .cons reads others, .cons holds hold⟩
      obtain ⟨items, reads, hold⟩ := exist
      have joined := intercalate_comma Reads.nil Reads.comma Reads.append reads
      exact ⟨items, Reads.openArray.append (joined.append .closeArray), hold⟩

/-! ## Printed arrays -/

theorem spells_escapeChar (c : Char) {text spelling : Text} (spells : Spells text spelling) :
    Spells (c :: text) (escapeChar c ++ spelling) := by
  have digit : ∀ n < 16, Text.hexValue? (Text.hexDigit n) = some n := by decide
  unfold escapeChar
  split_ifs
  on_goal 8 =>
    have unit := HexUnit.digits (digit 0 (by decide)) (digit 0 (by decide))
      (digit (c.toNat / 16) (by omega)) (digit (c.toNat % 16) (by omega))
    have value : 4096 * 0 + 256 * 0 + 16 * (c.toNat / 16) + c.toNat % 16 = c.toNat := by omega
    rw [value] at unit
    exact .unit unit spells
  on_goal 8 =>
    rename_i noQuote noEscape _ _ _ _ _ noControl
    exact .plain noQuote noEscape (Nat.not_lt.1 noControl) spells
  all_goals
    subst c
    exact .short (by decide) spells

theorem spells_flatMap (string : Text) : Spells string (string.flatMap escapeChar) := by
  induction string with
  | nil => exact .nil
  | cons c rest ih => exact spells_escapeChar c ih

/-- What is printed of strings is an array of them. -/
theorem spellsArray_print (strings : List Text) :
    SpellsArray strings (Json.array (strings.map .text)).print := by
  have printed : printItems (strings.map .text) = strings.map quoted := by
    induction strings with
    | nil => rfl
    | cons string rest ih => rw [List.map_cons, printItems, print, ih, List.map_cons]
  rw [print, printed]
  refine .items ?_
  rw [List.forall₂_map_right_iff, List.forall₂_same]
  intro string _
  exact ⟨[], _, [], by rw [quoted, List.nil_append, List.append_nil], List.forall_mem_nil _,
    spells_flatMap string, List.forall_mem_nil _⟩

/-! ## Other tokens -/

/-- The token may stand in an array of strings. -/
def Token.inStrings : Token → Bool
  | .openArray | .closeArray | .comma | .text _ => true
  | _ => false

/-- A token that no array of strings has is read, or begun. -/
def Scan.Foreign (scan : Scan) : Prop :=
  (∃ token ∈ scan.done, token.inStrings = false) ∨ ∃ run, scan.pending = .bare run

theorem inStrings_bareToken? {run : Text} {token : Token} (read : bareToken? run = some token) :
    token.inStrings = false := by
  unfold bareToken? at read
  split at read
  · exact Option.some.inj read ▸ rfl
  split at read
  · exact Option.some.inj read ▸ rfl
  split at read
  · exact Option.some.inj read ▸ rfl
  · obtain ⟨numeral, -, rfl⟩ := Option.map_eq_some_iff.1 read
    rfl

namespace Scan.Foreign

variable {scan next : Scan}

theorem finish? (foreign : scan.Foreign) {done : List Token} (read : scan.finish? = some done) :
    ∃ token ∈ done, token.inStrings = false := by
  obtain ⟨before, pending⟩ := scan
  cases pending with
  | nothing =>
      obtain rfl := Option.some.inj read
      exact foreign.resolve_right fun ⟨_, bare⟩ => (nomatch bare)
  | bare run =>
      obtain ⟨token, bare, rfl⟩ := Option.map_eq_some_iff.1 read
      exact ⟨token, List.mem_cons_self, inStrings_bareToken? bare⟩
  | quoted pieces => cases read
  | escape pieces => cases read
  | unit pieces digits value => cases read

theorem outside? (foreign : scan.Foreign) {c : Char} (read : scan.outside? c = some next) :
    next.Foreign := by
  unfold Scan.outside? at read
  split at read
  · obtain ⟨done, finished, rfl⟩ := Option.map_eq_some_iff.1 read
    exact .inl (foreign.finish? finished)
  split at read
  · obtain ⟨done, finished, rfl⟩ := Option.map_eq_some_iff.1 read
    exact .inl (foreign.finish? finished)
  split at read
  · obtain ⟨done, finished, rfl⟩ := Option.map_eq_some_iff.1 read
    obtain ⟨token, member, other⟩ := foreign.finish? finished
    exact .inl ⟨token, List.mem_cons_of_mem _ member, other⟩
  · split at read
    · exact Option.some.inj read ▸ .inr ⟨_, rfl⟩
    · exact Option.some.inj read ▸ .inr ⟨_, rfl⟩

/-- **A foreign token is never lost.** -/
theorem step (foreign : scan.Foreign) {c : Char} (read : scan.step? c = some next) :
    next.Foreign := by
  obtain ⟨before, pending⟩ := scan
  have read_ {pieces : List Piece} (inside : pending = .quoted pieces ∨ pending = .escape pieces ∨
      ∃ digits value, pending = .unit pieces digits value) :
      ∃ token ∈ before, token.inStrings = false := by
    refine foreign.resolve_right ?_
    rintro ⟨run, rfl⟩
    rcases inside with same | same | ⟨_, _, same⟩ <;> cases same
  cases pending with
  | nothing => exact foreign.outside? read
  | bare run => exact foreign.outside? read
  | quoted pieces =>
      obtain ⟨token, member, other⟩ := read_ (.inl rfl)
      unfold Scan.step? at read
      dsimp only at read
      split at read
      · exact Option.some.inj read ▸ .inl ⟨token, List.mem_cons_of_mem _ member, other⟩
      split at read
      · exact Option.some.inj read ▸ .inl ⟨token, member, other⟩
      split at read
      · cases read
      · exact Option.some.inj read ▸ .inl ⟨token, member, other⟩
  | escape pieces =>
      have kept := read_ (.inr (.inl rfl))
      unfold Scan.step? at read
      dsimp only at read
      split at read
      · exact Option.some.inj read ▸ .inl kept
      · obtain ⟨d, -, rfl⟩ := Option.map_eq_some_iff.1 read
        exact .inl kept
  | unit pieces digits value =>
      have kept := read_ (.inr (.inr ⟨_, _, rfl⟩))
      unfold Scan.step? at read
      dsimp only at read
      obtain ⟨h, -, rfl⟩ := Option.map_eq_some_iff.1 read
      split <;> exact .inl kept

theorem foldlM {text : Text} (foreign : scan.Foreign)
    (read : text.foldlM Scan.step? scan = some next) : next.Foreign := by
  induction text generalizing scan with
  | nil => exact Option.some.inj read ▸ foreign
  | cons c rest ih =>
      rw [List.foldlM_cons, Option.bind_eq_bind, Option.bind_eq_some_iff] at read
      obtain ⟨middle, first, later⟩ := read
      exact ih (foreign.step first) later

end Scan.Foreign

/-- Whatever follows the text, its tokens are not those of an array of strings. -/
def Spoils (text : Text) : Prop :=
  ∀ done rest tokens,
    ((text ++ rest).foldlM Scan.step? ⟨done, .nothing⟩).bind Scan.finish? = some tokens →
      ∃ token ∈ tokens, token.inStrings = false

namespace Spoils

variable {text other : Text}

theorem append (spoils : Spoils text) (other : Text) : Spoils (text ++ other) := by
  intro done rest tokens read
  rw [List.append_assoc] at read
  exact spoils done _ tokens read

theorem after {tokens : List Token} (reads : Reads text tokens) (spoils : Spoils other) :
    Spoils (text ++ other) := by
  intro done rest all read
  rw [List.append_assoc, List.foldlM_append, reads] at read
  exact spoils _ rest all read

/-- A character with which no token of an array of strings begins. -/
theorem of_char {c : Char} (noSpace : isSpace c = false) (other : c ∉ ['"', '[', ']', ',']) :
    Spoils [c] := by
  have foreign : ∀ done next, Scan.step? ⟨done, .nothing⟩ c = some next → next.Foreign := by
    intro done next first
    change Scan.outside? _ c = _ at first
    unfold Scan.outside? at first
    rw [noSpace, if_neg Bool.false_ne_true, if_neg fun same => other (by simp [same])] at first
    split at first
    · rename_i token mark
      refine Option.some.inj first ▸ .inl ⟨token, List.mem_cons_self, ?_⟩
      unfold punctuation? at mark
      split at mark <;> cases mark <;> simp_all [Token.inStrings]
    · exact Option.some.inj first ▸ .inr ⟨_, rfl⟩
  intro done rest tokens read
  rw [List.singleton_append, List.foldlM_cons, Option.bind_eq_bind, Option.bind_assoc,
    Option.bind_eq_some_iff] at read
  obtain ⟨next, first, read⟩ := read
  obtain ⟨last, later, finished⟩ := Option.bind_eq_some_iff.1 read
  exact ((foreign done next first).foldlM later).finish? finished

end Spoils

/-! ## Texts that are tokens, if anything -/

/-- The text is read as the tokens, or it spoils what it stands in. -/
def Yields (text : Text) (tokens : List Token) : Prop :=
  Reads text tokens ∨ Spoils text

namespace Yields

variable {text other : Text} {tokens more : List Token}

theorem append (yields : Yields text tokens) (later : Yields other more) :
    Yields (text ++ other) (tokens ++ more) := by
  rcases yields with reads | spoils
  · exact later.imp reads.append (Spoils.after reads)
  · exact .inr (spoils.append other)

/-- A text between quotes, without quotes and escapes; it must not have control characters. -/
theorem quoted {inner : Text} (plain : ∀ c ∈ inner, c ≠ '"' ∧ c ≠ '\\') :
    Yields ('"' :: (inner ++ ['"'])) [.text (inner.map .plain)] := by
  by_cases printable : ∀ c ∈ inner, 32 ≤ c.toNat
  · left
    refine Reads.quoted ?_
    induction inner with
    | nil => exact .nil
    | cons c rest ih =>
        rw [List.forall_mem_cons] at plain printable
        exact (ReadsPieces.plain plain.1.1 plain.1.2 printable.1).append
          (ih plain.2 printable.2)
  · right
    have stops : ∀ done before rest,
        (inner ++ rest).foldlM Scan.step? ⟨done, .quoted before⟩ = none := by
      induction inner with
      | nil => exact absurd (List.forall_mem_nil _) printable
      | cons c others ih =>
          intro done before rest
          rw [List.forall_mem_cons] at plain printable
          rw [List.cons_append, List.foldlM_cons]
          by_cases control : c.toNat < 32
          · simp [Scan.step?, plain.1.1, plain.1.2, control]
          · have step : Scan.step? ⟨done, .quoted before⟩ c =
                some ⟨done, .quoted (.plain c :: before)⟩ := by
              simp [Scan.step?, plain.1.1, plain.1.2, control]
            rw [step]
            exact ih plain.2 (fun later => printable ⟨Nat.not_lt.1 control, later⟩) _ _ _
    intro done rest all read
    have opening : Scan.step? ⟨done, .nothing⟩ '"' = some ⟨done, .quoted []⟩ := rfl
    rw [List.cons_append, List.append_assoc, List.foldlM_cons, opening, Option.bind_eq_bind,
      Option.bind_some, stops] at read
    cases read

end Yields

theorem pieceText?_map_plain (text : Text) : pieceText? (text.map .plain) = some text := by
  induction text with
  | nil => rfl
  | cons c rest ih => rw [List.map_cons, pieceText?, ih]; rfl

end CatalogListing.Json
