/-
# Proofs.Sql.Token -- the words of SQL

Lexemes put together to tokens: a run of letters and digits is a word or, in either case,
a keyword; a run of the characters of comparisons is an operator; a question mark is a
placeholder; blanks only separate.  A name is a token of its own, so nothing inside it is
ever a keyword, a placeholder or a parenthesis.

`Takes` says which tokens a run of lexemes becomes behind anything else.  It holds of
runs that join nothing before them, and such runs may be put one behind the other
(`Takes.append`).
-/
import CatalogListing.Proofs.Sql.Lexeme

namespace CatalogListing.Sql

set_option autoImplicit false

/-- The keywords that conditions are made of. -/
inductive Keyword where
  | and
  | or
  | not
  | is
  | null
  | like
  | member
  | matching
  deriving DecidableEq, Repr

namespace Keyword

def spelling : Keyword → Text
  | .and => "AND"
  | .or => "OR"
  | .not => "NOT"
  | .is => "IS"
  | .null => "NULL"
  | .like => "LIKE"
  | .member => "IN"
  | .matching => "MATCH"

def all : List Keyword :=
  [.and, .or, .not, .is, .null, .like, .member, .matching]

/-- The keyword that a word is, in upper or lower case. -/
def ofWord? (word : Text) : Option Keyword :=
  all.find? fun keyword => keyword.spelling == word.map Char.toUpper

end Keyword

/-- A token of SQL. -/
inductive Token where
  | name (text : Text)
  | keyword (keyword : Keyword)
  | word (text : Text)
  | operator (text : Text)
  | placeholder
  | opening
  | closing
  | mark (c : Char)
  deriving DecidableEq, Repr

/-- What a character outside of names belongs to. -/
inductive CharacterKind where
  | blank
  | word
  | operator
  | mark
  deriving DecidableEq, Repr

namespace CharacterKind

def ofChar (c : Char) : CharacterKind :=
  if c.isWhitespace then .blank
  else if c.isAlphanum || c == '_' then .word
  else if c == '<' || c == '>' || c == '=' then .operator
  else .mark

end CharacterKind

namespace Token

/-- The token of a run of characters of one kind. -/
def ofRun (run : Text) : Token :=
  match Keyword.ofWord? run with
  | some known => .keyword known
  | none => if run.all fun c => CharacterKind.ofChar c == .operator then .operator run else .word run

/-- The token of a character that stands for itself. -/
def ofMark (c : Char) : Token :=
  if c = '?' then .placeholder
  else if c = '(' then .opening
  else if c = ')' then .closing
  else .mark c

end Token

/-- Tokens read so far, newest first, and the run that the next character may continue,
in reverse. -/
structure Words where
  tokens : List Token
  pending : Text
  deriving DecidableEq, Repr

namespace Words

/-- The tokens with the run complete. -/
def settled (words : Words) : List Token :=
  match words.pending with
  | [] => words.tokens
  | run => Token.ofRun run.reverse :: words.tokens

/-- One more lexeme. -/
def step (words : Words) : Lexeme → Words
  | .name text => ⟨.name text :: words.settled, []⟩
  | .char c =>
      match CharacterKind.ofChar c with
      | .blank => ⟨words.settled, []⟩
      | .mark => ⟨Token.ofMark c :: words.settled, []⟩
      | kind =>
          if words.pending.head?.map CharacterKind.ofChar = some kind then
            ⟨words.tokens, c :: words.pending⟩
          else ⟨words.settled, [c]⟩

end Words

/-- The tokens of lexemes. -/
def tokensOf (lexemes : List Lexeme) : List Token :=
  (lexemes.foldl Words.step ⟨[], []⟩).settled.reverse

/-- Behind anything else the lexemes become the tokens. -/
def Takes (lexemes : List Lexeme) (tokens : List Token) : Prop :=
  ∀ words : Words, (lexemes.foldl Words.step words).settled = tokens.reverse ++ words.settled

namespace Takes

variable {lexemes others : List Lexeme} {tokens more : List Token}

theorem tokensOf_eq (takes : Takes lexemes tokens) : tokensOf lexemes = tokens := by
  rw [tokensOf, takes]
  simp [Words.settled]

theorem append (takes : Takes lexemes tokens) (later : Takes others more) :
    Takes (lexemes ++ others) (tokens ++ more) := by
  intro words
  rw [List.foldl_append, later, takes, List.reverse_append, List.append_assoc]

theorem name (text : Text) : Takes [.name text] [.name text] := fun _ => rfl

end Takes

end CatalogListing.Sql
