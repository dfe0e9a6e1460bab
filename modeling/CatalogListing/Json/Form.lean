/-
# Json.Form -- the shape of JSON text

A form is the tree that a token sequence spells, with numerals and strings as they
were written.  Reading keeps the open brackets on a stack, so it takes one step per
token and ends with the tree or with a failure.
-/
import CatalogListing.Json.Token

namespace CatalogListing.Json

set_option autoImplicit false

/-- A JSON text without regard to the values of its numerals and strings. -/
inductive Form where
  | null
  | boolean (b : Bool)
  | number (numeral : Numeral)
  | text (pieces : List Piece)
  | array (items : List Form)
  | object (fields : List (List Piece × Form))
  deriving Repr

/-- An open bracket with what stands behind it so far, newest first. -/
inductive Opened where
  | array (items : List Form)
  | object (fields : List (List Piece × Form)) (key : List Piece)

/-- What the next token may be. -/
inductive Awaiting where
  | value
  | valueOrClose
  | key
  | keyOrClose
  | colon
  | commaOrClose
  | nothing (result : Form)

/-- A reading in progress. -/
structure Reading where
  stack : List Opened
  awaiting : Awaiting

/-- A complete value goes into the innermost open bracket. -/
def Reading.accept (form : Form) : List Opened → Reading
  | [] => ⟨[], .nothing form⟩
  | .array items :: outer => ⟨.array (form :: items) :: outer, .commaOrClose⟩
  | .object fields key :: outer => ⟨.object ((key, form) :: fields) [] :: outer, .commaOrClose⟩

/-- A token where a value is awaited. -/
def Reading.value? (stack : List Opened) : Token → Option Reading
  | .null => some (accept .null stack)
  | .boolean b => some (accept (.boolean b) stack)
  | .number numeral => some (accept (.number numeral) stack)
  | .text pieces => some (accept (.text pieces) stack)
  | .openArray => some ⟨.array [] :: stack, .valueOrClose⟩
  | .openObject => some ⟨.object [] [] :: stack, .keyOrClose⟩
  | _ => none

/-- A token where a key is awaited. -/
def Reading.key? : List Opened → Token → Option Reading
  | .object fields _ :: outer, .text pieces => some ⟨.object fields pieces :: outer, .colon⟩
  | _, _ => none

/-- A bracket that closes the innermost one. -/
def Reading.close? : List Opened → Token → Option Reading
  | .array items :: outer, .closeArray => some (accept (.array items.reverse) outer)
  | .object fields _ :: outer, .closeObject => some (accept (.object fields.reverse) outer)
  | _, _ => none

/-- A comma or a closing bracket behind a value. -/
def Reading.next? : List Opened → Token → Option Reading
  | .array items :: outer, .comma => some ⟨.array items :: outer, .value⟩
  | .object fields key :: outer, .comma => some ⟨.object fields key :: outer, .key⟩
  | stack, token => close? stack token

/-- One more token. -/
def Reading.step? (reading : Reading) (token : Token) : Option Reading :=
  match reading.awaiting with
  | .value => value? reading.stack token
  | .valueOrClose => (close? reading.stack token).or (value? reading.stack token)
  | .key => key? reading.stack token
  | .keyOrClose => (close? reading.stack token).or (key? reading.stack token)
  | .colon => if token = .colon then some ⟨reading.stack, .value⟩ else none
  | .commaOrClose => next? reading.stack token
  | .nothing _ => none

/-- The form that the tokens spell. -/
def Form.ofTokens? (tokens : List Token) : Option Form :=
  match tokens.foldlM Reading.step? ⟨[], .value⟩ with
  | some ⟨_, .nothing form⟩ => some form
  | _ => none

/-- The form of a JSON text. -/
def Form.ofText? (text : Text) : Option Form :=
  (tokens? text).bind Form.ofTokens?

end CatalogListing.Json
