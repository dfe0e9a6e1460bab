/-
# Query.NameList -- lists of names in one value

Several names may stand in one query value: as a JSON array of strings, or separated
by commas with optional brackets around the whole and optional quotes around each
name.  White space around a name does not belong to it, and empty names do not count.
-/
import CatalogListing.Json.Token
import CatalogListing.Text.Blank

namespace CatalogListing.NameList

set_option autoImplicit false

/-- The strings behind the first one of an array, up to its end. -/
def laterStrings? : List Json.Token → Option (List Text)
  | [.closeArray] => some []
  | .comma :: .text pieces :: rest => do
      let first ← Json.pieceText? pieces
      let others ← laterStrings? rest
      return first :: others
  | _ => none

/-- The strings of the tokens of a JSON array that holds nothing else. -/
def strings? : List Json.Token → Option (List Text)
  | [.openArray, .closeArray] => some []
  | .openArray :: .text pieces :: rest => do
      let first ← Json.pieceText? pieces
      let others ← laterStrings? rest
      return first :: others
  | _ => none

/-- The nonempty texts among trimmed ones. -/
def nonempty (texts : List Text) : List Text :=
  texts.filter fun text => !text.isEmpty

/-- A name without white space and quotes around it. -/
def unquoted (text : Text) : Text :=
  Text.trim (Text.stripBoth (fun c => c == '"' || c == '\'') (Text.trim text))

/-- The names of a list with commas. -/
def ofCommas (text : Text) : List Text :=
  let inside := Text.dropEndWhile (· == ']') (text.dropWhile (· == '['))
  nonempty ((Text.pieces (· == ',') inside).map unquoted)

/-- The strings of a JSON array, if the text is one. -/
def jsonStrings? (text : Text) : Option (List Text) :=
  if text.head? = some '[' then (Json.tokens? text).bind strings? else none

/-- The names that a value lists. -/
def ofText (value : Text) : List Text :=
  let text := Text.trim value
  match jsonStrings? text with
  | some strings => nonempty (strings.map Text.trim)
  | none => ofCommas text

end CatalogListing.NameList
