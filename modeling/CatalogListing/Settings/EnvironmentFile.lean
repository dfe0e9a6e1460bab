/-
# Settings.EnvironmentFile -- variables from a file

A file may add variables to the environment, one `NAME=value` to a line.  A value may
stand in quotes and may then go on over several lines; `$NAME` and `$` with a name in
braces stand for the values of other variables, except between single quotes.  A number
sign starts a comment at the start of a line or behind white space.

Variables that the environment has already keep their values.  The first line that is
malformed ends the file.
-/
import CatalogListing.Text.Blank

namespace CatalogListing.EnvironmentFile

set_option autoImplicit false

/-- Variables and their values; the first of a name counts. -/
abbrev Bindings := List (Text × Text)

/-! ## Lines -/

/-- The lines of a text, each with its end. -/
def lines (text : Text) : List Text :=
  text.foldr
    (fun c lines =>
      if c = '\n' then [c] :: lines
      else match lines with
        | [] => [[c]]
        | line :: rest => (c :: line) :: rest)
    []

/-- Where a reader of lines stands. -/
inductive Standing where
  | plain
  | blank
  | escape
  | double
  | doubleEscape
  | single
  | singleEscape
  deriving DecidableEq, Repr

/-- One more character; nothing at the start of a comment. -/
def Standing.step? (standing : Standing) (c : Char) : Option Standing :=
  match standing with
  | .plain =>
      if c = '\\' then some .escape
      else if c = '"' then some .double
      else if c = '\'' then some .single
      else if Text.isBlank c && c != '\n' && c != '\r' then some .blank
      else some .plain
  | .blank =>
      if c = '#' then none
      else if c = '\\' then some .escape
      else if c = '"' then some .double
      else if c = '\'' then some .single
      else some .plain
  | .escape => some .plain
  | .double =>
      if c = '\\' then some .doubleEscape else if c = '"' then some .plain else some .double
  | .doubleEscape => some .double
  | .single =>
      if c = '\\' then some .singleEscape else if c = '\'' then some .plain else some .single
  | .singleEscape => some .single

/-- A line up to a comment in it, and where the reader stands at its end. -/
def scan : Standing → Text → Text × Option Standing
  | standing, [] => ([], some standing)
  | standing, c :: rest =>
      match standing.step? c with
      | none => ([], none)
      | some next =>
          let (before, last) := scan next rest
          (c :: before, last)

/-- A line without its end. -/
def withoutEnd (line : Text) : Text :=
  match line.reverse with
  | '\n' :: '\r' :: rest => rest.reverse
  | '\n' :: rest => rest.reverse
  | _ => line

/-- Lines put together as far as quotes hold them together; `none` in the place of a last
one that is not complete. -/
def joined (start : Text) (standing : Standing) : List Text → List (Option Text)
  | [] => if standing = .plain then [] else [none]
  | line :: rest =>
      if (Text.trim (start ++ line)).head? = some '#' then some [] :: joined [] .plain rest
      else match scan standing line with
        | (before, none) => some (start ++ before) :: joined [] .plain rest
        | (_, some .plain) => some (withoutEnd (start ++ line)) :: joined [] .plain rest
        | (_, some other) => joined (start ++ line) other rest

/-! ## Values -/

/-- A value that is being read; lists hold the newest character first. -/
structure ValueReading where
  output : Text := []
  single : Bool := false
  double : Bool := false
  escaped : Bool := false
  /-- Only white space and a comment may follow. -/
  ending : Bool := false
  finished : Bool := false
  /-- The name of a variable that is being read, and whether it stands in braces. -/
  name : Option (Bool × Text) := none

/-- The reading with the value of the variable whose name was read. -/
def ValueReading.substitute (known : Bindings) (reading : ValueReading) : ValueReading :=
  match reading.name with
  | some (_, name) =>
      { reading with
        name := none
        output := ((known.lookup name.reverse).getD []).reverse ++ reading.output }
  | none => reading

/-- One more character. -/
def ValueReading.step? (known : Bindings) (reading : ValueReading) (c : Char) :
    Option ValueReading :=
  let put := { reading with output := c :: reading.output }
  if reading.finished then some reading
  else if reading.ending then
    if c = ' ' ∨ c = '\t' then some reading
    else if c = '#' then some { reading with finished := true }
    else none
  else if reading.escaped then
    if c = 'n' then some { reading with output := '\n' :: reading.output, escaped := false }
    else if c = '\\' ∨ c = '\'' ∨ c = '"' ∨ c = '$' ∨ c = ' ' then
      some { put with escaped := false }
    else none
  else if reading.single then
    if c = '\'' then some { reading with single := false } else some put
  else match reading.name with
    | some (braced, name) =>
        if c.isAlphanum then some { reading with name := some (braced, c :: name) }
        else if braced then
          if c = '\x7d' then some (reading.substitute known)
          else some { reading with name := some (braced, c :: name) }
        else if c = '\x7b' ∧ name = [] then some { reading with name := some (true, []) }
        else
          let substituted := reading.substitute known
          if c = '$' then some { substituted with name := some (false, []) }
          else some { substituted with output := c :: substituted.output }
    | none =>
        if c = '$' then some { reading with name := some (false, []) }
        else if reading.double then
          if c = '"' then some { reading with double := false }
          else if c = '\\' then some { reading with escaped := true }
          else some put
        else if c = '\'' then some { reading with single := true }
        else if c = '"' then some { reading with double := true }
        else if c = '\\' then some { reading with escaped := true }
        else if c = ' ' ∨ c = '\t' then some { reading with ending := true }
        else some put

/-- The value that a text stands for. -/
def value? (known : Bindings) (text : Text) : Option Text := do
  let reading ← text.foldlM (ValueReading.step? known) {}
  match reading.single || reading.double, reading.name with
  | true, _ | _, some (true, _) => none
  | false, _ => some (reading.substitute known).output.reverse

/-! ## Assignments -/

/-- The character may stand in a name. -/
def isNameChar (c : Char) : Bool :=
  c.isAlphanum || c == '_' || c == '.'

/-- A name and what stands behind it and the white space after it. -/
def name? (text : Text) : Option (Text × Text) :=
  match text.head? with
  | some c =>
      if c.isAlpha || c == '_' then
        some (text.takeWhile isNameChar, (text.dropWhile isNameChar).dropWhile Text.isBlank)
      else none
  | none => none

/-- The text behind an equals sign. -/
def behindEquals? : Text → Option Text
  | '=' :: rest => some rest
  | _ => none

/-- A name and the text of its value; the word `export` may stand before the name. -/
def assigned? (text : Text) : Option (Text × Text) := do
  let (name, rest) ← name? text
  match behindEquals? rest with
  | some value => return (name, value)
  | none =>
      if name = "export" then
        let (name, rest) ← name? rest
        return (name, ← behindEquals? rest)
      else none

/-- What a line assigns: nothing if it is malformed, and no variable if it is empty. -/
def assignment? (known : Bindings) (line : Text) : Option (Option (Text × Text)) := do
  let text := (Text.dropEndWhile Text.isBlank line).dropWhile Text.isBlank
  if text.isEmpty || text.head? == some '#' then return none
  else
    let (name, rest) ← assigned? text
    let value := rest.dropWhile Text.isBlank
    if value.isEmpty || value.head? == some '#' then return some (name, [])
    else return some (name, ← value? known value)

/-- The variables after lines have been read. -/
def readLines (known : Bindings) : List (Option Text) → Bindings
  | [] => known
  | none :: _ => known
  | some line :: rest =>
      match assignment? known line with
      | none => known
      | some none => readLines known rest
      | some (some (name, value)) =>
          readLines
            (if (known.lookup name).isSome then known else known ++ [(name, value)])
            rest

/-- The text of a file without the mark of its byte order. -/
def withoutMark : Text → Text
  | '\ufeff' :: rest => rest
  | text => text

/-- The variables after the text of a file has been read. -/
def read (known : Bindings) (text : Text) : Bindings :=
  readLines known (joined [] .plain (lines (withoutMark text)))

end CatalogListing.EnvironmentFile
