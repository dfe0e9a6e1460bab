/-
# Settings.Sections -- settings in files

A settings file is a JSON object with up to three sections, each with optional fields.
Reading is strict where a field is known and lenient elsewhere:

* a section is an object, or an array of all its fields in order; `null` stands for a
  section or a field that is not given;
* a known field that is repeated is refused, an unknown one is passed over;
* unknown sections must be proper JSON values that are not nested too deeply.

Files are merged field by field, the later one first (`Sections.merge`).
-/
import CatalogListing.Json.Value

namespace CatalogListing

set_option autoImplicit false

open Json (Form Piece)

/-- The address of the server and the origins that may read its answers. -/
structure ServerSection where
  host : Option Text := none
  port : Option Nat := none
  corsOrigins : Option (List Text) := none
  deriving DecidableEq, Repr

/-- The database file. -/
structure DatabaseSection where
  path : Option Text := none
  deriving DecidableEq, Repr

/-- The bounds of pages. -/
structure QuerySection where
  defaultLimit : Option Nat := none
  maxLimit : Option Nat := none
  deriving DecidableEq, Repr

/-- The sections of a settings file. -/
structure Sections where
  server : Option ServerSection := none
  database : Option DatabaseSection := none
  query : Option QuerySection := none
  deriving DecidableEq, Repr

/-! ## Merging -/

/-- The fields of a section over those of another. -/
def ServerSection.overriding (later earlier : ServerSection) : ServerSection :=
  ⟨later.host.or earlier.host, later.port.or earlier.port,
    later.corsOrigins.or earlier.corsOrigins⟩

def DatabaseSection.overriding (later earlier : DatabaseSection) : DatabaseSection :=
  ⟨later.path.or earlier.path⟩

def QuerySection.overriding (later earlier : QuerySection) : QuerySection :=
  ⟨later.defaultLimit.or earlier.defaultLimit, later.maxLimit.or earlier.maxLimit⟩

/-- A section over another, if it is given. -/
def sectionOver {α : Type} (combine : α → α → α) (absent : α) (earlier later : Option α) : Option α :=
  match later with
  | some later => some (combine later (earlier.getD absent))
  | none => earlier

/-- Two files merged; what the later one says counts. -/
def Sections.merge (earlier later : Sections) : Sections :=
  ⟨sectionOver ServerSection.overriding {} earlier.server later.server,
    sectionOver DatabaseSection.overriding {} earlier.database later.database,
    sectionOver QuerySection.overriding {} earlier.query later.query⟩

/-! ## Fields -/

/-- A key and the form of its value. -/
abbrev FormField := Text × Form

/-- The fields of an object with their keys, if all keys are texts. -/
def keyed? (fields : List (List Piece × Form)) : Option (List FormField) :=
  fields.mapM fun field => (Json.pieceText? field.1).map fun key => (key, field.2)

/-- The value of the first field of a name. -/
def valueOf (fields : List FormField) (name : Text) : Option Form :=
  fields.lookup name

/-- Each of the names is the key of one field at most. -/
def namedOnce (names : List Text) (fields : List FormField) : Bool :=
  names.all fun name => (fields.filter fun field => field.1 == name).length ≤ 1

/-- The values of the named fields of a section, in the order of the names. -/
def sectionValues? (names : List Text) : Form → Option (List (Option Form))
  | .object fields => do
      let fields ← keyed? fields
      if namedOnce names fields then some (names.map (valueOf fields)) else none
  | .array items => if items.length = names.length then some (items.map some) else none
  | _ => none

/-- An optional value: `null` or nothing, or one that can be read. -/
def optional? {α : Type} (read : Form → Option α) : Option Form → Option (Option α)
  | none | some .null => some none
  | some form => (read form).map some

/-- A text. -/
def textOf? : Form → Option Text
  | .text pieces => Json.pieceText? pieces
  | _ => none

/-- A list of texts. -/
def textsOf? : Form → Option (List Text)
  | .array items => items.mapM textOf?
  | _ => none

/-- A whole number from zero to a bound. -/
def numberOf? (bound : Nat) : Form → Option Nat
  | .number numeral =>
      match numeral.integer? with
      | some (.ofNat n) => if n ≤ bound then some n else none
      | _ => none
  | _ => none

/-- The largest port. -/
def maxPort : Nat := 65535

/-- The largest limit that can be written. -/
def maxWrittenLimit : Nat := 4294967295

/-! ## Sections -/

def ServerSection.ofForm? (form : Form) : Option ServerSection :=
  match sectionValues? ["host", "port", "cors_origins"] form with
  | some [host, port, corsOrigins] => do
      return ⟨← optional? textOf? host, ← optional? (numberOf? maxPort) port,
        ← optional? textsOf? corsOrigins⟩
  | _ => none

def DatabaseSection.ofForm? (form : Form) : Option DatabaseSection :=
  match sectionValues? ["path"] form with
  | some [path] => do return ⟨← optional? textOf? path⟩
  | _ => none

def QuerySection.ofForm? (form : Form) : Option QuerySection :=
  match sectionValues? ["default_limit", "max_limit"] form with
  | some [defaultLimit, maxLimit] => do
      return ⟨← optional? (numberOf? maxWrittenLimit) defaultLimit,
        ← optional? (numberOf? maxWrittenLimit) maxLimit⟩
  | _ => none

namespace Sections

/-- The names of the sections. -/
def names : List Text := ["server", "database", "query"]

/-- The most brackets that may be open at once. -/
def maxOpen : Nat := 127

/-- An unknown section is a proper value and not nested too deeply. -/
def admits (form : Form) : Bool :=
  form.depth < maxOpen && form.value?.isSome

/-- The sections of an object whose keys are texts. -/
def ofFields? (fields : List FormField) : Option Sections := do
  let unknown := fields.filter fun field => !names.contains field.1
  if namedOnce names fields && unknown.all fun field => admits field.2 then
    return ⟨← optional? ServerSection.ofForm? (valueOf fields "server"),
      ← optional? DatabaseSection.ofForm? (valueOf fields "database"),
      ← optional? QuerySection.ofForm? (valueOf fields "query")⟩
  else none

/-- The sections of the text of a file. -/
def ofText? (text : Text) : Option Sections :=
  match Form.ofText? text with
  | some (.object fields) => (keyed? fields).bind ofFields?
  | _ => none

end Sections

end CatalogListing
