/-
# Program.Files -- the files that the program works with

A file system holds directories, text files and databases at places, which are the
names that lead to them from the root.  A location is followed name by name, and every
name but the last must lead to a directory.

Below a sealed place nothing can be made.
-/
import CatalogListing.Settings.Configuration
import CatalogListing.Store.Database

namespace CatalogListing

set_option autoImplicit false

/-- The names from the root to a place. -/
abbrev Place := List Text

/-- What stands at a place. -/
inductive Entry where
  | directory
  | text (content : Text)
  | database (db : Database)
  deriving DecidableEq, Repr

/-- A file system.  The root is a directory without being listed. -/
structure Files where
  entries : List (Place × Entry) := []
  sealedPlaces : List Place := []
  deriving DecidableEq, Repr

namespace Files

/-- What stands at a place. -/
def entry? (files : Files) (place : Place) : Option Entry :=
  if place.isEmpty then some .directory else files.entries.lookup place

def isDirectory (files : Files) (place : Place) : Bool :=
  files.entry? place == some .directory

/-- Nothing can be made at a place. -/
def isSealed (files : Files) (place : Place) : Bool :=
  files.sealedPlaces.any fun root => root.isPrefixOf place

/-! ## Following locations -/

/-- The names of an absolute location in order; an empty one stays where it is. -/
def namesOf (location : Text) : List Text :=
  Text.pieces (· == '/') location

/-- The place that a name leads to. -/
def follow (place : Place) (name : Text) : Place :=
  if name.isEmpty || name = ['.'] then place
  else if name = ['.', '.'] then place.dropLast
  else place ++ [name]

/-- The place of a location, if all names but the last lead to directories. -/
def place? (files : Files) (location : Text) : Option Place :=
  (namesOf location).foldlM
    (fun place name => if files.isDirectory place then some (follow place name) else none) []

/-- What stands at a location. -/
def at? (files : Files) (location : Text) : Option Entry :=
  (files.place? location).bind files.entry?

/-- There is something at a location. -/
def hasAt (files : Files) (location : Text) : Bool :=
  (files.at? location).isSome

/-- What a reader of settings finds at a location. -/
def find (files : Files) (location : Text) : Configuration.Found :=
  match files.at? location with
  | none => .nothing
  | some (.text content) => .text content
  | some _ => .other

/-- The location of an existing place without detours; any other as it is. -/
def canonical (files : Files) (location : Text) : Text :=
  match files.place? location with
  | some place => if (files.entry? place).isSome then Location.ofComponents place else location
  | none => location

/-! ## Changes -/

/-- The files with an entry put at a place. -/
def put (files : Files) (place : Place) (entry : Entry) : Files :=
  { files with entries := (place, entry) :: files.entries.filter fun other => other.1 != place }

/-- The files with a directory at a place, if there is one or one can be made. -/
def withDirectory? (files : Files) (place : Place) : Option Files :=
  match files.entry? place with
  | some .directory => some files
  | some _ => none
  | none => if files.isSealed place then none else some (files.put place .directory)

/-- The files with directories made along a location, and its place. -/
def makeDirectories? (files : Files) (location : Text) : Option (Files × Place) :=
  (namesOf location).foldlM
    (fun (files, place) name =>
      (files.withDirectory? (follow place name)).map fun files => (files, follow place name))
    (files, [])

/-- The files without a place and everything below it. -/
def remove (files : Files) (place : Place) : Files :=
  { files with entries := files.entries.filter fun other => !place.isPrefixOf other.1 }

end Files

end CatalogListing
