/-
# Program.Storage -- where the data lies

The data directory with its subdirectories, and the database file, which lies in it
unless the settings say otherwise.  A database file is made when it is opened for the
first time, with the directories that lead to it.
-/
import CatalogListing.Program.Files
import CatalogListing.Store.Connection

namespace CatalogListing

set_option autoImplicit false

/-- Why the program does not go on. -/
inductive ProgramFault where
  | configuration (error : ConfigurationError)
  | directoryNotMade (location : Text)
  | subdirectoryNotMade (name location : Text)
  | directoryNotDeleted (location : Text)
  | databaseNotOpened
  | notSeeded
  | noAddress
  | addressNotAvailable
  deriving DecidableEq, Repr

def ProgramFault.message : ProgramFault → Text
  | .configuration error => error.message
  | .directoryNotMade location => "Failed to create data directory: " ++ location
  | .subdirectoryNotMade name location =>
      "Failed to create " ++ name ++ " directory: " ++ location
  | .directoryNotDeleted location => "Failed to delete data directory: " ++ location
  | .databaseNotOpened => "Failed to open SQLite database"
  | .notSeeded => "Failed to seed demo catalog"
  | .noAddress => "invalid IP address syntax"
  | .addressNotAvailable => "Cannot assign requested address (os error 99)"

/-- The data directory and the database file. -/
structure Storage where
  dataDirectory : Text
  dbPath : Text
  deriving DecidableEq, Repr

namespace Storage

/-- The names of the directories inside the data directory. -/
def subdirectories : List Text := ["sqlite"]

/-- The files with directories made along a location. -/
def make (files : Files) (location : Text) (fault : ProgramFault) : Except ProgramFault Files :=
  match files.makeDirectories? location with
  | some (files, _) => .ok files
  | none => .error fault

/-- The files with the data directory and its subdirectories. -/
def makeAll (files : Files) (dataDirectory : Text) : Except ProgramFault Files := do
  let files ← make files dataDirectory (.directoryNotMade dataDirectory)
  subdirectories.foldlM
    (fun files name =>
      let location := Location.join dataDirectory name
      make files location (.subdirectoryNotMade name location)) files

/-- The storage at a data directory, which is made if it is not there. -/
def prepare (around : Surroundings) (files : Files) (dataDirectory : Text) (dbPath : Option Text) :
    Except ProgramFault (Files × Storage) := do
  let files ← makeAll files dataDirectory
  let location := files.canonical dataDirectory
  return (files, ⟨location, match dbPath with
    | some path => around.expand path
    | none => Surroundings.databaseIn location⟩)

/-- The location that leads to the last name of a location. -/
def parent (location : Text) : Text :=
  let names := (Files.namesOf location).reverse.dropWhile fun name => name.isEmpty || name = ['.']
  List.intercalate ['/'] names.tail.reverse

/-- The database at a place: that of a database file, or a new one where there is
nothing. -/
def databaseAt? (files : Files) (place : Place) : Option Database :=
  match files.entry? place with
  | some (.database db) => some db
  | some (.text content) => if content.isEmpty then some {} else none
  | some .directory => none
  | none => if files.isSealed place then none else some {}

/-- The store in the database file, and the files with it. -/
def openStore (files : Files) (clock : Migration.Clock) (storage : Storage) :
    Files × Except ProgramFault (Place × Store) :=
  match files.makeDirectories? (parent storage.dbPath) with
  | none => (files, .error .databaseNotOpened)
  | some (files, _) =>
      match files.place? storage.dbPath with
      | none => (files, .error .databaseNotOpened)
      | some place =>
          match databaseAt? files place with
          | none => (files, .error .databaseNotOpened)
          | some db =>
              match Migration.run clock db with
              | (db, .ok ()) =>
                  (files.put place (.database db), .ok (place, { database := db, inFile := true }))
              | (db, .error _) => (files.put place (.database db), .error .databaseNotOpened)

end Storage

end CatalogListing
