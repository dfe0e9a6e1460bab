/-
# Program.Reach -- where a call looks

The locations that a call of the program looks at, as far as the files that are known
tell: those of files with variables, of settings files, of the data directory and of
the database.  Knowing more files may lead to further locations.
-/
import CatalogListing.Program.Run

namespace CatalogListing.Program

set_option autoImplicit false

/-- The locations of the settings files. -/
def settingsLocations (around : Surroundings) (given : GivenSettings) : List Text :=
  [Configuration.profileLocation around,
    match given.config with
    | some named => around.expand named
    | none => Location.join around.directory Configuration.fileName]

/-- The location of the database, as far as the settings are known. -/
def databaseLocation (call : Call) (around : Surroundings) (given : GivenSettings) : Text :=
  match Configuration.load around call.files.find given with
  | .ok configuration =>
      match configuration.dbPath with
      | some path => around.expand path
      | none => Surroundings.databaseIn around.dataDirectory
  | .error _ => Surroundings.databaseIn around.dataDirectory

/-- The locations that a call looks at. -/
def reach (call : Call) : List Text :=
  let around := withEnvironmentFile call.files call.around
  let given := match CommandLine.read around.lookup? call.words with
    | .ok invocation => invocation.given
    | .error _ => {}
  (upwards around.directory).map (Location.join · ".env") ++
    settingsLocations around given ++
    [around.directory, around.dataDirectory, Surroundings.databaseIn around.dataDirectory,
      databaseLocation call around given]

end CatalogListing.Program
