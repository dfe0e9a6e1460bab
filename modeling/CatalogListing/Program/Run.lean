/-
# Program.Run -- what the program does when it is called

A call of the program reads the environment, the command line and the settings files,
and then deletes the data directory, inserts the demo catalog, or starts the server.

A call is a function of what it finds.  It ends with a status, or with a server that
answers requests; deleting the data may first put a question.
-/
import CatalogListing.CommandLine.Help
import CatalogListing.Http.Policy
import CatalogListing.Program.Banner
import CatalogListing.Program.Storage
import CatalogListing.Settings.Address
import CatalogListing.Settings.EnvironmentFile

namespace CatalogListing.Program

set_option autoImplicit false

/-! ## Calls and their ends -/

/-- What a call of the program finds. -/
structure Call where
  words : List Text
  around : Surroundings
  files : Files
  clock : Migration.Clock := {}
  /-- The present as a text of a column. -/
  timestamp : Text

/-- A server: the listing service and the origins that may read its answers. -/
structure Server where
  service : ListingService
  origins : List Text

/-- How a call ends. -/
inductive Ending where
  | exit (status : Nat)
  | serve (server : Server)

/-- What a call leaves: what it printed, what it reported, the files, and how it ended. -/
structure Result where
  output : Text := []
  report : Text := []
  files : Files
  ending : Ending := .exit 0

/-- A call that has ended, or one that has printed a question and goes on with the line
that answers it. -/
inductive Progress where
  | ended (result : Result)
  | asked (output : Text) (proceed : Text → Result)

/-- A printed line. -/
def line (text : Text) : Text :=
  text ++ ['\n']

/-- A call that could not go on. -/
def Result.failed (output : Text) (files : Files) (fault : ProgramFault) : Result where
  output := output
  report := line ('\n' :: ("Error: " ++ fault.message ++ ['\n']))
  files := files
  ending := .exit 1

/-! ## Environment -/

/-- The directories from a location up to the root. -/
def upwards (directory : Text) : List Text :=
  let names := Text.words (· == '/') directory
  (List.range (names.length + 1)).map fun n => Location.ofComponents (names.take (names.length - n))

/-- The nearest file with variables, from the current directory upwards. -/
def environmentFile? (files : Files) (directory : Text) : Option Text :=
  (upwards directory).findSome? fun location =>
    match files.at? (Location.join location ".env") with
    | some (.text content) => some content
    | _ => none

/-- The surroundings with the variables of that file. -/
def withEnvironmentFile (files : Files) (around : Surroundings) : Surroundings :=
  match environmentFile? files around.directory with
  | some content =>
      { around with bindings := EnvironmentFile.read around.bindings content }
  | none => around

/-! ## Deleting the data -/

/-- What is said before the data is deleted. -/
def pruneNotice (location : Text) : Text :=
  line "This will permanently delete the local data directory:" ++
    line ("  " ++ location) ++ line [] ++
    line ("Make sure the server is not running. " ++
      "Deleting the database while the server holds it open will corrupt it.".toList)

/-- The answer agrees. -/
def agrees (answer : Text) : Bool :=
  let word := (Text.trim (answer.takeWhile (· != '\n'))).map Char.toLower
  word = "y" || word = "yes"

/-- The directory is deleted. -/
def deleteAll (files : Files) (output location : Text) : Result :=
  match files.place? location with
  | some place =>
      if files.isDirectory place then
        { output := output ++ line ("Pruned: " ++ location), files := files.remove place }
      else .failed output files (.directoryNotDeleted location)
  | none => .failed output files (.directoryNotDeleted location)

/-- The data directory is deleted, after a question unless `yes` is given. -/
def prune (around : Surroundings) (files : Files) (yes : Bool) : Progress :=
  let dataDirectory := around.dataDirectory
  if files.hasAt dataDirectory then
    let location := files.canonical dataDirectory
    let notice := pruneNotice location
    if yes then .ended (deleteAll files notice location)
    else
      let asked := notice ++ "\nContinue? [y/N] "
      .asked asked fun answer =>
        if agrees answer then deleteAll files asked location
        else { output := asked ++ line "Aborted.", files := files }
  else
    .ended {
      output :=
        line ("Nothing to prune. Data directory does not exist: " ++ dataDirectory)
      files := files }

/-! ## Opening the data -/

/-- The configuration, the storage and the open store. -/
structure Opened where
  configuration : Configuration
  storage : Storage
  place : Place
  store : Store

/-- The settings are read and the store is opened; the files are those that result,
also when it fails. -/
def openAll (call : Call) (around : Surroundings) (given : GivenSettings) :
    Files × Except ProgramFault Opened :=
  match Configuration.load around call.files.find given with
  | .error error => (call.files, .error (.configuration error))
  | .ok configuration =>
      match Storage.prepare around call.files around.dataDirectory configuration.dbPath with
      | .error fault => (call.files, .error fault)
      | .ok (files, storage) =>
          match Storage.openStore files call.clock storage with
          | (files, .ok (place, store)) => (files, .ok ⟨configuration, storage, place, store⟩)
          | (files, .error fault) => (files, .error fault)

/-! ## Inserting the demo catalog -/

/-- What is said about the demo catalog. -/
def seedNotice (seeded : Bool) (dbPath : Text) : Text :=
  line (if seeded then "Seeded demo catalog into " ++ dbPath
    else "Database already has data, nothing seeded: " ++ dbPath)

/-- The demo catalog is inserted into the database. -/
def seed (call : Call) (around : Surroundings) (given : GivenSettings) : Result :=
  match openAll call around given with
  | (files, .error fault) => .failed [] files fault
  | (files, .ok opened) =>
      match opened.store.seed call.timestamp with
      | .error _ => .failed [] files .notSeeded
      | .ok (store, seeded) =>
          { output := seedNotice seeded opened.storage.dbPath
            files := files.put opened.place (.database store.database) }

/-! ## Starting the server -/

/-- The banner of a configuration. -/
def bannerOf (opened : Opened) : Text :=
  Banner.text opened.configuration.host opened.configuration.port opened.storage.dataDirectory
    opened.storage.dbPath

/-- The server of a configuration, on a machine with some interfaces. -/
def serverOf (opened : Opened) (interfaces : List InterfaceAddress) : Server where
  service := ⟨opened.store, opened.configuration.bounds⟩
  origins := Origin.allowed opened.configuration.host opened.configuration.port
    opened.configuration.corsOrigins interfaces

/-- The server is started. -/
def start (call : Call) (around : Surroundings) (given : GivenSettings) : Result :=
  match openAll call around given with
  | (files, .error fault) => .failed [] files fault
  | (files, .ok opened) =>
      let host := opened.configuration.host
      if !Address.isAddress host then .failed (bannerOf opened) files .noAddress
      else
        let server := serverOf opened around.interfaces
        match Http.OriginPolicy.ofOrigins server.origins with
        | .error failure =>
            { output := bannerOf opened, report := line failure.message, files := files
              ending := .exit 101 }
        | .ok _ =>
            if Address.isOwn host then
              { output := bannerOf opened, files := files, ending := .serve server }
            else .failed (bannerOf opened) files .addressNotAvailable

/-! ## The program -/

/-- The end of a call whose words ask for help or cannot be carried out. -/
def explain (files : Files) (lookup : Text → Option Text) (error : CommandLine.UsageError) :
    Result :=
  let level := error.frame.level
  match error.cause with
  | .helpWanted => { output := CommandLine.help lookup level, files := files }
  | .helpOnHelpWanted => { output := CommandLine.helpOnHelp level, files := files }
  | .versionWanted => { output := CommandLine.versionText, files := files }
  | .helpNeeded =>
      { report := CommandLine.help lookup level, files := files, ending := .exit 2 }
  | _ => { report := error.report, files := files, ending := .exit 2 }

/-- What a call comes to. -/
def run (call : Call) : Progress :=
  let around := withEnvironmentFile call.files call.around
  match CommandLine.read around.lookup? call.words with
  | .error error => .ended (explain call.files around.lookup? error)
  | .ok invocation =>
      match invocation.command with
      | some (.prune yes) => prune around call.files yes
      | some .seed => .ended (seed call around invocation.given)
      | some .start | none => .ended (start call around invocation.given)

/-- The result when the input is known beforehand. -/
def Progress.result (input : Text) : Progress → Result
  | .ended result => result
  | .asked _ proceed => proceed input

end CatalogListing.Program
