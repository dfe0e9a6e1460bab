/-
# Main -- the command line

The outer layer of the program: it gathers what a call looks at, has the call carried
out, and puts its result into effect.  A started server answers the requests that come
line by line, each a method and a target.
-/
import CatalogListing.Program.Reach
import CatalogListing.Store.Archive
import Std.Time.DateTime.Timestamp

namespace CatalogListing.Main

set_option autoImplicit false

open Program

/-! ## Gathering -/

/-- The names of the variables that matter. -/
def variableNames : List Text :=
  (["HOME", "XDG_DATA_HOME", "SIEVE_DATA_DIR"] : List Text) ++
    CommandLine.Setting.all.map CommandLine.Setting.environmentName

/-- Those variables that are set. -/
def gatherVariables : IO (List (Text × Text)) := do
  let values ← variableNames.mapM fun name => do
    return (name, ← IO.getEnv (String.ofList name))
  return values.filterMap fun (name, value) => value.map fun value => (name, value.toList)

/-- What stands at a location of the machine. -/
def probe (location : Text) : IO (Option Entry) := do
  try
    let content := (← IO.FS.readFile (String.ofList location)).toList
    return some (match Archive.read? content with
      | some db => .database db
      | none => .text content)
  catch
    | .noFileOrDirectory .. => return none
    | _ => return some .directory

/-- The files with what stands along a location. -/
def gatherLocation (files : Files) (location : Text) : IO Files := do
  let (files, _) ← (Files.namesOf location).foldlM (fun (files, place) name => do
      let place := Files.follow place name
      if (files.entry? place).isSome then return (files, place)
      else match ← probe (Location.ofComponents place) with
        | some entry => return (files.put place entry, place)
        | none => return (files, place))
    (files, ([] : Place))
  return files

/-- The call with the files that it looks at; each round may lead to further ones. -/
def gather : Nat → Call → IO Call
  | 0, call => return call
  | rounds + 1, call => do
      let files ← (reach call).foldlM gatherLocation call.files
      gather rounds { call with files }

/-! ## Putting into effect -/

/-- The places that are gone although what they lay in is not. -/
def gone (before after : Files) : List Place :=
  (before.entries.map (·.1)).filter fun place =>
    (after.entry? place).isNone && (after.entry? place.dropLast).isSome

/-- A change of the files is carried out. -/
def apply (before after : Files) : IO Unit := do
  for place in gone before after do
    IO.FS.removeDirAll (String.ofList (Location.ofComponents place))
  for (place, entry) in after.entries.reverse do
    let location := String.ofList (Location.ofComponents place)
    if before.entry? place != some entry then
      match entry with
      | .directory => IO.FS.createDirAll location
      | .text content => IO.FS.writeFile location (String.ofList content)
      | .database db => IO.FS.writeFile location (String.ofList (Archive.write db))

/-! ## Serving -/

/-- The present. -/
def now : IO Instant := do
  return (← Std.Time.Timestamp.now).toSecondsSinceUnixEpoch.val

/-- The text of a response. -/
def responseText (response : Http.Response) : Text :=
  let headers := response.headers.flatMap fun header =>
    header.1 ++ ':' :: ' ' :: header.2 ++ ['\n']
  let body : Text := match response.body with
    | .empty => []
    | .json value => value.print
    | .page html => html
  Text.ofNat response.status ++ '\n' :: headers ++ '\n' :: body ++ ['\n']

/-- The request that a line asks for. -/
def requestOf (line : Text) : Http.Request :=
  match Text.words Text.isBlank line with
  | method :: target :: _ => ⟨method, target, []⟩
  | [target] => ⟨"GET", target, []⟩
  | [] => ⟨"GET", "/", []⟩

/-- Requests are answered until the input ends. -/
partial def serve (server : Server) : IO Unit := do
  let line ← (← IO.getStdin).getLine
  if line.isEmpty then return
  match Http.serve server.service server.origins (← now) (requestOf line.toList) with
  | .ok response => IO.print (String.ofList (responseText response))
  | .error failure => IO.eprintln (String.ofList failure.message)
  serve server

/-- The result of a call is put into effect; what was printed before is left out. -/
def finish (call : Call) (printed : Nat) (result : Result) : IO UInt32 := do
  apply call.files result.files
  IO.print (String.ofList (result.output.drop printed))
  IO.eprint (String.ofList result.report)
  match result.ending with
  | .exit status => return UInt32.ofNat status
  | .serve server =>
      serve server
      return 0

end CatalogListing.Main

open CatalogListing

/-- A call of the program. -/
def main (words : List String) : IO UInt32 := do
  let start : Program.Call :=
    { words := words.map String.toList
      around :=
        { bindings := ← Main.gatherVariables
          directory := (toString (← IO.currentDir)).toList
          accountHome := "/root" }
      files := {}
      timestamp := Calendar.timestamp (← Main.now) }
  let call ← Main.gather 3 start
  match Program.run call with
  | .ended result => Main.finish call 0 result
  | .asked output proceed => do
      IO.print (String.ofList output)
      (← IO.getStdout).flush
      let answer ← (← IO.getStdin).getLine
      Main.finish call output.length (proceed answer.toList)
