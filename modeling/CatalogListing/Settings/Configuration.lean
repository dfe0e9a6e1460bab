/-
# Settings.Configuration -- the settings in force

Settings come from four layers: the command line, a file that it names or the one of
the current directory, the file of the user's profile, and defaults.  For each setting
the first layer that gives it counts; the origins of the command line are put behind
those of the files.

A configuration is accepted when there is a host and a port and the limits of pages
are in order (`Configuration.check`).
-/
import CatalogListing.Query.Page
import CatalogListing.Settings.Location
import CatalogListing.Settings.Sections

namespace CatalogListing

set_option autoImplicit false

/-- Settings that the command line gives. -/
structure GivenSettings where
  host : Option Text := none
  port : Option Nat := none
  config : Option Text := none
  dbPath : Option Text := none
  defaultLimit : Option Nat := none
  maxLimit : Option Nat := none
  corsOrigins : List Text := []
  deriving DecidableEq, Repr

/-- The settings in force. -/
structure Configuration where
  host : Text
  port : Nat
  corsOrigins : List Text
  dbPath : Option Text
  bounds : PageBounds
  deriving DecidableEq, Repr

/-- Why there is no configuration. -/
inductive ConfigurationError where
  | fileNotFound (location : Text)
  | unreadable (location : Text)
  | malformed (location : Text)
  | emptyHost
  | zeroPort
  | zeroLimit
  | limitTooLarge (maxLimit : Nat)
  | limitsCrossed (defaultLimit maxLimit : Nat)
  deriving DecidableEq, Repr

namespace Configuration

/-- The largest limit of a page that may be configured. -/
def maxBound : Nat := 10000

end Configuration

namespace ConfigurationError

/-- What is wrong with a setting. -/
def aboutSetting (text : Text) : Text :=
  "Configuration error: " ++ text

def message : ConfigurationError → Text
  | .fileNotFound location => "Config file not found: " ++ location
  | .unreadable location => "Failed to read config file: " ++ location
  | .malformed location => "Failed to parse config file: " ++ location
  | .emptyHost => aboutSetting "server.host must not be empty"
  | .zeroPort => aboutSetting "server.port must be greater than 0"
  | .zeroLimit =>
      aboutSetting "query.default_limit and query.max_limit must be greater than 0"
  | .limitTooLarge maxLimit =>
      aboutSetting ("query.max_limit must be at most " ++ Text.ofNat Configuration.maxBound ++
        " (got " ++ Text.ofNat maxLimit ++ [')'])
  | .limitsCrossed defaultLimit maxLimit =>
      aboutSetting ("query.default_limit (" ++ Text.ofNat defaultLimit ++
        ") cannot exceed query.max_limit (" ++ Text.ofNat maxLimit ++ [')'])

end ConfigurationError

namespace Configuration

/-! ## Layers -/

/-- The settings that hold where no layer gives one. -/
def defaults : Configuration where
  host := "127.0.0.1"
  port := 5380
  corsOrigins := []
  dbPath := none
  bounds := PageBounds.standard

/-- The command line over the files over the defaults. -/
def layer (files : Sections) (given : GivenSettings) : Configuration :=
  let server := files.server.getD {}
  let database := files.database.getD {}
  let query := files.query.getD {}
  { host := (given.host.or server.host).getD defaults.host
    port := (given.port.or server.port).getD defaults.port
    corsOrigins := server.corsOrigins.getD [] ++ given.corsOrigins
    dbPath := given.dbPath.or database.path
    bounds :=
      ⟨(given.defaultLimit.or query.defaultLimit).getD defaults.bounds.defaultLimit,
        (given.maxLimit.or query.maxLimit).getD defaults.bounds.maxLimit⟩ }

/-- The configuration, if its settings are in order. -/
def check (configuration : Configuration) : Except ConfigurationError Configuration :=
  let bounds := configuration.bounds
  if configuration.host.isEmpty then .error .emptyHost
  else if configuration.port = 0 then .error .zeroPort
  else if bounds.defaultLimit = 0 ∨ bounds.maxLimit = 0 then .error .zeroLimit
  else if maxBound < bounds.maxLimit then .error (.limitTooLarge bounds.maxLimit)
  else if bounds.maxLimit < bounds.defaultLimit then
    .error (.limitsCrossed bounds.defaultLimit bounds.maxLimit)
  else .ok configuration

/-! ## Files -/

/-- What is found at a location. -/
inductive Found where
  | nothing
  | text (content : Text)
  /-- Something that cannot be read as text. -/
  | other
  deriving DecidableEq, Repr

/-- The name of settings files. -/
def fileName : Text := "sieve.json"

/-- The sections of a file under the name that reports give it. -/
def readSections (name : Text) : Found → Except ConfigurationError Sections
  | .text content =>
      match Sections.ofText? content with
      | some sections => .ok sections
      | none => .error (.malformed name)
  | _ => .error (.unreadable name)

/-- The sections of a file that need not exist. -/
def readOptional (name : Text) : Found → Except ConfigurationError Sections
  | .nothing => .ok {}
  | found => readSections name found

/-- The location of the settings file in the user's profile. -/
def profileLocation (around : Surroundings) : Text :=
  Location.join (Location.join around.home ".sieve") fileName

/-- The sections of the file that the command line names, which must exist, or of the
one in the current directory. -/
def readOverlay (around : Surroundings) (look : Text → Found) (given : GivenSettings) :
    Except ConfigurationError Sections :=
  match given.config with
  | some named =>
      let location := around.expand named
      if look location = .nothing then .error (.fileNotFound location)
      else readSections location (look location)
  | none => readOptional fileName (look (Location.join around.directory fileName))

/-- The configuration that the command line and the files give. -/
def load (around : Surroundings) (look : Text → Found) (given : GivenSettings) :
    Except ConfigurationError Configuration := do
  let profile ← readOptional (profileLocation around) (look (profileLocation around))
  let overlay ← readOverlay around look given
  check (layer (profile.merge overlay) given)

end Configuration

end CatalogListing
