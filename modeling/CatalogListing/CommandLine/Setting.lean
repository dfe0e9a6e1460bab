/-
# CommandLine.Setting -- settings on the command line

A setting has a long name, perhaps a letter, and an environment variable that stands in
for it.  Giving a setting a value checks the value; a setting other than the list of
origins may be given once.
-/
import CatalogListing.Settings.Configuration

namespace CatalogListing.CommandLine

set_option autoImplicit false

/-- A setting that takes a value. -/
inductive Setting where
  | host
  | port
  | config
  | dbPath
  | defaultLimit
  | maxLimit
  | corsOrigins
  deriving DecidableEq, Repr

/-- Something that is asked for without a value. -/
inductive Switch where
  | yes
  | help
  | version
  deriving DecidableEq, Repr

/-- Why the value of a setting is refused. -/
inductive Refusal where
  /-- A location must not be empty. -/
  | empty
  | notANumber
  /-- The number is larger than the bound, or negative. -/
  | outOfRange (bound : Nat)
  deriving DecidableEq, Repr

namespace Setting

/-- Every setting. -/
def all : List Setting :=
  [.host, .port, .config, .dbPath, .defaultLimit, .maxLimit, .corsOrigins]

/-- The name behind two dashes. -/
def name : Setting → Text
  | .host => "host"
  | .port => "port"
  | .config => "config"
  | .dbPath => "db-path"
  | .defaultLimit => "default-limit"
  | .maxLimit => "max-limit"
  | .corsOrigins => "cors-origins"

/-- The letter behind one dash. -/
def letter? : Setting → Option Char
  | .host => some 'H'
  | .port => some 'p'
  | .config => some 'c'
  | _ => none

/-- A name in capitals, with underscores for dashes. -/
def capitals (name : Text) : Text :=
  name.map fun c => if c = '-' then '_' else c.toUpper

/-- The name of the value in help texts. -/
def valueName (setting : Setting) : Text :=
  capitals setting.name

/-- The setting with the name of its value. -/
def shown (setting : Setting) : Text :=
  "--" ++ setting.name ++ " <" ++ setting.valueName ++ ['>']

/-- The environment variable. -/
def environmentName (setting : Setting) : Text :=
  "SIEVE_" ++ capitals setting.name

/-- The setting of a long name. -/
def named? (name : Text) : Option Setting :=
  all.find? fun setting => setting.name == name

/-- The setting of a letter. -/
def lettered? (letter : Char) : Option Setting :=
  all.find? fun setting => setting.letter? == some letter

/-! ## Values -/

/-- A number from zero to a bound. -/
def number (bound : Nat) (value : Text) : Except Refusal Nat :=
  match Text.signed64? value with
  | some (.ofNat n) => if n ≤ bound then .ok n else .error (.outOfRange bound)
  | some (.negSucc _) => .error (.outOfRange bound)
  | none => .error .notANumber

/-- A location. -/
def location (value : Text) : Except Refusal Text :=
  if value.isEmpty then .error .empty else .ok value

/-- The settings with one more value. -/
def assign (given : GivenSettings) (setting : Setting) (value : Text) :
    Except Refusal GivenSettings :=
  match setting with
  | .host => .ok { given with host := some value }
  | .port => (number maxPort value).map fun n => { given with port := some n }
  | .config => (location value).map fun path => { given with config := some path }
  | .dbPath => .ok { given with dbPath := some value }
  | .defaultLimit =>
      (number maxWrittenLimit value).map fun n => { given with defaultLimit := some n }
  | .maxLimit => (number maxWrittenLimit value).map fun n => { given with maxLimit := some n }
  | .corsOrigins =>
      .ok { given with corsOrigins := given.corsOrigins ++ Text.pieces (· == ',') value }

/-- The setting has a value. -/
def isIn (given : GivenSettings) : Setting → Bool
  | .host => given.host.isSome
  | .port => given.port.isSome
  | .config => given.config.isSome
  | .dbPath => given.dbPath.isSome
  | .defaultLimit => given.defaultLimit.isSome
  | .maxLimit => given.maxLimit.isSome
  | .corsOrigins => !given.corsOrigins.isEmpty

/-- The setting may be given more than once. -/
def repeats (setting : Setting) : Bool :=
  setting = .corsOrigins

end Setting

namespace Switch

def name : Switch → Text
  | .yes => "yes"
  | .help => "help"
  | .version => "version"

def letter : Switch → Char
  | .yes => 'y'
  | .help => 'h'
  | .version => 'V'

/-- The switch as it is written. -/
def shown (switch : Switch) : Text :=
  "--" ++ switch.name

end Switch

end CatalogListing.CommandLine
