/-
# Settings.Location -- file locations

Locations are texts with slashes.  This module joins and expands them against the
surroundings of the process: its environment variables, its current directory and the
home directory of its account.  The network interfaces of the machine are among them too.

* A relative rest is put behind its base with one slash between; an absolute rest
  replaces the base (`Location.join`).
* `~` and `~/rest` stand for the home directory; every other relative location lies in
  the current directory (`Surroundings.expand`).
* The data directory is the one that `SIEVE_DATA_DIR` names, or the one of this
  application among the user's data.
-/
import CatalogListing.Settings.Host
import CatalogListing.Text.Blank

namespace CatalogListing

set_option autoImplicit false

namespace Location

def isAbsolute (location : Text) : Bool :=
  location.head? == some '/'

/-- A rest put behind a base. -/
def join (base rest : Text) : Text :=
  if isAbsolute rest then rest
  else if base.isEmpty || base.getLast? == some '/' then base ++ rest
  else base ++ '/' :: rest

/-- The names that a location goes through. -/
def components (location : Text) : List Text :=
  Text.words (· == '/') location

/-- The names of an existing directory without `.` and `..`. -/
def resolve (names : List Text) : List Text :=
  (names.foldl
    (fun above name =>
      if name = ['.'] then above
      else if name = ['.', '.'] then above.tail
      else name :: above) []).reverse

/-- An absolute location of names. -/
def ofComponents (names : List Text) : Text :=
  '/' :: List.intercalate ['/'] names

/-- The one location of an existing directory that has neither `.` nor `..`. -/
def canonical (location : Text) : Text :=
  ofComponents (resolve (components location))

end Location

/-- What surrounds a process. -/
structure Surroundings where
  /-- The environment variables. -/
  bindings : List (Text × Text)
  /-- The current directory. -/
  directory : Text
  /-- The home directory of the account, for want of a variable. -/
  accountHome : Text
  /-- The addresses of the network interfaces, none if they cannot be listed. -/
  interfaces : List InterfaceAddress := []

namespace Surroundings

def lookup? (around : Surroundings) (name : Text) : Option Text :=
  around.bindings.lookup name

/-- The home directory. -/
def home (around : Surroundings) : Text :=
  match around.lookup? "HOME" with
  | some (c :: rest) => c :: rest
  | _ => around.accountHome

/-- A location with a tilde in front replaced by the home directory. -/
def withHome (around : Surroundings) (location : Text) : Text :=
  match location with
  | ['~'] => around.home
  | '~' :: '/' :: rest => Location.join around.home rest
  | _ => location

/-- The absolute location that a text stands for; the current directory for an empty
text. -/
def expand (around : Surroundings) (text : Text) : Text :=
  let location := Text.trim text
  if location.isEmpty then around.directory
  else
    let expanded := around.withHome location
    if Location.isAbsolute expanded then expanded else Location.join around.directory expanded

/-- The directory of the user's data: the one that `XDG_DATA_HOME` names if it is
absolute, or the customary one in the home directory. -/
def userData (around : Surroundings) : Text :=
  match around.lookup? "XDG_DATA_HOME" with
  | some location =>
      if Location.isAbsolute location then location else Location.join around.home ".local/share"
  | none => Location.join around.home ".local/share"

/-- The data directory of the application. -/
def dataDirectory (around : Surroundings) : Text :=
  match around.lookup? "SIEVE_DATA_DIR" with
  | some location => around.expand location
  | none => Location.join around.userData "sieve"

/-- The database file inside a data directory. -/
def databaseIn (dataDirectory : Text) : Text :=
  Location.join (Location.join dataDirectory "sqlite") "sieve.db"

end Surroundings

end CatalogListing
