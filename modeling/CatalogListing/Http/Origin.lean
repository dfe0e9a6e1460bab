/-
# Http.Origin -- which pages may read the answers

Browsers name the origin of the page that sends a request.  The allowed origins are
those of the bound address, with and without the port, those of the interfaces of the
machine if the address stands for all of them, and any further ones that are configured,
without white space around them and slashes behind them.

An origin list cannot hold the wildcard `*`.
-/
import CatalogListing.Settings.Host
import CatalogListing.Text.Blank
import CatalogListing.Text.Number

namespace CatalogListing.Origin

set_option autoImplicit false

/-- The hosts under which the bound address is reached; loopback has two names. -/
def baseHosts (host : Text) : List Text :=
  if Host.isAllInterfaces host || Host.isLoopback host then ["localhost", "127.0.0.1"] else [host]

/-- The origin of a host with a port. -/
def withPort (port : Nat) (host : Text) : Text :=
  "http://" ++ host ++ ':' :: Text.ofNat port

/-- The origins of the bound address.  One that stands for every interface is reached under
the address of each of them as well. -/
def base (host : Text) (port : Nat) (interfaces : List InterfaceAddress) : List Text :=
  ((baseHosts host).flatMap fun h => [withPort port h, "http://" ++ h]) ++
    if Host.isAllInterfaces host then
      (interfaces.filterMap InterfaceAddress.host?).map (withPort port)
    else []

/-- A configured origin without white space around it and slashes behind it. -/
def normalize (origin : Text) : Text :=
  Text.dropEndWhile (· == '/') (Text.trim origin)

/-- The origins with one more, unless it is empty or among them. -/
def add (origins : List Text) (extra : Text) : List Text :=
  let origin := normalize extra
  if origin.isEmpty || origins.contains origin then origins else origins ++ [origin]

/-- The allowed origins. -/
def allowed (host : Text) (port : Nat) (extras : List Text)
    (interfaces : List InterfaceAddress := []) : List Text :=
  extras.foldl add (base host port interfaces)

/-- The origin is allowed. -/
def isAllowed (origins : List Text) (origin : Text) : Bool :=
  origins.contains origin

/-- The text can be the value of a header: visible ASCII, spaces and tabs, and
characters beyond ASCII. -/
def isHeaderValue (text : Text) : Bool :=
  text.all fun c => c.toNat == 9 || (32 ≤ c.toNat && c.toNat != 127)

/-- The origins that the list of a response policy holds. -/
def listed (origins : List Text) : List Text :=
  origins.filter isHeaderValue

/-- The wildcard, which no list can hold. -/
def wildcard : Text := ['*']

/-- The report of a wildcard in the list. -/
def wildcardMessage : Text :=
  "Wildcard origin (\x60*\x60) cannot be passed to \x60AllowOrigin::list\x60. Use \x60AllowOrigin::any()\x60 instead"

end CatalogListing.Origin
