/-
# Program.Banner -- what a starting server shows

The addresses of the interface and the locations of the data, in colours.
-/
import CatalogListing.Http.Description
import CatalogListing.Settings.Host
import CatalogListing.Settings.Terminal
import CatalogListing.Text.Number

namespace CatalogListing.Banner

set_option autoImplicit false

/-- The width of labels. -/
def labelWidth : Nat := 10

/-- A label with spaces up to its width. -/
def label (text : Text) : Text :=
  text ++ List.replicate (labelWidth - text.length) ' '

/-- The arrow in front of a line. -/
def arrow : Text := "➜"

/-- A line with an address, its arrow in a colour. -/
def addressLine (colour name address : Text) : Text :=
  "  " ++ Terminal.styled colour arrow ++ "  " ++ Terminal.styled "1" (label name) ++ ' ' ::
    Terminal.link address

/-- A line in grey. -/
def greyLine (name text : Text) : Text :=
  "  " ++ Terminal.styled "90" (arrow ++ "  " ++ label name ++ ' ' :: text)

/-- The line with the name and the version. -/
def titleLine : Text :=
  "  " ++ Terminal.style "1" ++ Terminal.styled "36" "Sieve" ++ ' ' ::
    Terminal.styled "90" ('v' :: Http.version)

/-- The address of the server. -/
def base (host : Text) (port : Nat) : Text :=
  "http://" ++ Host.display host ++ ':' :: Text.ofNat port

/-- The lines of the banner. -/
def lines (host : Text) (port : Nat) (dataDirectory dbPath : Text) : List Text :=
  [[], titleLine, [],
    addressLine "32" "API:" (base host port ++ "/api/v1/resources"),
    addressLine "33" "Docs:" (base host port ++ "/api/docs")] ++
  (if Host.isLoopback host then [greyLine "Network:" "use --host 0.0.0.0 to expose"] else []) ++
  [greyLine "Data:" dataDirectory, greyLine "Database:" dbPath, []]

/-- The banner. -/
def text (host : Text) (port : Nat) (dataDirectory dbPath : Text) : Text :=
  (lines host port dataDirectory dbPath).flatMap fun line => line ++ ['\n']

end CatalogListing.Banner
