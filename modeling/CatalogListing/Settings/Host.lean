/-
# Settings.Host -- the address that the server binds

Hosts that mean every interface of the machine, how a host is shown, and the hosts that
the interfaces of a machine are.
-/
import CatalogListing.Text.Number

namespace CatalogListing.Host

set_option autoImplicit false

/-- The host stands for every interface. -/
def isAllInterfaces (host : Text) : Bool :=
  (["0.0.0.0", "::", "[::]"] : List Text).contains host

/-- The host under which the server is reached from the same machine. -/
def display (host : Text) : Text :=
  if isAllInterfaces host then "localhost" else host

/-- The host is a name of the machine itself. -/
def isLoopback (host : Text) : Bool :=
  (["127.0.0.1", "localhost"] : List Text).contains host

end CatalogListing.Host

namespace CatalogListing

/-- The address of a network interface of the machine. -/
inductive InterfaceAddress where
  /-- Of the fourth version, by its four parts. -/
  | v4 (a b c d : Fin 256)
  /-- Of the sixth version, as it is written. -/
  | v6 (text : Text)
  deriving DecidableEq, Repr

namespace InterfaceAddress

/-- The address as a host of the fourth version, unless the machine has it for itself. -/
def host? : InterfaceAddress → Option Text
  | .v4 a b c d =>
      if a = 127 then none
      else some (List.intercalate ['.'] ([a, b, c, d].map fun part => Text.ofNat part.val))
  | .v6 _ => none

end InterfaceAddress

end CatalogListing
