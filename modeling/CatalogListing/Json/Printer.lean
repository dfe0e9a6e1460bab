/-
# Json.Printer -- the compact text of JSON values

A value is written without spaces.  Strings escape quotes, backslashes and control
characters, the latter in their short forms where there is one and as `\u00xx`
otherwise.  An infinity is written as `null`.
-/
import CatalogListing.Json.Value
import CatalogListing.Decimal.Shortest

namespace CatalogListing.Json

set_option autoImplicit false

/-- A character inside quotes. -/
def escapeChar (c : Char) : Text :=
  if c = '"' then ['\\', '"']
  else if c = '\\' then ['\\', '\\']
  else if c = '\n' then ['\\', 'n']
  else if c = '\r' then ['\\', 'r']
  else if c = '\t' then ['\\', 't']
  else if c = '\x08' then ['\\', 'b']
  else if c = '\x0c' then ['\\', 'f']
  else if c.toNat < 32 then
    ['\\', 'u', '0', '0', Text.hexDigit (c.toNat / 16), Text.hexDigit (c.toNat % 16)]
  else [c]

/-- A quoted string. -/
def quoted (text : Text) : Text :=
  '"' :: (text.flatMap escapeChar ++ ['"'])

/-- A floating-point number. -/
def realText (x : Binary64) : Text :=
  if x.isInfinite then "null" else x.withFraction

mutual

/-- The compact text of a value. -/
def print : Json → Text
  | .null => "null"
  | .boolean b => if b then "true" else "false"
  | .integer n => Text.ofInt n
  | .real x => realText x
  | .text t => quoted t
  | .array items => '[' :: (List.intercalate [','] (printItems items) ++ [']'])
  | .object fields => '\x7b' :: (List.intercalate [','] (printFields fields) ++ ['\x7d'])

def printItems : List Json → List Text
  | [] => []
  | item :: rest => print item :: printItems rest

def printFields : List (Text × Json) → List Text
  | [] => []
  | (key, value) :: rest => (quoted key ++ ':' :: print value) :: printFields rest

end

end CatalogListing.Json
