/-
# Text.Percent -- percent escapes and form data

Percent escapes stand for bytes; every other character stands for its own UTF-8
bytes, a percent sign without two hexadecimal digits after it included.  Form data
is a list of `key=value` fields joined by `&` in which `+` is a space.
-/
import CatalogListing.Text.Utf8

namespace CatalogListing.Percent

set_option autoImplicit false

/-- The bytes that a percent-escaped text stands for. -/
def toBytes : Text → Bytes
  | '%' :: high :: low :: rest =>
      match Text.hexValue? high, Text.hexValue? low with
      | some h, some l => UInt8.ofNat (16 * h + l) :: toBytes rest
      | _, _ => 37 :: toBytes (high :: low :: rest)
  | c :: rest => String.utf8EncodeChar c ++ toBytes rest
  | [] => []

/-- One key or value of form data. -/
def formText (field : Text) : Text :=
  Utf8.decodeLossy (toBytes (field.map fun c => if c == '+' then ' ' else c))

/-- One field of form data: the key up to the first equals sign and the value
after it, which is empty when there is no such sign. -/
def formField (field : Text) : Text × Text :=
  match Text.splitAtFirst '=' field with
  | some (key, value) => (formText key, formText value)
  | none => (formText field, [])

/-- The pairs of form data in the order of their fields; empty fields do not count. -/
def formPairs (query : Text) : List (Text × Text) :=
  (Text.words (· == '&') query).map formField

end CatalogListing.Percent
