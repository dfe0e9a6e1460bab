/-
# Text.Number -- whole numbers in decimal

Reading and writing whole numbers.  A reader accepts ASCII digits only, at least
one of them, and refuses a number outside its range; leading zeros are allowed.
-/
import CatalogListing.Text.Basic

namespace CatalogListing.Text

set_option autoImplicit false

/-- The number that a run of decimal digits denotes, most significant first. -/
def digitsValue (digits : Text) : Nat :=
  digits.foldl (fun value c => 10 * value + (c.toNat - 48)) 0

/-- A nonempty run of decimal digits as a number. -/
def natural? (text : Text) : Option Nat :=
  if !text.isEmpty && text.all Char.isDigit then some (digitsValue text) else none

/-- A decimal integer with an optional sign. -/
def integer? : Text → Option Int
  | '-' :: digits => (natural? digits).map fun n => -(n : Int)
  | '+' :: digits => (natural? digits).map fun n => (n : Int)
  | digits => (natural? digits).map fun n => (n : Int)

/-- The range of a signed word of 64 bits. -/
def inWord64 (n : Int) : Bool :=
  -9223372036854775808 ≤ n && n ≤ 9223372036854775807

/-- A decimal integer that a signed word of 64 bits can hold. -/
def signed64? (text : Text) : Option Int :=
  (integer? text).filter inWord64

/-- A decimal number without a minus sign that an unsigned word of 32 bits can hold. -/
def unsigned32? (text : Text) : Option Nat :=
  let digits := match text with
    | '+' :: rest => rest
    | _ => text
  (natural? digits).filter (· ≤ 4294967295)

/-- A natural number in decimal. -/
def ofNat (n : Nat) : Text :=
  Nat.toDigits 10 n

/-- An integer in decimal, with a sign only when negative. -/
def ofInt : Int → Text
  | .ofNat n => ofNat n
  | .negSucc n => '-' :: ofNat (n + 1)

/-- The text with zeros put in front until it has `width` characters. -/
def padLeft (width : Nat) (text : Text) : Text :=
  List.replicate (width - text.length) '0' ++ text

/-- A number from 0 to 15 as a small hexadecimal digit. -/
def hexDigit (n : Nat) : Char :=
  Nat.digitChar n

/-- The value of a hexadecimal digit in either case. -/
def hexValue? (c : Char) : Option Nat :=
  if c.isDigit then some (c.toNat - 48)
  else if 'a' ≤ c ∧ c ≤ 'f' then some (c.toNat - 87)
  else if 'A' ≤ c ∧ c ≤ 'F' then some (c.toNat - 55)
  else none

end CatalogListing.Text
