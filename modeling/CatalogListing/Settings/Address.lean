/-
# Settings.Address -- addresses of machines

An address that a server can bind is four decimal numbers joined by points, or eight
groups of hexadecimal digits joined by colons, where one run of zero groups may be left
out as a pair of colons and the last two groups may be written as four decimal numbers.
-/
import CatalogListing.Text.Number

namespace CatalogListing.Address

set_option autoImplicit false

/-- A number from 0 to 255 in decimal without a leading zero. -/
def isOctet (text : Text) : Bool :=
  !text.isEmpty && text.length ≤ 3 && text.all Char.isDigit &&
    (text.length == 1 || text.head? != some '0') && Text.digitsValue text ≤ 255

/-- The text is four numbers joined by points. -/
def isDotted (text : Text) : Bool :=
  let numbers := Text.pieces (· == '.') text
  numbers.length == 4 && numbers.all isOctet

/-- One to four hexadecimal digits. -/
def isGroup (text : Text) : Bool :=
  !text.isEmpty && text.length ≤ 4 && text.all fun c => (Text.hexValue? c).isSome

/-- How many groups are joined by colons in pieces; the last may be four numbers, which
count as two groups, if `dotted`. -/
def countGroups? (dotted : Bool) : List Text → Option Nat
  | [] => some 0
  | [last] =>
      if isGroup last then some 1 else if dotted && isDotted last then some 2 else none
  | group :: rest =>
      if isGroup group then (countGroups? dotted rest).map (· + 1) else none

/-- How many groups a text has; an empty text has none. -/
def groups? (dotted : Bool) (text : Text) : Option Nat :=
  if text.isEmpty then some 0 else countGroups? dotted (Text.pieces (· == ':') text)

/-- The text is groups joined by colons. -/
def isColoned (text : Text) : Bool :=
  match Text.piecesAtPair ':' ':' text with
  | [whole] => groups? true whole == some 8
  | [front, back] =>
      match groups? false front, groups? true back with
      | some m, some n => m + n ≤ 7
      | _, _ => false
  | _ => false

/-- The text is an address. -/
def isAddress (text : Text) : Bool :=
  isDotted text || isColoned text

/-- The address belongs to every machine: it is a loopback address, or stands for all
interfaces. -/
def isOwn (text : Text) : Bool :=
  (isDotted text && ("127.".toList.isPrefixOf text || text = "0.0.0.0")) ||
    text = "::" || text = "::1"

end CatalogListing.Address
