/-
# Text.Utf8 -- texts as bytes

The UTF-8 form of a text and its reading.  `Utf8.scan` reads any byte sequence:
a well-formed character is itself, and each maximal ill-formed part counts once.
The strict reading refuses an ill-formed part, the lossy one replaces it by
U+FFFD.
-/
import CatalogListing.Text.Number

namespace CatalogListing

set_option autoImplicit false

/-- A sequence of bytes. -/
abbrev Bytes := List UInt8

namespace Utf8

/-- The UTF-8 form of a text. -/
def encode (text : Text) : Bytes :=
  text.flatMap String.utf8EncodeChar

/-- A byte that continues a character. -/
def continues (b : UInt8) : Bool :=
  0x80 ≤ b && b ≤ 0xBF

/-- A byte that may follow the lead byte of a character of three bytes. -/
def second3 (lead b : UInt8) : Bool :=
  if lead == 0xE0 then 0xA0 ≤ b && b ≤ 0xBF
  else if lead == 0xED then 0x80 ≤ b && b ≤ 0x9F
  else continues b

/-- A byte that may follow the lead byte of a character of four bytes. -/
def second4 (lead b : UInt8) : Bool :=
  if lead == 0xF0 then 0x90 ≤ b && b ≤ 0xBF
  else if lead == 0xF4 then 0x80 ≤ b && b ≤ 0x8F
  else continues b

/-- The payload of a byte that continues a character. -/
def payload (b : UInt8) : Nat :=
  b.toNat % 0x40

/-- The characters that the bytes hold, with `none` for each maximal ill-formed
part. -/
def scan : Bytes → List (Option Char)
  | [] => []
  | a :: rest =>
      if a < 0x80 then some (Char.ofNat a.toNat) :: scan rest
      else if 0xC2 ≤ a && a ≤ 0xDF then
        match rest with
        | [] => [none]
        | b :: rest₁ =>
            if continues b then
              some (Char.ofNat (a.toNat % 0x20 * 0x40 + payload b)) :: scan rest₁
            else none :: scan (b :: rest₁)
      else if 0xE0 ≤ a && a ≤ 0xEF then
        match rest with
        | [] => [none]
        | b :: rest₁ =>
            if second3 a b then
              match rest₁ with
              | [] => [none]
              | c :: rest₂ =>
                  if continues c then
                    some (Char.ofNat ((a.toNat % 0x10 * 0x40 + payload b) * 0x40 + payload c)) ::
                      scan rest₂
                  else none :: scan (c :: rest₂)
            else none :: scan (b :: rest₁)
      else if 0xF0 ≤ a && a ≤ 0xF4 then
        match rest with
        | [] => [none]
        | b :: rest₁ =>
            if second4 a b then
              match rest₁ with
              | [] => [none]
              | c :: rest₂ =>
                  if continues c then
                    match rest₂ with
                    | [] => [none]
                    | d :: rest₃ =>
                        if continues d then
                          some (Char.ofNat (((a.toNat % 0x08 * 0x40 + payload b) * 0x40 +
                            payload c) * 0x40 + payload d)) :: scan rest₃
                        else none :: scan (d :: rest₃)
                  else none :: scan (c :: rest₂)
            else none :: scan (b :: rest₁)
      else none :: scan rest

/-- The text that the bytes hold, if they are well formed. -/
def decode? (bytes : Bytes) : Option Text :=
  (scan bytes).mapM id

/-- The text that the bytes hold, with U+FFFD for each ill-formed part. -/
def decodeLossy (bytes : Bytes) : Text :=
  (scan bytes).map fun c => c.getD '\uFFFD'

/-- The bytes as pairs of small hexadecimal digits. -/
def toHex (bytes : Bytes) : Text :=
  bytes.flatMap fun b => [Text.hexDigit (b.toNat / 16), Text.hexDigit (b.toNat % 16)]

/-- The bytes that pairs of hexadecimal digits denote. -/
def ofHex? : Text → Option Bytes
  | [] => some []
  | [_] => none
  | high :: low :: rest => do
      let h ← Text.hexValue? high
      let l ← Text.hexValue? low
      let others ← ofHex? rest
      return UInt8.ofNat (16 * h + l) :: others

end Utf8

end CatalogListing
