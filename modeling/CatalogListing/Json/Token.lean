/-
# Json.Token -- the tokens of JSON text

JSON text is read character by character into tokens: brackets, colons and commas,
the words `null`, `true` and `false`, numerals and quoted strings.  A token keeps
what was written: a numeral its digits, a string its escapes, so that a reader
decides on its own which numbers and which escapes it accepts.

`tokens?` fails exactly on characters that no token admits: a bare word that is
neither a literal nor a numeral, a control character or a wrong escape inside quotes,
or a string that is not closed.
-/
import CatalogListing.Text.Number

namespace CatalogListing.Json

set_option autoImplicit false

/-- A number as written. -/
structure Numeral where
  negative : Bool
  whole : Text
  /-- The digits behind the point; empty when there is no point. -/
  fraction : Text
  exponent : Option Int
  deriving DecidableEq, Repr

/-- One element of a quoted string: a character, or the code unit of a `\u` escape. -/
inductive Piece where
  | plain (c : Char)
  | unit (n : Nat)
  deriving DecidableEq, Repr

inductive Token where
  | openArray
  | closeArray
  | openObject
  | closeObject
  | colon
  | comma
  | null
  | boolean (b : Bool)
  | number (numeral : Numeral)
  | text (pieces : List Piece)
  deriving DecidableEq, Repr

/-! ## Numerals -/

/-- A nonempty run of digits without a leading zero, unless it is zero itself. -/
def isWhole (digits : Text) : Bool :=
  !digits.isEmpty && digits.all Char.isDigit && (digits.length == 1 || digits.head? != some '0')

/-- The exponent after its mark: an optional sign and digits. -/
def exponent? (text : Text) : Option Int :=
  Text.integer? text

/-- The digits behind a point, at least one, and the exponent after them. -/
def fractionAndExponent? (text : Text) : Option (Text × Option Int) :=
  let digits := text.takeWhile Char.isDigit
  match text.dropWhile Char.isDigit with
  | [] => some (digits, none)
  | mark :: rest =>
      if mark = 'e' ∨ mark = 'E' then (exponent? rest).map fun e => (digits, some e) else none

/-- The numeral that a text is. -/
def Numeral.ofText? (text : Text) : Option Numeral :=
  let negative := text.head? == some '-'
  let unsigned := if negative then text.tail else text
  let whole := unsigned.takeWhile Char.isDigit
  if !isWhole whole then none
  else match unsigned.dropWhile Char.isDigit with
    | '.' :: rest =>
        match fractionAndExponent? rest with
        | some ([], _) => none
        | some (fraction, exponent) => some ⟨negative, whole, fraction, exponent⟩
        | none => none
    | rest =>
        match fractionAndExponent? rest with
        | some (_, exponent) => some ⟨negative, whole, [], exponent⟩
        | none => none

/-! ## Scanning -/

/-- The token that a run of characters outside of quotes makes. -/
def bareToken? (run : Text) : Option Token :=
  if run = "null" then some .null
  else if run = "true" then some (.boolean true)
  else if run = "false" then some (.boolean false)
  else (Numeral.ofText? run).map .number

/-- The token that a single character makes outside of quotes. -/
def punctuation? : Char → Option Token
  | '[' => some .openArray
  | ']' => some .closeArray
  | '\x7b' => some .openObject
  | '\x7d' => some .closeObject
  | ':' => some .colon
  | ',' => some .comma
  | _ => none

/-- The white space of JSON. -/
def isSpace (c : Char) : Bool :=
  c == ' ' || c == '\n' || c == '\t' || c == '\r'

/-- The character that a backslash and one character stand for. -/
def shortEscape? : Char → Option Char
  | '"' => some '"'
  | '\\' => some '\\'
  | '/' => some '/'
  | 'b' => some '\x08'
  | 'f' => some '\x0c'
  | 'n' => some '\n'
  | 'r' => some '\r'
  | 't' => some '\t'
  | _ => none

/-- What has been read of the token that is not complete; lists hold the newest
element first. -/
inductive Pending where
  | nothing
  | bare (run : Text)
  | quoted (pieces : List Piece)
  | escape (pieces : List Piece)
  | unit (pieces : List Piece) (digits : Nat) (value : Nat)

/-- The complete tokens, newest first, and the one being read. -/
structure Scan where
  done : List Token
  pending : Pending

/-- The scan with a run of bare characters made into its token. -/
def Scan.finish? (scan : Scan) : Option (List Token) :=
  match scan.pending with
  | .nothing => some scan.done
  | .bare run => (bareToken? run.reverse).map (· :: scan.done)
  | _ => none

/-- One character outside of quotes. -/
def Scan.outside? (scan : Scan) (c : Char) : Option Scan :=
  if isSpace c then scan.finish?.map fun done => ⟨done, .nothing⟩
  else if c = '"' then scan.finish?.map fun done => ⟨done, .quoted []⟩
  else match punctuation? c with
    | some token => scan.finish?.map fun done => ⟨token :: done, .nothing⟩
    | none =>
        match scan.pending with
        | .bare run => some ⟨scan.done, .bare (c :: run)⟩
        | _ => some ⟨scan.done, .bare [c]⟩

/-- One more character. -/
def Scan.step? (scan : Scan) (c : Char) : Option Scan :=
  match scan.pending with
  | .nothing | .bare _ => scan.outside? c
  | .quoted pieces =>
      if c = '"' then some ⟨.text pieces.reverse :: scan.done, .nothing⟩
      else if c = '\\' then some ⟨scan.done, .escape pieces⟩
      else if c.toNat < 32 then none
      else some ⟨scan.done, .quoted (.plain c :: pieces)⟩
  | .escape pieces =>
      if c = 'u' then some ⟨scan.done, .unit pieces 0 0⟩
      else (shortEscape? c).map fun d => ⟨scan.done, .quoted (.plain d :: pieces)⟩
  | .unit pieces digits value =>
      (Text.hexValue? c).map fun h =>
        let value := 16 * value + h
        if digits = 3 then ⟨scan.done, .quoted (.unit value :: pieces)⟩
        else ⟨scan.done, .unit pieces (digits + 1) value⟩

/-- The tokens of a text. -/
def tokens? (text : Text) : Option (List Token) :=
  ((text.foldlM Scan.step? ⟨[], .nothing⟩).bind Scan.finish?).map List.reverse

/-! ## Strings -/

def isHighSurrogate (n : Nat) : Bool :=
  0xD800 ≤ n && n ≤ 0xDBFF

def isLowSurrogate (n : Nat) : Bool :=
  0xDC00 ≤ n && n ≤ 0xDFFF

/-- The characters of a quoted string.  Surrogates stand only in pairs, the high one
first. -/
def pieceText? : List Piece → Option Text
  | [] => some []
  | .plain c :: rest => (pieceText? rest).map (c :: ·)
  | .unit n :: rest =>
      if isLowSurrogate n then none
      else if isHighSurrogate n then
        match rest with
        | .unit m :: others =>
            if isLowSurrogate m then
              (pieceText? others).map
                (Char.ofNat (0x10000 + (n - 0xD800) * 0x400 + (m - 0xDC00)) :: ·)
            else none
        | _ => none
      else (pieceText? rest).map (Char.ofNat n :: ·)

end CatalogListing.Json
