import FramedLink.Text.Blank
import FramedLink.Text.Numeral
import FramedLink.Text.Quoted
import FramedLink.Text.Utf8

/-!
# Hex text

Octets written as pairs of hexadecimal digits. The writer puts a separator of choice between the
pairs. The reader takes any layout: white space and commas separate pieces, each piece may begin
with `0x` or `0X`, and a pair of digits may be cut anywhere.
-/

namespace FramedLink.Text.Hex

/-- Why a text is not hex text. -/
inductive Fault where
  /-- The digits do not pair up; `count` octets were found. -/
  | odd (count : Nat)
  /-- An octet is not a hexadecimal digit. -/
  | badDigit (found : UInt8)
  deriving DecidableEq, Repr

/-- The wording of a fault. An octet that is no digit is shown as the character of that code. -/
def Fault.message : Fault → String
  | .odd count => s!"hex input has an odd number of digits ({count})"
  | .badDigit found => "invalid hex digit " ++ quotedChar (Char.ofNat found.toNat)

def pair (b : UInt8) : String :=
  hexPadded 2 b.toNat

/-- Octets in lowercase hex text with a separator between them. -/
def encode (bytes : Bytes) (separator : String) : String :=
  separator.intercalate (bytes.map pair)

def isSeparator (c : Char) : Bool :=
  isBlank c || c == ','

/-- The characters of all pieces, newest first on top of `read`, without the marks that may begin a
piece; `fresh` says that a piece begins here. -/
def piecesFrom (fresh : Bool) (read : List Char) : List Char → List Char
  | [] => read
  | c :: rest =>
    if isSeparator c then piecesFrom true read rest
    else
      match fresh, c, rest with
      | true, '0', 'x' :: rest => piecesFrom false read rest
      | true, '0', 'X' :: rest => piecesFrom false read rest
      | _, c, rest => piecesFrom false (c :: read) rest

def pieces (text : String) : List Char :=
  (piecesFrom true [] text.toList).reverse

/-- The number that an octet stands for as a hexadecimal digit. -/
def nibble (digit : UInt8) : Except Fault UInt8 :=
  if 0x30 ≤ digit ∧ digit ≤ 0x39 then .ok (digit - 0x30)
  else if 0x61 ≤ digit ∧ digit ≤ 0x66 then .ok (digit - 0x61 + 10)
  else if 0x41 ≤ digit ∧ digit ≤ 0x46 then .ok (digit - 0x41 + 10)
  else .error (.badDigit digit)

/-- Reads pairs of digits, with the octets before in `read`, newest first. -/
def readPairs (read : Bytes) : Bytes → Except Fault Bytes
  | high :: low :: rest =>
    match nibble high with
    | .error fault => .error fault
    | .ok h =>
      match nibble low with
      | .error fault => .error fault
      | .ok l => readPairs ((h <<< 4 ||| l) :: read) rest
  | _ => .ok read.reverse

/-- The octets that hex text stands for. Digits are counted first, so an odd count is reported
before a character that is no digit. -/
def decode (text : String) : Except Fault Bytes :=
  let digits := Utf8.encode (String.ofList (pieces text))
  if digits.length % 2 ≠ 0 then .error (.odd digits.length) else readPairs [] digits

end FramedLink.Text.Hex
