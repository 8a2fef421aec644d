/-!
# Numerals

Decimal and hexadecimal numerals as people type them and as reports print them. Readers take an
optional sign and any number of leading zeros, and nothing else: no blanks, no separators. A numeral
whose number does not lie below the reader's bound is refused.
-/

namespace FramedLink.Text

/-- The number that a digit stands for in bases up to sixteen, letters in either case. -/
def digitValue? (c : Char) : Option Nat :=
  if '0' ≤ c ∧ c ≤ '9' then some (c.toNat - '0'.toNat)
  else if 'a' ≤ c ∧ c ≤ 'f' then some (c.toNat - 'a'.toNat + 10)
  else if 'A' ≤ c ∧ c ≤ 'F' then some (c.toNat - 'A'.toNat + 10)
  else none

/-- The number written by digits of a base, after those already read into `sum`. -/
def readDigits (base : Nat) : (sum : Nat) → List Char → Option Nat
  | sum, [] => some sum
  | sum, c :: rest =>
    match digitValue? c with
    | some d => if d < base then readDigits base (base * sum + d) rest else none
    | none => none

/-- A nonempty string of digits of a base. -/
def readNumber (base : Nat) : List Char → Option Nat
  | [] => none
  | digits => readDigits base 0 digits

/-- A numeral with an optional plus sign, for a number below `bound`. -/
def readUnsigned (base bound : Nat) (text : String) : Option Nat :=
  let digits := match text.toList with
    | '+' :: rest => rest
    | all => all
  (readNumber base digits).filter (· < bound)

/-- A decimal numeral with an optional sign of either kind, for a number from zero to below `bound`:
a minus sign is tolerated before zero alone. -/
def readSmall (bound : Nat) (text : String) : Option Nat :=
  match text.toList with
  | '-' :: rest => (readNumber 10 rest).filter (· == 0)
  | _ => readUnsigned 10 bound text

/-- The lowercase hexadecimal digit of a number below sixteen. -/
def hexDigit (n : Nat) : Char :=
  if n < 10 then Char.ofNat ('0'.toNat + n) else Char.ofNat ('a'.toNat + (n - 10))

/-- The `width` low hexadecimal digits of `n`, most significant first. -/
def hexDigits : (width : Nat) → (n : Nat) → List Char
  | 0, _ => []
  | width + 1, n => hexDigits width (n / 16) ++ [hexDigit (n % 16)]

/-- A number in lowercase hexadecimal, filled with zeros to `width` digits. -/
def hexPadded (width n : Nat) : String :=
  String.ofList (hexDigits width n)

def hexShort (n : Nat) : String :=
  String.ofList (Nat.toDigits 16 n)

end FramedLink.Text
