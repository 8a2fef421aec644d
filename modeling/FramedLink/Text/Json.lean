import FramedLink.Text.Numeral

/-!
# JSON text

Values of the JSON data format, a compact writer and a strict reader. The writer keeps members in
the order given and escapes what the format requires and no more. The reader takes one value with
blanks around it and refuses everything that the grammar does not allow; members keep their order
and may repeat a name, so that whoever reads a value decides what a repetition means.
-/

namespace FramedLink.Text

inductive Json where
  | null
  | bool (value : Bool)
  /-- A number of at most twenty digits without sign, fraction and exponent. -/
  | natural (value : Nat)
  /-- Any other number, as it was written. -/
  | number (literal : String)
  | text (value : String)
  /-- A string with half of a surrogate pair in it, or an object with such a name: allowed by the
  grammar, but no text. -/
  | broken
  | array (items : List Json)
  | object (members : List (String × Json))

namespace Json

/-! ## Writing -/

/-- What stands in a JSON string for a character. -/
def escapedChar (c : Char) : String :=
  if c = '"' then "\\\""
  else if c = '\\' then "\\\\"
  else if c = '\x08' then "\\b"
  else if c = '\x0c' then "\\f"
  else if c = '\n' then "\\n"
  else if c = '\r' then "\\r"
  else if c = '\t' then "\\t"
  else if c.toNat < 0x20 then "\\u" ++ hexPadded 4 c.toNat
  else String.singleton c

def quote (text : String) : String :=
  "\"" ++ text.foldl (fun written c ↦ written ++ escapedChar c) "" ++ "\""

mutual

/-- A value in compact form. -/
def render : Json → String
  | .null => "null"
  | .bool true => "true"
  | .bool false => "false"
  | .natural value => toString value
  | .number literal => literal
  | .text value => quote value
  | .broken => quote ""
  | .array items => "[" ++ ",".intercalate (renderItems items) ++ "]"
  | .object members => "\x7b" ++ ",".intercalate (renderMembers members) ++ "\x7d"

def renderItems : List Json → List String
  | [] => []
  | item :: rest => render item :: renderItems rest

def renderMembers : List (String × Json) → List String
  | [] => []
  | (name, value) :: rest => (quote name ++ ":" ++ render value) :: renderMembers rest

end

/-! ## Reading -/

def isBlank (c : Char) : Bool :=
  c == ' ' || c == '\n' || c == '\t' || c == '\r'

def skipBlanks (input : List Char) : List Char :=
  input.dropWhile isBlank

def readUnit (a b c d : Char) : Option Nat :=
  readNumber 16 [a, b, c, d]

/-- The character for the letter of a two-character escape. -/
def shortEscape? (c : Char) : Option Char :=
  if c = '"' ∨ c = '\\' ∨ c = '/' then some c
  else if c = 'b' then some '\x08'
  else if c = 'f' then some '\x0c'
  else if c = 'n' then some '\n'
  else if c = 'r' then some '\r'
  else if c = 't' then some '\t'
  else none

/-- Whether a code unit opens a surrogate pair. -/
def isLeading (unit : Nat) : Bool :=
  0xd800 ≤ unit && unit < 0xdc00

def isTrailing (unit : Nat) : Bool :=
  0xdc00 ≤ unit && unit < 0xe000

/-- Reads a string after its opening quote. The characters read before are in `read`, newest first;
`whole` is false once half of a surrogate pair was met. -/
def readText (whole : Bool) (read : List Char) : List Char → Option (Option String × List Char)
  | [] => none
  | '"' :: rest => some (if whole then some (String.ofList read.reverse) else none, rest)
  | '\\' :: 'u' :: a :: b :: c :: d :: '\\' :: 'u' :: e :: f :: g :: h :: rest =>
    match readUnit a b c d, readUnit e f g h with
    | some high, some low =>
      if isLeading high && isTrailing low then
        let code := 0x10000 + (high - 0xd800) * 0x400 + (low - 0xdc00)
        readText whole (Char.ofNat code :: read) rest
      else if isLeading high || isTrailing high then
        readText false read ('\\' :: 'u' :: e :: f :: g :: h :: rest)
      else readText whole (Char.ofNat high :: read) ('\\' :: 'u' :: e :: f :: g :: h :: rest)
    | _, _ => none
  | '\\' :: 'u' :: a :: b :: c :: d :: rest =>
    match readUnit a b c d with
    | some unit =>
      if isLeading unit || isTrailing unit then readText false read rest
      else readText whole (Char.ofNat unit :: read) rest
    | none => none
  | '\\' :: c :: rest =>
    match shortEscape? c with
    | some escaped => readText whole (escaped :: read) rest
    | none => none
  | c :: rest => if c.toNat < 0x20 then none else readText whole (c :: read) rest

def spanDigits (input : List Char) : List Char × List Char :=
  input.span Char.isDigit

/-- Reads a number. A leading zero stands alone; a fraction and an exponent need digits. -/
def readNumeral (input : List Char) : Option (Json × List Char) :=
  let (sign, rest) := match input with
    | '-' :: rest => (['-'], rest)
    | _ => ([], input)
  let (whole, rest) := spanDigits rest
  if whole.isEmpty || (whole.length > 1 && whole.head? == some '0') then none
  else
    let fraction? := match rest with
      | '.' :: rest =>
        let (digits, rest) := spanDigits rest
        if digits.isEmpty then none else some ('.' :: digits, rest)
      | _ => some ([], rest)
    match fraction? with
    | none => none
    | some (fraction, rest) =>
      let exponent? := match rest with
        | e :: tail =>
          if e == 'e' || e == 'E' then
            let (mark, tail) := match tail with
              | '+' :: tail => ([e, '+'], tail)
              | '-' :: tail => ([e, '-'], tail)
              | _ => ([e], tail)
            let (digits, tail) := spanDigits tail
            if digits.isEmpty then none else some (mark ++ digits, tail)
          else some ([], rest)
        | [] => some ([], rest)
      match exponent? with
      | none => none
      | some (exponent, rest) =>
        if sign.isEmpty && fraction.isEmpty && exponent.isEmpty && whole.length ≤ 20 then
          (readNumber 10 whole).map fun value ↦ (.natural value, rest)
        else some (.number (String.ofList (sign ++ whole ++ fraction ++ exponent)), rest)

mutual

/-- Reads a value that begins at the front; `fuel` bounds the number of values and separators. -/
def readValue : (fuel : Nat) → List Char → Option (Json × List Char)
  | 0, _ => none
  | fuel + 1, input =>
    match input with
    | 'n' :: 'u' :: 'l' :: 'l' :: rest => some (.null, rest)
    | 't' :: 'r' :: 'u' :: 'e' :: rest => some (.bool true, rest)
    | 'f' :: 'a' :: 'l' :: 's' :: 'e' :: rest => some (.bool false, rest)
    | '"' :: rest =>
      (readText true [] rest).map fun (text?, rest) ↦ (text?.elim .broken .text, rest)
    | '[' :: rest =>
      match skipBlanks rest with
      | ']' :: rest => some (.array [], rest)
      | rest => (readItems fuel [] rest).map fun (items, rest) ↦ (.array items, rest)
    | '\x7b' :: rest =>
      match skipBlanks rest with
      | '\x7d' :: rest => some (.object [], rest)
      | rest => readMembers fuel true [] rest
    | input => readNumeral input

/-- Reads the items of an array up to its closing bracket. -/
def readItems : (fuel : Nat) → List Json → List Char → Option (List Json × List Char)
  | 0, _, _ => none
  | fuel + 1, items, input =>
    match readValue fuel (skipBlanks input) with
    | none => none
    | some (item, rest) =>
      match skipBlanks rest with
      | ',' :: rest => readItems fuel (item :: items) rest
      | ']' :: rest => some ((item :: items).reverse, rest)
      | _ => none

/-- Reads the members of an object up to its closing brace, after those in `members`, newest first;
`whole` is false once a name was met that is no text. -/
def readMembers : (fuel : Nat) → (whole : Bool) → List (String × Json) → List Char →
    Option (Json × List Char)
  | 0, _, _, _ => none
  | fuel + 1, whole, members, input =>
    match skipBlanks input with
    | '"' :: rest =>
      match readText true [] rest with
      | none => none
      | some (name?, rest) =>
        match skipBlanks rest with
        | ':' :: rest =>
          match readValue fuel (skipBlanks rest) with
          | none => none
          | some (value, rest) =>
            let whole := whole && name?.isSome
            let members := (name?.getD "", value) :: members
            match skipBlanks rest with
            | ',' :: rest => readMembers fuel whole members rest
            | '\x7d' :: rest => some (if whole then .object members.reverse else .broken, rest)
            | _ => none
        | _ => none
    | _ => none

end

/-- The value that a text holds, if it holds one and nothing else. Every value and separator takes
at least one character, so the length of the text bounds the work. -/
def parse (text : String) : Option Json :=
  let input := text.toList
  match readValue (2 * input.length + 1) (skipBlanks input) with
  | some (value, rest) => if (skipBlanks rest).isEmpty then some value else none
  | none => none

end Json

end FramedLink.Text
