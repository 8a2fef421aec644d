import FramedLink.Text.Numeral

/-!
# Options of a command line

A command line is a list of words. A word that begins with two dashes names an option, one that
begins with a single dash names it by its letter, and every other word is an operand; a lone `--`
makes operands of all words after it. The value of an option follows its name after an equals sign,
its letter with or without one, or stands in the next word, which then must not look like an option.

What options there are is given as a list of shapes, each with the kind of its value. `scan` cuts
words into items, reads each value by its kind, and stops at the first word that fits nothing.
-/

namespace FramedLink.Tool

inductive ValueKind where
  | flag
  | text
  /-- The name of a file; it is not empty. -/
  | path
  /-- A number below a small bound, which may carry a sign. -/
  | small (bound : Nat)
  | unsigned (bound : Nat)
  /-- A connection id, in decimal or behind `0x` or `0X` in hexadecimal. -/
  | connId
  | choice (words : List String)
  /-- Small numbers parted by commas. Such an option may be given more than once. -/
  | numbers (bound : Nat)
  deriving DecidableEq, Repr

inductive Value where
  | present
  | text (value : String)
  | number (value : Nat)
  | numbers (values : List Nat)
  deriving DecidableEq, Repr

/-- The number that a connection id stands for. -/
def readConnId (word : String) : Option Nat :=
  match word.toList with
  | '0' :: 'x' :: digits | '0' :: 'X' :: digits =>
    Text.readUnsigned 16 UInt32.size (String.ofList digits)
  | _ => Text.readUnsigned 10 UInt32.size word

/-- Numbers parted by commas. -/
def readNumbers (bound : Nat) (word : String) : Option (List Nat) :=
  (word.splitOn ",").mapM (Text.readSmall bound)

def ValueKind.read : ValueKind → String → Option Value
  | .flag, _ => none
  | .text, word => some (.text word)
  | .path, word => if word.isEmpty then none else some (.text word)
  | .small bound, word => (Text.readSmall bound word).map .number
  | .unsigned bound, word => (Text.readUnsigned 10 bound word).map .number
  | .connId, word => (readConnId word).map .number
  | .choice words, word => if word ∈ words then some (.text word) else none
  | .numbers bound, word => (readNumbers bound word).map .numbers

structure OptionShape where
  name : String
  letter : Option Char := none
  kind : ValueKind := .flag
  deriving DecidableEq, Repr

/-- What a word, or two words together, say. -/
inductive Item where
  | option (shape : OptionShape) (value : Value)
  | operand (word : String)
  | malformed
  deriving DecidableEq, Repr

/-- An option whose value is known: it has to be of the option's kind. -/
def Item.ofValue (shape : OptionShape) (word : String) : Item :=
  match shape.kind.read word with
  | some value => .option shape value
  | none => .malformed

inductive WordForm where
  /-- The mark behind which all words are operands. -/
  | mark
  /-- An option by its name, with what stands behind the equals sign. -/
  | long (name : String) (attached : Option String)
  /-- An option by its letter, with what stands behind it. -/
  | short (letter : Char) (attached : String)
  | plain

/-- What stands before and, if there is one, behind the first equals sign. -/
def cutAtEquals (before : List Char) : List Char → List Char × Option (List Char)
  | [] => (before.reverse, none)
  | '=' :: rest => (before.reverse, some rest)
  | c :: rest => cutAtEquals (c :: before) rest

/-- The form of a word. A single dash is a plain word. -/
def WordForm.of (word : String) : WordForm :=
  match word.toList with
  | ['-', '-'] => .mark
  | '-' :: '-' :: rest =>
    let (name, attached) := cutAtEquals [] rest
    .long (String.ofList name) (attached.map String.ofList)
  | '-' :: letter :: rest => .short letter (String.ofList rest)
  | _ => .plain

/-- A step of scanning: the item that a word makes, or the option whose value it announces. -/
inductive Step where
  | item (item : Item)
  | awaits (shape : OptionShape)

/-- What an option named by a word makes of it. -/
def stepLong (shape : OptionShape) (attached : Option String) : Step :=
  match shape.kind, attached with
  | .flag, none => .item (.option shape .present)
  | .flag, some _ => .item .malformed
  | _, some word => .item (.ofValue shape word)
  | _, none => .awaits shape

/-- What an option named by its letter makes of a word. What is attached to the letter of a flag is
not looked at. -/
def stepShort (shape : OptionShape) (attached : String) : Step :=
  match shape.kind, attached.toList with
  | .flag, _ => .item (.option shape .present)
  | _, [] => .awaits shape
  | _, '=' :: rest => .item (.ofValue shape (String.ofList rest))
  | _, rest => .item (.ofValue shape (String.ofList rest))

/-- The step that a word takes where options of some shapes are known; nothing for the mark. -/
def stepOf (shapes : List OptionShape) (word : String) : Option Step :=
  match WordForm.of word with
  | .mark => none
  | .long name attached =>
    match shapes.find? (·.name == name) with
    | some shape => some (stepLong shape attached)
    | none => some (.item .malformed)
  | .short letter attached =>
    match shapes.find? (·.letter == some letter) with
    | some shape => some (stepShort shape attached)
    | none => some (.item .malformed)
  | .plain => some (.item (.operand word))

/-- Cuts words into items, with the option that awaits its value if there is one. The items end at
the first operand if `leading` is set, and at the first that is malformed; the words from an operand
on at which they end are handed back. -/
def scanFrom (shapes : List OptionShape) (leading : Bool) :
    (awaiting : Option OptionShape) → List String → List Item × List String
  | none, [] => ([], [])
  | some _, [] => ([.malformed], [])
  | some shape, word :: rest =>
    match WordForm.of word, Item.ofValue shape word with
    | .plain, .malformed => ([.malformed], [])
    | .plain, item =>
      let (items, left) := scanFrom shapes leading none rest
      (item :: items, left)
    | _, _ => ([.malformed], [])
  | none, word :: rest =>
    match stepOf shapes word with
    | none => if leading then ([.malformed], []) else (rest.map .operand, [])
    | some (.awaits shape) => scanFrom shapes leading (some shape) rest
    | some (.item .malformed) => ([.malformed], [])
    | some (.item (.operand word)) =>
      if leading then ([], word :: rest)
      else
        let (items, left) := scanFrom shapes leading none rest
        (.operand word :: items, left)
    | some (.item item) =>
      let (items, left) := scanFrom shapes leading none rest
      (item :: items, left)

def scan (shapes : List OptionShape) (words : List String) : List Item :=
  (scanFrom shapes false none words).1

/-- The options before the first operand, and the words from it on. -/
def scanLeading (shapes : List OptionShape) (words : List String) : List Item × List String :=
  scanFrom shapes true none words

/-- Options and operands that were given, in order. -/
structure Given where
  options : List (String × Value) := []
  operands : List String := []

namespace Given

def has (given : Given) (name : String) : Bool :=
  given.options.any (·.1 == name)

def value? (given : Given) (name : String) : Option Value :=
  (given.options.find? (·.1 == name)).map (·.2)

def text? (given : Given) (name : String) : Option String :=
  match given.value? name with
  | some (.text value) => some value
  | _ => none

def number? (given : Given) (name : String) : Option Nat :=
  match given.value? name with
  | some (.number value) => some value
  | _ => none

def numbers (given : Given) (name : String) : List Nat :=
  given.options.flatMap fun
    | (other, .numbers values) => if other = name then values else []
    | _ => []

/-- One item more. Only options that collect numbers may be given again. -/
def add (given : Given) : Item → Option Given
  | .option shape value =>
    let again := match shape.kind with
      | .numbers _ => true
      | _ => !given.has shape.name
    if again then some { given with options := given.options ++ [(shape.name, value)] } else none
  | .operand word => some { given with operands := given.operands ++ [word] }
  | .malformed => none

def ofItems (items : List Item) : Option Given :=
  items.foldlM add {}

end Given

end FramedLink.Tool
