import FramedLink.LittleEndian

/-!
# Text as octets

Encoding text in UTF-8 and reading it back. The reader refuses overlong forms, surrogates and code
points beyond the last one, and says where the first fault lies: either a sequence that can not be
continued to a character, with the number of octets up to the one that breaks it, or a text that
ends inside a sequence.
-/

namespace FramedLink.Text.Utf8

inductive Fault where
  /-- The octets from `index` on do not begin a character; `length` of them belong together. -/
  | invalid (length index : Nat)
  /-- The text ends inside the character that begins at `index`. -/
  | incomplete (index : Nat)
  deriving DecidableEq, Repr

def Fault.message : Fault → String
  | .invalid length index =>
    s!"invalid utf-8 sequence of {length} bytes from index {index}"
  | .incomplete index => s!"incomplete utf-8 byte sequence from index {index}"

def encode (text : String) : Bytes :=
  text.toUTF8.toList

/-- How many octets follow the first one of a character. -/
def trailCount (lead : UInt8) : Option Nat :=
  if 0xc2 ≤ lead ∧ lead ≤ 0xdf then some 1
  else if 0xe0 ≤ lead ∧ lead ≤ 0xef then some 2
  else if 0xf0 ≤ lead ∧ lead ≤ 0xf4 then some 3
  else none

def isTrail (b : UInt8) : Bool :=
  0x80 ≤ b && b ≤ 0xbf

/-- Whether an octet can stand second after a given first one. The narrower bounds keep out overlong
forms, surrogates and code points beyond the last one. -/
def isSecond (lead b : UInt8) : Bool :=
  isTrail b &&
    (lead != 0xe0 || 0xa0 ≤ b) && (lead != 0xed || b ≤ 0x9f) &&
    (lead != 0xf0 || 0x90 ≤ b) && (lead != 0xf4 || b ≤ 0x8f)

def trailBits (b : UInt8) : Nat :=
  b.toNat % 64

/-- Reads characters, with those before in `read`, newest first, and the position in `index`. -/
def decodeFrom (index : Nat) (read : List Char) : Bytes → Except Fault (List Char)
  | [] => .ok read.reverse
  | a :: rest =>
    if a < 0x80 then decodeFrom (index + 1) (Char.ofNat a.toNat :: read) rest
    else
      match trailCount a with
      | some 1 =>
        match rest with
        | [] => .error (.incomplete index)
        | b :: rest =>
          if !isSecond a b then .error (.invalid 1 index)
          else decodeFrom (index + 2) (Char.ofNat (a.toNat % 32 * 64 + trailBits b) :: read) rest
      | some 2 =>
        match rest with
        | [] => .error (.incomplete index)
        | b :: rest =>
          if !isSecond a b then .error (.invalid 1 index)
          else
            match rest with
            | [] => .error (.incomplete index)
            | c :: rest =>
              if !isTrail c then .error (.invalid 2 index)
              else
                decodeFrom (index + 3)
                  (Char.ofNat ((a.toNat % 16 * 64 + trailBits b) * 64 + trailBits c) :: read) rest
      | some _ =>
        match rest with
        | [] => .error (.incomplete index)
        | b :: rest =>
          if !isSecond a b then .error (.invalid 1 index)
          else
            match rest with
            | [] => .error (.incomplete index)
            | c :: rest =>
              if !isTrail c then .error (.invalid 2 index)
              else
                match rest with
                | [] => .error (.incomplete index)
                | d :: rest =>
                  if !isTrail d then .error (.invalid 3 index)
                  else
                    decodeFrom (index + 4)
                      (Char.ofNat
                        (((a.toNat % 8 * 64 + trailBits b) * 64 + trailBits c) * 64 + trailBits d)
                        :: read) rest
      | none => .error (.invalid 1 index)

/-- The text that octets encode, or the first fault. -/
def decode (bytes : Bytes) : Except Fault String :=
  (decodeFrom 0 [] bytes).map String.ofList

end FramedLink.Text.Utf8
