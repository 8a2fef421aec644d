import FramedLink.Frame.Error
import FramedLink.LittleEndian

/-!
# Fields of a payload

A payload is a sequence of fields: integers of fixed width, truth values, characters of one octet,
and plain octets. Fields are not marked in the payload, so a reader names the type of each field it
expects. A field is read back from its octets by its own type.
-/

namespace FramedLink

/-- The type of a field. Plain octets come in a stated number. -/
inductive FieldType where
  | int8
  | uint8
  | int16
  | uint16
  | int32
  | uint32
  | bool
  | char
  | bytes (count : Nat)
  deriving DecidableEq, Repr

inductive Field where
  | int8 (value : Int8)
  | uint8 (value : UInt8)
  | int16 (value : Int16)
  | uint16 (value : UInt16)
  | int32 (value : Int32)
  | uint32 (value : UInt32)
  | bool (value : Bool)
  | char (value : Char)
  | bytes (value : Bytes)
  deriving DecidableEq

open LittleEndian

def FieldType.size : FieldType → Nat
  | .int8 | .uint8 | .bool | .char => 1
  | .int16 | .uint16 => 2
  | .int32 | .uint32 => 4
  | .bytes count => count

/-- The field of a type that octets hold. Any octet but zero is the truth value true. -/
def FieldType.decode : FieldType → Bytes → Field
  | .int8, octets => .int8 (UInt8.ofNat (value octets)).toInt8
  | .uint8, octets => .uint8 (UInt8.ofNat (value octets))
  | .int16, octets => .int16 (UInt16.ofNat (value octets)).toInt16
  | .uint16, octets => .uint16 (UInt16.ofNat (value octets))
  | .int32, octets => .int32 (UInt32.ofNat (value octets)).toInt32
  | .uint32, octets => .uint32 (UInt32.ofNat (value octets))
  | .bool, octets => .bool (value octets != 0)
  | .char, octets => .char (Char.ofNat (value octets))
  | .bytes _, octets => .bytes octets

def Field.type : Field → FieldType
  | .int8 _ => .int8
  | .uint8 _ => .uint8
  | .int16 _ => .int16
  | .uint16 _ => .uint16
  | .int32 _ => .int32
  | .uint32 _ => .uint32
  | .bool _ => .bool
  | .char _ => .char
  | .bytes value => .bytes value.length

/-- The octets of a field. Only characters up to code point 255 have a form of one octet. -/
def Field.encode : Field → Except FrameError Bytes
  | .int8 value => .ok (digits 1 value.toUInt8.toNat)
  | .uint8 value => .ok (digits 1 value.toNat)
  | .int16 value => .ok (digits 2 value.toUInt16.toNat)
  | .uint16 value => .ok (digits 2 value.toNat)
  | .int32 value => .ok (digits 4 value.toUInt32.toNat)
  | .uint32 value => .ok (digits 4 value.toNat)
  | .bool value => .ok (digits 1 value.toNat)
  | .char value =>
    if value.toNat < 256 then .ok (digits 1 value.toNat) else .error (.wideCharacter value)
  | .bytes value => .ok value

/-- A field that can be written takes as many octets as its type says. -/
theorem Field.length_of_encode {field : Field} {octets : Bytes} (h : field.encode = .ok octets) :
    octets.length = field.type.size := by
  cases field <;> simp only [encode, Field.type, FieldType.size] at h ⊢
  case char value =>
    split at h
    · cases h
      simp
    · cases h
  all_goals
    cases h
    simp

end FramedLink
