import FramedLink.Frame.Error
import FramedLink.LittleEndian

/-!
# Frame headers

A header is eight octets: the start marker, the message type, the message id, a reserved octet, the
payload length and a reserved word, both words little-endian. Reserved fields are zero in every
frame that is sent, and are kept as they came in every frame that is received.
-/

namespace FramedLink

def headerSize : Nat := 8

def trailerSize : Nat := 2

/-- Octets of a frame that are not payload. -/
def frameOverhead : Nat := headerSize + trailerSize

/-- The octet that begins every frame. -/
def startMarker : UInt8 := 0x23

/-- The largest payload that the length field can announce. -/
def maxPayload : Nat := 65535

structure Header where
  type : UInt8
  id : UInt8
  length : UInt16
  reserved1 : UInt8
  reserved2 : UInt16
  deriving DecidableEq, Repr

namespace Header

/-- The header of a frame to be sent. -/
def plain (type id : UInt8) (length : UInt16) : Header :=
  { type, id, length, reserved1 := 0, reserved2 := 0 }

def payloadSize (header : Header) : Nat :=
  header.length.toNat

def frameSize (header : Header) : Nat :=
  header.payloadSize + frameOverhead

open LittleEndian in
def encode (header : Header) : Bytes :=
  [startMarker, header.type, header.id, header.reserved1] ++
    digits 2 header.length.toNat ++ digits 2 header.reserved2.toNat

/-- Writes a header over the front of a destination. One that is too short is left alone. -/
def encodeInto (header : Header) (destination : Bytes) : Except FrameError Bytes :=
  if headerSize ≤ destination.length then .ok (header.encode ++ destination.drop headerSize)
  else .error (.overflow 0 headerSize destination.length)

open LittleEndian in
/-- Reads a header from the front of some octets. -/
def decode : Bytes → Except FrameError Header
  | marker :: type :: id :: reserved1 :: low :: high :: low' :: high' :: _ =>
    if marker = startMarker then
      .ok { type, id, length := word16 low high, reserved1, reserved2 := word16 low' high' }
    else .error (.badMarker marker)
  | short => .error (.incomplete short.length headerSize)

@[simp]
theorem length_encode (header : Header) : header.encode.length = headerSize := by
  simp [encode, headerSize]

/-- A header is read back from its octets, whatever follows them. -/
theorem decode_encode_append (header : Header) (rest : Bytes) :
    decode (header.encode ++ rest) = .ok header := by
  obtain ⟨type, id, length, reserved1, reserved2⟩ := header
  simp [encode, decode, LittleEndian.digits]

/-- A header that was written over the front is read back, and the destination keeps its size. -/
theorem decode_encodeInto {header : Header} {destination written : Bytes}
    (h : header.encodeInto destination = .ok written) :
    decode written = .ok header ∧ written.length = destination.length := by
  unfold encodeInto at h
  split at h
  case isTrue hroom =>
    cases h
    refine ⟨decode_encode_append header _, ?_⟩
    rw [List.length_append, length_encode, List.length_drop, Nat.add_sub_cancel' hroom]
  case isFalse => cases h

/-- A header that was read has all its octets. -/
theorem length_of_decode {octets : Bytes} {header : Header}
    (h : decode octets = .ok header) : headerSize ≤ octets.length := by
  unfold decode at h
  split at h
  · exact Nat.le_add_left _ _
  · cases h

/-- The octets from which a header is read are its octets. -/
theorem encode_of_decode {octets : Bytes} {header : Header} (h : decode octets = .ok header) :
    header.encode = octets.take headerSize := by
  unfold decode at h
  split at h
  case h_1 marker type id reserved1 low high low' high' rest =>
    split at h
    case isTrue hmarker =>
      cases h
      simp [encode, LittleEndian.digits_word16, hmarker, headerSize]
    case isFalse => cases h
  case h_2 => cases h

end Header

end FramedLink
