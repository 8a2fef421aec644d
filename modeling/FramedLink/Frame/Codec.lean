import FramedLink.Frame.Header
import FramedLink.Frame.Integrity

/-!
# Frames as octets

A frame is a header, as many octets of payload as the header announces, and a trailer. `encode`
writes one frame; `decode` takes one from the front of a buffer, and hands back what follows it. A
buffer that holds only the beginning of a frame is no error, and on an error nothing is taken.
`appendTo` and `takeFrom` do the same to a buffer that others write to and read from as well.
-/

namespace FramedLink

/-- A frame outside any link: its header and its payload. -/
structure Frame where
  header : Header
  payload : Bytes
  deriving DecidableEq, Repr

namespace Frame

/-- A frame for a payload, if the length field can announce it. -/
def ofPayload (type id : UInt8) (payload : Bytes) : Except FrameError Frame :=
  let size := payload.length
  if size ≤ maxPayload then .ok ⟨.plain type id (UInt16.ofNat size), payload⟩
  else .error (.tooLarge size maxPayload)

def wireSize (frame : Frame) : Nat :=
  frame.header.frameSize

def body (frame : Frame) : Bytes :=
  frame.header.encode ++ frame.payload

/-- A frame with the trailer of a mode. -/
def wire (mode : Integrity) (frame : Frame) : Bytes :=
  frame.body ++ LittleEndian.digits 2 (mode.trailer frame.body).toNat

def encode (type id : UInt8) (payload : Bytes) (mode : Integrity) : Except FrameError Bytes :=
  (ofPayload type id payload).map (wire mode)

/-- Takes one frame from the front of a buffer: the frame and what follows it, or nothing while the
buffer ends before the frame does. -/
def decode (buffer : Bytes) (max : Nat) (mode : Integrity) :
    Except FrameError (Option (Frame × Bytes)) :=
  if buffer.length < headerSize then .ok none
  else
    match Header.decode buffer with
    | .error e => .error e
    | .ok header =>
      if max < header.payloadSize then .error (.tooLarge header.payloadSize max)
      else if buffer.length < header.frameSize then .ok none
      else
        let bodySize := headerSize + header.payloadSize
        let received := UInt16.ofNat
          (LittleEndian.value ((buffer.drop bodySize).take trailerSize))
        match mode.verify (buffer.take bodySize) received with
        | .error e => .error e
        | .ok () =>
          .ok (some (⟨header, (buffer.drop headerSize).take header.payloadSize⟩,
            buffer.drop header.frameSize))

/-- Appends the frame that carries a payload to a buffer. The trailer covers what is appended and
nothing before it. A payload that no frame can carry leaves the buffer as it was. -/
def appendTo (buffer : Bytes) (type id : UInt8) (payload : Bytes) (mode : Integrity) :
    Except FrameError Unit × Bytes :=
  let size := payload.length
  if size ≤ maxPayload then
    let start := buffer.length
    let grown := buffer ++ (Header.plain type id (UInt16.ofNat size)).encode ++ payload
    let trailer := mode.trailer (grown.drop start)
    (.ok (), grown ++ LittleEndian.digits trailerSize trailer.toNat)
  else (.error (.tooLarge size maxPayload), buffer)

/-- Takes one frame out of the front of a buffer, which keeps what follows the frame. Without a
whole frame, and on an error, the buffer stays as it is. -/
def takeFrom (buffer : Bytes) (max : Nat) (mode : Integrity) :
    Except FrameError (Option Frame) × Bytes :=
  match decode buffer max mode with
  | .ok (some (frame, rest)) => (.ok (some frame), rest)
  | .ok none => (.ok none, buffer)
  | .error error => (.error error, buffer)

/-- To append a frame is to put its octets behind the buffer. -/
theorem appendTo_eq (buffer : Bytes) (type id : UInt8) (payload : Bytes) (mode : Integrity) :
    appendTo buffer type id payload mode =
      match encode type id payload mode with
      | .ok octets => (.ok (), buffer ++ octets)
      | .error error => (.error error, buffer) := by
  unfold appendTo encode ofPayload
  dsimp only
  by_cases hmax : payload.length ≤ maxPayload
  · simp only [if_pos hmax, Except.map, List.append_assoc, List.drop_left, wire, body,
      trailerSize]
  · simp only [if_neg hmax, Except.map]

/-- What is encoded is the frame of a payload that the length field can announce. -/
theorem wire_of_encode {type id : UInt8} {payload octets : Bytes} {mode : Integrity}
    (h : encode type id payload mode = .ok octets) :
    octets = (Frame.mk (.plain type id (UInt16.ofNat payload.length)) payload).wire mode ∧
      payload.length ≤ maxPayload := by
  unfold encode ofPayload at h
  dsimp only at h
  split at h
  case isTrue hmax => exact ⟨(Except.ok.inj h).symm, hmax⟩
  case isFalse => cases h

theorem length_wire (mode : Integrity) (frame : Frame) :
    (frame.wire mode).length = frame.payload.length + frameOverhead := by
  simp only [wire, body, List.length_append, Header.length_encode, LittleEndian.length_digits,
    frameOverhead, trailerSize]
  omega

/-- The header of an encoded frame is read back, whatever follows the frame. -/
theorem decode_wire_append (mode : Integrity) (frame : Frame) (rest : Bytes) :
    Header.decode (frame.wire mode ++ rest) = .ok frame.header := by
  rw [wire, body, List.append_assoc, List.append_assoc, Header.decode_encode_append]

end Frame

end FramedLink
