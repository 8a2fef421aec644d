import FramedLink.Frame.Header
import FramedLink.Frame.Integrity
import FramedLink.Payload.Field
import FramedLink.Payload.Region

/-!
# The outgoing region

A region in which one frame at a time is built. Room for the header is kept at its start and room
for the trailer at its end; a cursor between them says where the next field goes. A write that does
not fit is refused and leaves everything as it was. `sealFrame` puts header and trailer around a
payload and hands out the finished frame.
-/

namespace FramedLink

structure Outgoing where
  region : Region
  cursor : Nat
  deriving DecidableEq

namespace Outgoing

/-- An empty region of a size; a size below that of an empty frame is raised to it. -/
def ofCapacity (size : Nat) : Outgoing :=
  ⟨.zeros (max size frameOverhead), headerSize⟩

def capacity (out : Outgoing) : Nat :=
  out.region.size

/-- Where writing has to stop, so that the trailer still fits. -/
def limit (out : Outgoing) : Nat :=
  out.region.size - trailerSize

/-- Octets of the largest payload that a frame built here can carry. -/
def payloadCapacity (out : Outgoing) : Nat :=
  out.region.size - frameOverhead

def payloadSize (out : Outgoing) : Nat :=
  out.cursor - headerSize

def remaining (out : Outgoing) : Nat :=
  out.limit - out.cursor

/-- The octets written since the last reset. -/
def payload (out : Outgoing) : Bytes :=
  out.region.slice headerSize out.cursor

/-- The first `size` octets of the payload's place, whether or not they were written. -/
def payloadOf (out : Outgoing) (size : Nat) : Bytes :=
  out.region.slice headerSize (headerSize + size)

def reset (out : Outgoing) : Outgoing :=
  { out with cursor := headerSize }

def advance (out : Outgoing) (needed : Nat) : Except FrameError Nat :=
  if out.cursor + needed ≤ out.limit then .ok (out.cursor + needed)
  else .error (.overflow out.cursor needed out.limit)

def writeBytes (out : Outgoing) (octets : Bytes) : Except FrameError Outgoing :=
  (out.advance octets.length).map fun cursor ↦
    { region := out.region.overwrite out.cursor octets, cursor }

/-- Writes a field at the cursor. A character without a form of its own is refused before the room
for it is looked at. -/
def write (out : Outgoing) (field : Field) : Except FrameError Outgoing :=
  field.encode.bind out.writeBytes

/-- Passes over octets without writing them, so that they can be patched later. -/
def skip (out : Outgoing) (count : Nat) : Except FrameError Outgoing :=
  (out.advance count).map fun cursor ↦ { out with cursor }

/-- Writes over the payload from an offset in it on; what would pass its end is dropped. -/
def patch (out : Outgoing) (offset : Nat) (octets : Bytes) : Outgoing :=
  { out with
    region := out.region.overwrite (headerSize + offset) (octets.take (out.payloadSize - offset)) }

/-- Copies octets behind the cursor without moving it; what does not fit is dropped. -/
def fillSpare (out : Outgoing) (octets : Bytes) : Outgoing :=
  { out with region := out.region.overwrite out.cursor (octets.take out.remaining) }

/-- Builds the frame of the first `size` octets of payload: the frame, and the region that now holds
it. The cursor stays. -/
def sealFrame (out : Outgoing) (type id : UInt8) (size : Nat) (mode : Integrity) :
    Except FrameError (Bytes × Outgoing) :=
  if size ≤ maxPayload ∧ size ≤ out.payloadCapacity then
    let header := Header.plain type id (UInt16.ofNat size)
    let headed := out.region.overwrite 0 header.encode
    let bodySize := headerSize + size
    let trailer := mode.trailer (headed.slice 0 bodySize)
    let sealed := headed.overwrite bodySize (LittleEndian.digits trailerSize trailer.toNat)
    .ok (sealed.slice 0 (bodySize + trailerSize), { out with region := sealed })
  else .error (.tooLarge size out.payloadCapacity)

/-- The header of a frame is written over the front of the region. -/
theorem encodeInto_region (header : Header) {region : Region} (h : headerSize ≤ region.size) :
    header.encodeInto region.toList = .ok (region.overwrite 0 header.encode).toList := by
  have hroom : 0 + header.encode.length ≤ region.size := by
    rwa [Header.length_encode, Nat.zero_add]
  calc
    header.encodeInto region.toList = .ok (header.encode ++ region.toList.drop headerSize) :=
      if_pos (by rwa [Array.length_toList])
    _ = .ok (region.overwrite 0 header.encode).toList := by
      rw [Region.toList_overwrite hroom, List.take_zero, List.nil_append, Nat.zero_add,
        Header.length_encode]

/-- Writes fields in order up to the first that is refused. -/
def writeAll (out : Outgoing) : List Field → Except FrameError Unit × Outgoing
  | [] => (.ok (), out)
  | field :: rest =>
    match out.write field with
    | .ok out => out.writeAll rest
    | .error e => (.error e, out)

/-! ## Operations as data -/

inductive Op where
  | write (field : Field)
  | skip (count : Nat)
  | reset
  | patch (offset : Nat) (octets : Bytes)
  | fillSpare (octets : Bytes)
  | sealFrame (type id : UInt8) (size : Nat) (mode : Integrity)

/-- What is answered: whether a write was done, how much room there was to spare, the frame. -/
@[reducible]
def Op.Answer : Op → Type
  | .write _ | .skip _ => Except FrameError Unit
  | .reset | .patch .. => Unit
  | .fillSpare _ => Nat
  | .sealFrame .. => Except FrameError Bytes

def perform (out : Outgoing) : (op : Op) → op.Answer × Outgoing
  | .write field =>
    match out.write field with
    | .ok next => (.ok (), next)
    | .error e => (.error e, out)
  | .skip count =>
    match out.skip count with
    | .ok next => (.ok (), next)
    | .error e => (.error e, out)
  | .reset => ((), out.reset)
  | .patch offset octets => ((), out.patch offset octets)
  | .fillSpare octets => (out.remaining, out.fillSpare octets)
  | .sealFrame type id size mode =>
    match out.sealFrame type id size mode with
    | .ok (frame, next) => (.ok frame, next)
    | .error e => (.error e, out)

end Outgoing

end FramedLink
