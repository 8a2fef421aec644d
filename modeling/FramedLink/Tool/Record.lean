import FramedLink.Bench
import FramedLink.Channel.RegularFile
import FramedLink.Text.Blank
import FramedLink.Text.Hex

/-!
# Records of frames

What the tool keeps of each frame that an endpoint receives, and the surroundings in which it keeps
them: a bench whose journal holds the records, newest first. A handler that only makes a record is
registered for each type that is of interest.
-/

namespace FramedLink.Tool

structure FrameRecord where
  type : UInt8
  id : UInt8
  payload : Bytes
  deriving DecidableEq, Repr

namespace FrameRecord

def size (record : FrameRecord) : Nat :=
  record.payload.length

/-- The payload as people want to see it: as text if it is text without controls, and otherwise as
hex text. -/
def preview (record : FrameRecord) : String :=
  match Text.Utf8.decode record.payload with
  | .ok text =>
    if text.toList.any Text.isControl then Text.Hex.encode record.payload " " else text
  | .error _ => Text.Hex.encode record.payload " "

end FrameRecord

/-- Surroundings with a journal of records. -/
abbrev Desk := Bench RegularFile FrameRecord

def recordPacket (header : Header) : Program Desk :=
  .inspect fun station ↦
    .outside (Bench.write ⟨header.type, header.id, station.reception.region.payload⟩) fun _ ↦
      .finish (.ok ())

def allTypes : List UInt8 :=
  (List.range 256).map UInt8.ofNat

/-- An endpoint that also makes records of the packets of some types. -/
def recordTypes (types : List UInt8) (endpoint : Endpoint Desk) : Endpoint Desk :=
  types.foldl (fun endpoint type ↦ endpoint.addHandler type recordPacket) endpoint

end FramedLink.Tool
