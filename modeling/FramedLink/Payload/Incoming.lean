import FramedLink.Frame.Header
import FramedLink.Payload.Field
import FramedLink.Payload.Region

/-!
# The incoming region

A region in which a frame is collected. Raw octets are stored from outside at any position. Once a
frame is complete its payload is opened: readers then see exactly that stretch, from a cursor that
moves with every field read. A read that would pass the end of the payload is refused and leaves
everything as it was.
-/

namespace FramedLink

/-- An incoming region, with the cursor and the end of the open payload. -/
structure Incoming where
  region : Region
  cursor : Nat
  limit : Nat
  deriving DecidableEq

namespace Incoming

/-- An empty region of a size; a size below that of an empty frame is raised to it. -/
def ofCapacity (size : Nat) : Incoming :=
  ⟨.zeros (max size frameOverhead), headerSize, headerSize⟩

def capacity (inc : Incoming) : Nat :=
  inc.region.size

def checkSlot (inc : Incoming) (offset size : Nat) : Except FrameError Unit :=
  if offset + size ≤ inc.capacity then .ok () else .error (.overflow offset size inc.capacity)

def store (inc : Incoming) (offset : Nat) (octets : Bytes) : Incoming :=
  { inc with region := inc.region.overwrite offset octets }

/-- Moves what follows the first `count` of the `filled` octets at the front of the region to the
front. -/
def discardFront (inc : Incoming) (count filled : Nat) : Incoming :=
  let filled := min filled inc.capacity
  let count := min count filled
  inc.store 0 (inc.region.slice count filled)

/-- Opens a payload of a size, as far as the region reaches, and moves the cursor to its start. -/
def openPayload (inc : Incoming) (size : Nat) : Incoming :=
  { inc with cursor := headerSize, limit := min (headerSize + size) inc.capacity }

def rewind (inc : Incoming) : Incoming :=
  { inc with cursor := headerSize }

/-- Closes the payload. -/
def reset (inc : Incoming) : Incoming :=
  { inc with cursor := headerSize, limit := headerSize }

def payloadSize (inc : Incoming) : Nat :=
  inc.limit - headerSize

def remaining (inc : Incoming) : Nat :=
  inc.limit - inc.cursor

def payload (inc : Incoming) : Bytes :=
  inc.region.slice headerSize inc.limit

/-- The part of the open payload that was not read yet. -/
def unread (inc : Incoming) : Bytes :=
  inc.region.slice inc.cursor inc.limit

/-- The cursor after `needed` more octets, if the payload has them. -/
def advance (inc : Incoming) (needed : Nat) : Except FrameError Nat :=
  if inc.cursor + needed ≤ inc.limit then .ok (inc.cursor + needed)
  else .error (.underflow inc.cursor needed inc.limit)

def take (inc : Incoming) (count : Nat) : Except FrameError (Bytes × Incoming) :=
  (inc.advance count).map fun cursor ↦
    (inc.region.slice inc.cursor cursor, { inc with cursor })

def read (inc : Incoming) (type : FieldType) : Except FrameError (Field × Incoming) :=
  (inc.take type.size).map fun (octets, next) ↦ (type.decode octets, next)

def skip (inc : Incoming) (count : Nat) : Except FrameError Incoming :=
  (inc.advance count).map fun cursor ↦ { inc with cursor }

/-- Reads fields in order up to the first that is refused. -/
def readAll (inc : Incoming) : List FieldType → Except FrameError (List Field) × Incoming
  | [] => (.ok [], inc)
  | type :: rest =>
    match inc.read type with
    | .error e => (.error e, inc)
    | .ok (field, next) =>
      match next.readAll rest with
      | (.ok fields, last) => (.ok (field :: fields), last)
      | (.error e, last) => (.error e, last)

/-! ## Operations as data -/

/-- What the owner of an incoming region can ask of it. -/
inductive Op where
  | read (type : FieldType)
  | skip (count : Nat)
  | store (offset : Nat) (octets : Bytes)
  | slot (offset size : Nat)
  | openPayload (size : Nat)
  | rewind
  | reset
  | discardFront (count filled : Nat)

@[reducible]
def Op.Answer : Op → Type
  | .read _ => Except FrameError Field
  | .skip _ | .store .. => Except FrameError Unit
  | .slot .. => Except FrameError Bytes
  | .openPayload _ | .rewind | .reset | .discardFront .. => Unit

/-- Carries an operation out. An operation that is refused leaves the region alone. -/
def perform (inc : Incoming) : (op : Op) → op.Answer × Incoming
  | .read type =>
    match inc.read type with
    | .ok (field, next) => (.ok field, next)
    | .error e => (.error e, inc)
  | .skip count =>
    match inc.skip count with
    | .ok next => (.ok (), next)
    | .error e => (.error e, inc)
  | .store offset octets =>
    match inc.checkSlot offset octets.length with
    | .ok () => (.ok (), inc.store offset octets)
    | .error e => (.error e, inc)
  | .slot offset size =>
    match inc.checkSlot offset size with
    | .ok () => (.ok (inc.region.slice offset (offset + size)), inc)
    | .error e => (.error e, inc)
  | .openPayload size => ((), inc.openPayload size)
  | .rewind => ((), inc.rewind)
  | .reset => ((), inc.reset)
  | .discardFront count filled => ((), inc.discardFront count filled)

end Incoming

end FramedLink
