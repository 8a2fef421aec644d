import FramedLink.Payload.Incoming
import FramedLink.Payload.Outgoing

/-!
# Connect messages

The payload of a handshake, the same for request and response: the sender's connection id, the
largest payload it can receive, and its connection type, little-endian in this order. There are two
ways to write and to read it, as plain octets and through the cursors of a region; what is behind
the eighth octet of a longer payload is ignored by both.
-/

namespace FramedLink

/-- What one end of a link says about itself. -/
structure ConnectMessage where
  connId : UInt32
  limit : UInt16
  connType : UInt16
  deriving DecidableEq, Repr

namespace ConnectMessage

def size : Nat := 8

open LittleEndian in
def encode (message : ConnectMessage) : Bytes :=
  digits 4 message.connId.toNat ++ digits 2 message.limit.toNat ++ digits 2 message.connType.toNat

theorem length_encode (message : ConnectMessage) : message.encode.length = size := by
  simp [encode, size]

open LittleEndian in
/-- The message at the front of a payload, if the payload is long enough. -/
def decode? : Bytes → Option ConnectMessage
  | a :: b :: c :: d :: e :: f :: g :: h :: _ =>
    some ⟨UInt32.ofNat (value [a, b, c, d]), word16 e f, word16 g h⟩
  | _ => none

def fields (message : ConnectMessage) : List Field :=
  [.uint32 message.connId, .uint16 message.limit, .uint16 message.connType]

def layout : List FieldType :=
  [.uint32, .uint16, .uint16]

def ofFields? : List Field → Option ConnectMessage
  | [.uint32 connId, .uint16 limit, .uint16 connType] => some ⟨connId, limit, connType⟩
  | _ => none

/-- Writes a message at the cursor, field by field. -/
def write (message : ConnectMessage) (out : Outgoing) : Except FrameError Unit × Outgoing :=
  out.writeAll message.fields

open LittleEndian in
/-- Reads a message at the cursor, field by field. Fields read before a refusal stay read. -/
def read (inc : Incoming) : Except FrameError ConnectMessage × Incoming :=
  match inc.take 4 with
  | .error e => (.error e, inc)
  | .ok (connId, inc) =>
    match inc.take 2 with
    | .error e => (.error e, inc)
    | .ok (limit, inc) =>
      match inc.take 2 with
      | .error e => (.error e, inc)
      | .ok (connType, inc) =>
        (.ok ⟨UInt32.ofNat (value connId), UInt16.ofNat (value limit),
          UInt16.ofNat (value connType)⟩, inc)

end ConnectMessage

end FramedLink
