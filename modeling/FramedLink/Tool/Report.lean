import FramedLink.Text.Json
import FramedLink.Text.Table
import FramedLink.Tool.Input
import FramedLink.Tool.Record
import FramedLink.Tool.Rehearsal

/-!
# Reports

How results are written to the standard output, in each layout: as JSON objects, as ruled tables, as
short lines, or as the octets themselves. Lines end in a line end; octets stand as they are.
-/

namespace FramedLink.Tool

open Text (Json Table)

def line (text : String) : Bytes :=
  Text.Utf8.encode (text ++ "\n")

def lines (texts : List String) : Bytes :=
  texts.flatMap line

def cell (n : Nat) : String := toString n

namespace FrameRecord

/-- The members of a record, without the time. -/
def members (record : FrameRecord) : List (String × Json) :=
  [("msg_type", .natural record.type.toNat), ("kind", .text (MessageType.name record.type)),
   ("msg_id", .natural record.id.toNat), ("len", .natural record.size),
   ("payload", .text record.preview)]

/-- A record that was made at a time, in seconds. -/
def toJson (time : Nat) (record : FrameRecord) : Json :=
  .object (record.members ++ [("received_at", .natural time)])

def row (record : FrameRecord) : List String :=
  [cell record.type.toNat, MessageType.name record.type, cell record.id.toNat, cell record.size,
   record.preview]

def summary (record : FrameRecord) : String :=
  s!"type={record.type.toNat} ({MessageType.name record.type}) id={record.id.toNat} " ++
    s!"size={record.size} payload={record.preview}"

def report (layout : Layout) (time : Nat) (records : List FrameRecord) : Bytes :=
  match layout with
  | .json => lines (records.map fun record ↦ (record.toJson time).render)
  | .table =>
    line (Table.draw ⟨["TYPE", "KIND", "ID", "SIZE", "PAYLOAD"], records.map row⟩)
  | .pretty => lines (records.map summary)
  | .raw => records.flatMap payload

end FrameRecord

def EncodedFrame.report (layout : Layout) (frame : EncodedFrame) : Bytes :=
  let hex := Text.Hex.encode frame.wire " "
  match layout with
  | .json =>
    line (Json.render (.object
      [("msg_type", .natural frame.type.toNat), ("msg_id", .natural frame.id.toNat),
       ("len", .natural frame.size), ("hex", .text hex)]))
  | .table =>
    line (Table.draw ⟨["TYPE", "ID", "SIZE", "FRAME"],
      [[cell frame.type.toNat, cell frame.id.toNat, cell frame.size, hex]]⟩)
  | .pretty => line hex
  | .raw => frame.wire

/-- A report on counters. Octets alone leave no room for it. -/
def reportCounters (layout : Layout) (counters : Counters) : Bytes :=
  match layout with
  | .json =>
    line (Json.render (.object (counters.entries.map fun (name, n) ↦ (name, .natural n))))
  | .table =>
    line (Table.draw ⟨["COUNTER", "VALUE"], counters.entries.map fun (name, n) ↦ [name, cell n]⟩)
  | .pretty =>
    line (" ".intercalate (counters.entries.map fun (name, n) ↦ name ++ "=" ++ toString n))
  | .raw => []

def showConnId (id : UInt32) : String :=
  "0x" ++ Text.hexPadded 8 id.toNat

def messageJson (message : ConnectMessage) : Json :=
  .object
    [("conn_id", .natural message.connId.toNat), ("max_payload", .natural message.limit.toNat),
     ("conn_type", .natural message.connType.toNat)]

def messageRow (direction : String) (message : ConnectMessage) : List String :=
  [direction, showConnId message.connId, cell message.limit.toNat, cell message.connType.toNat]

def showBool (b : Bool) : String :=
  if b then "true" else "false"

def HandshakeReport.report (layout : Layout) (handshake : HandshakeReport) : Bytes :=
  let requestHex := Text.Hex.encode handshake.requestWire " "
  let responseHex := Text.Hex.encode handshake.responseWire " "
  match layout with
  | .json =>
    line (Json.render (.object
      [("request", messageJson handshake.request), ("response", messageJson handshake.response),
       ("request_hex", .text requestHex), ("response_hex", .text responseHex),
       ("device_saw_reset", .bool handshake.deviceSawReset),
       ("host_connected", .bool handshake.hostConnected)]))
  | .table =>
    line (Table.draw ⟨["DIRECTION", "CONN ID", "MAX PAYLOAD", "CONN TYPE"],
      [messageRow "request" handshake.request, messageRow "response" handshake.response]⟩)
  | .pretty | .raw =>
    lines
      ["request:  " ++ requestHex, "response: " ++ responseHex,
       "device: remote conn_id=" ++ showConnId handshake.request.connId ++ " reset=" ++
         showBool handshake.deviceSawReset,
       "host: connected=" ++ showBool handshake.hostConnected]

/-- The tool and its version. -/
def banner : String := "serialmsg 0.1.0"

/-- What the tool is made of. -/
def description : List String :=
  ["name: serialmsg", "version: 0.1.0", "features: service=true, cli=true",
   s!"defaults: buf_size={({} : Config).inSize} " ++
     s!"stall_timeout_ms={({} : Config).stallTimeout.toNat}"]

end FramedLink.Tool
