import FramedLink.Endpoint.ConnectMessage
import FramedLink.Endpoint.Counters
import FramedLink.Endpoint.Error
import FramedLink.Frame.MessageType
import FramedLink.Text.Json
import FramedLink.Text.Lines

/-!
# Events

What a link and the tools around it report while they work. An event is a value; its level, its
wording and its named particulars are functions of it, and an entry of the log, as plain text or as
a JSON object, is made from these three. Of the payload of a frame the particulars tell only the
length.
-/

namespace FramedLink

/-- How much an event matters, most severe first. -/
inductive Level where
  | error
  | warn
  | info
  | debug
  | trace
  deriving DecidableEq, Repr

namespace Level

def rank : Level → Nat
  | .error => 0
  | .warn => 1
  | .info => 2
  | .debug => 3
  | .trace => 4

def name : Level → String
  | .error => "ERROR"
  | .warn => "WARN"
  | .info => "INFO"
  | .debug => "DEBUG"
  | .trace => "TRACE"

/-- Whether a log that goes down to `threshold`, if it shows anything, shows this level. -/
def shownAt (level : Level) (threshold : Option Level) : Bool :=
  threshold.any (level.rank ≤ ·.rank)

end Level

inductive Event where
  | created (connId : UInt32) (config : Config)
  /-- A packet is handed to the handlers of its type. -/
  | dispatching (header : Header) (payload : Bytes)
  | unhandled (type : UInt8)
  /-- The channel took a whole frame. -/
  | sent (type id : UInt8) (payload : Bytes)
  | requestReceived (id : UInt8) (message : ConnectMessage)
  | responseReceived (id : UInt8) (message : ConnectMessage)
  | noiseDiscarded (error : FrameError)
  | oversize (type : UInt8) (length : UInt16) (max : Nat)
  | stalled (buffered expected : Nat) (timeout : Millis)
  | badTrailer (error : FrameError)
  | unreadableHeader (error : FrameError)
  | handlerFailed (header : Header) (error : EndpointError)
  | peerReset (previous connId : UInt32) (connType : UInt16)
  | connected (message : ConnectMessage)
  | peerSilent (remoteId : UInt32) (timeout : Millis)
  | disconnected (remoteId newId : UInt32)
  | streamEnded
  | inputTruncated (buffered : Nat)
  | listening (device : String) (connId : UInt32) (limit : UInt16)
  | deviceAnnounced
  | deviceConnected (connId : UInt32) (connType : UInt16)
  | deviceDisconnected (connId : UInt32)
  | deviceClosed
  | listenFinished (counters : Counters)
  deriving DecidableEq

namespace Event

/-- A particular of an event: a number, a text, or a name that is quoted in plain logs. -/
inductive Particular where
  | number (value : Nat)
  | text (value : String)
  | quoted (value : String)

def level : Event → Level
  | .oversize .. | .stalled .. | .badTrailer _ | .unreadableHeader _ | .handlerFailed ..
  | .peerSilent .. | .inputTruncated _ => .warn
  | .peerReset .. | .connected _ | .disconnected .. | .listening .. | .deviceAnnounced
  | .deviceConnected .. | .deviceDisconnected _ | .deviceClosed => .info
  | .created .. | .dispatching .. | .unhandled _ | .sent .. | .requestReceived ..
  | .responseReceived .. | .noiseDiscarded _ | .streamEnded | .listenFinished _ => .debug

def message : Event → String
  | .created .. => "service created"
  | .dispatching .. => "dispatching packet"
  | .unhandled _ => "no handler registered"
  | .sent .. => "frame sent"
  | .requestReceived .. => "connect request"
  | .responseReceived .. => "connect response"
  | .noiseDiscarded _ => "discarding bytes before frame start"
  | .oversize .. => "declared payload exceeds receive region"
  | .stalled .. => "partial packet stalled, discarding"
  | .badTrailer _ => "dropping packet with bad trailer"
  | .unreadableHeader _ => "dropping packet with unreadable header"
  | .handlerFailed .. => "message handler failed"
  | .peerReset .. => "remote peer reset"
  | .connected _ => "connected"
  | .peerSilent .. => "no connect response within quiet window"
  | .disconnected .. => "disconnected"
  | .streamEnded => "stream reached end of file"
  | .inputTruncated _ => "input ends inside an incomplete frame"
  | .listening .. => "listening"
  | .deviceAnnounced => "device announced a new connection"
  | .deviceConnected .. => "device connected"
  | .deviceDisconnected _ => "device disconnected"
  | .deviceClosed => "device closed"
  | .listenFinished _ => "listen finished"

def messageParticulars (type id : UInt8) : List (String × Particular) :=
  [("msg_type", .number type.toNat), ("kind", .quoted (MessageType.name type)),
   ("msg_id", .number id.toNat)]

/-- What a connect message says about the peer. -/
def peerParticulars (message : ConnectMessage) : List (String × Particular) :=
  [("remote_conn_id", .number message.connId.toNat),
   ("remote_conn_type", .number message.connType.toNat),
   ("remote_max_payload", .number message.limit.toNat)]

def describeCounters (counters : Counters) : String :=
  "ServiceStats \x7b " ++
    ", ".intercalate (counters.entries.map fun (name, count) ↦ name ++ ": " ++ toString count) ++
    " \x7d"

/-- The particulars of an event, in the order in which they are reported. -/
def particulars : Event → List (String × Particular)
  | .created connId config =>
    [("conn_id", .number connId.toNat), ("conn_type", .number config.connType.toNat),
     ("in_buf_size", .number config.inSize), ("out_buf_size", .number config.outSize)]
  | .dispatching header _ =>
    messageParticulars header.type header.id ++ [("len", .number header.length.toNat)]
  | .unhandled type => [("msg_type", .number type.toNat)]
  | .sent type id payload => messageParticulars type id ++ [("len", .number payload.length)]
  | .requestReceived id message | .responseReceived id message =>
    ("msg_id", .number id.toNat) :: peerParticulars message
  | .noiseDiscarded error | .badTrailer error | .unreadableHeader error =>
    [("error", .text error.message)]
  | .oversize type length max =>
    [("msg_type", .number type.toNat), ("len", .number length.toNat), ("max", .number max)]
  | .stalled buffered expected timeout =>
    [("buffered", .number buffered), ("expected", .number expected),
     ("timeout_ms", .number timeout.toNat)]
  | .handlerFailed header error =>
    messageParticulars header.type header.id ++ [("error", .text error.message)]
  | .peerReset previous connId connType =>
    [("previous", .number previous.toNat), ("conn_id", .number connId.toNat),
     ("conn_type", .number connType.toNat)]
  | .connected message => peerParticulars message
  | .peerSilent remoteId timeout =>
    [("remote_conn_id", .number remoteId.toNat), ("quiet_ms", .number timeout.toNat)]
  | .disconnected remoteId newId =>
    [("remote_conn_id", .number remoteId.toNat), ("conn_id", .number newId.toNat)]
  | .inputTruncated buffered => [("buffered", .number buffered)]
  | .listening device connId limit =>
    [("device", .text device), ("conn_id", .number connId.toNat),
     ("max_payload", .number limit.toNat)]
  | .deviceConnected connId connType =>
    [("conn_id", .number connId.toNat), ("conn_type", .number connType.toNat)]
  | .deviceDisconnected connId => [("conn_id", .number connId.toNat)]
  | .listenFinished counters => [("stats", .text (describeCounters counters))]
  | .streamEnded | .deviceAnnounced | .deviceClosed => []

def Particular.plain : Particular → String
  | .number value => toString value
  | .text value => value
  | .quoted value => "\"" ++ value ++ "\""

def Particular.json : Particular → Text.Json
  | .number value => .natural value
  | .text value => .text value
  | .quoted value => .text value

def plainEntry (event : Event) : String :=
  " ".intercalate (event.level.name :: event.message ::
    event.particulars.map fun (name, value) ↦ name ++ "=" ++ value.plain)

/-- An event as lines of a plain log, more than one if a particular holds line ends. -/
def plainLines (event : Event) : List String :=
  Text.lines event.plainEntry

def jsonLine (event : Event) : String :=
  (Text.Json.object (("level", .text event.level.name) :: ("message", .text event.message) ::
    event.particulars.map fun (name, value) ↦ (name, value.json))).render

end Event

end FramedLink
