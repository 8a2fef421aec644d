import FramedLink.Endpoint.Station
import FramedLink.Channel.Basic

/-!
# Handler programs

An application reacts to a packet by a program: a sequence of requests to the endpoint, each of
which may depend on the answers to those before it, with steps in the surroundings between them, and
an outcome at the end. Programs are data, so that every statement about handlers is a statement
about all programs, and running one is recursion on it. A program sees the endpoint through its
requests and through a look at its state; it can not change the state in any other way.
-/

namespace FramedLink

/-- A change of the link that an application can follow. -/
inductive LinkEvent where
  | connected (connId : UInt32) (connType : UInt16)
  | disconnected (connId : UInt32)
  deriving DecidableEq, Repr

/-- What can be asked of an endpoint. -/
inductive Request where
  | incoming (op : Incoming.Op)
  | outgoing (op : Outgoing.Op)
  /-- Send the first `size` octets of the outgoing payload. -/
  | send (type id : UInt8) (size : Nat)
  | sendWritten (type id : UInt8)
  | requestConnection (id : UInt8)
  /-- Send a connect request if one is due, and drop a silent peer. -/
  | checkConnection
  | disconnect
  | poll
  | handlerCount (type : UInt8)
  /-- Use the channel itself. -/
  | channelAvailable
  | channelRead (size : Nat)
  | channelWrite (octets : Bytes)

@[reducible]
def Request.Answer : Request → Type
  | .incoming op => op.Answer
  | .outgoing op => op.Answer
  | .send .. | .sendWritten .. | .requestConnection _ => Except EndpointError Unit
  | .checkConnection => Except EndpointError Bool
  | .disconnect => Unit
  | .poll => Except EndpointError Nat
  | .handlerCount _ => Nat
  | .channelAvailable | .channelWrite _ => Except ChannelError Nat
  | .channelRead _ => Reading

/-- What an application does with a packet, in surroundings `ω`. -/
inductive Program (ω : Type) where
  /-- Ends with an outcome. -/
  | finish (outcome : Except EndpointError Unit)
  /-- Asks the endpoint and goes on with the answer. -/
  | ask (request : Request) (next : request.Answer → Program ω)
  /-- Looks at the state of the endpoint. -/
  | inspect (next : Station → Program ω)
  | addHandler (type : UInt8) (handler : Header → Program ω) (next : Program ω)
  | addResetCallback (callback : ω → ω) (next : Program ω)
  | addLinkCallback (callback : LinkEvent → ω → ω) (next : Program ω)
  /-- Changes the surroundings and goes on with them. -/
  | outside (step : ω → ω) (next : ω → Program ω)

namespace Program

variable {ω : Type}

/-- Writes fields in order up to the first that is refused, and goes on with what came of it. -/
def writeFields (next : Except FrameError Unit → Program ω) : List Field → Program ω
  | [] => next (.ok ())
  | field :: rest =>
    .ask (.outgoing (.write field)) fun
      | .ok () => writeFields next rest
      | .error e => next (.error e)

/-- Reads fields in order up to the first that is refused, after those in `read`, newest first. -/
def readFields (next : Except FrameError (List Field) → Program ω) (read : List Field) :
    List FieldType → Program ω
  | [] => next (.ok read.reverse)
  | type :: rest =>
    .ask (.incoming (.read type)) fun
      | .ok field => readFields next (field :: read) rest
      | .error e => next (.error e)

end Program

end FramedLink
