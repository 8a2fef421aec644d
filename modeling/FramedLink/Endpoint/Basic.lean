import FramedLink.Endpoint.Environment
import FramedLink.Endpoint.Program

/-!
# Endpoints

An endpoint is one end of a framed link: its state, and the handlers and callbacks that were
registered with it, oldest first. Registrations are never taken back. The two handlers of the
handshake are there from the beginning, before any of the application's.

This module holds the operations that an application can call outside of receiving: sending frames,
asking for a connection, supervising it and taking it down.
-/

namespace FramedLink

inductive Handler (ω : Type) where
  /-- The answer to a connect request. -/
  | answerRequest
  | acceptResponse
  | custom (body : Header → Program ω)

structure Registration (ω : Type) where
  type : UInt8
  handler : Handler ω

/-- One end of a framed link, in surroundings `ω`. -/
structure Endpoint (ω : Type) extends Station where
  handlers : List (Registration ω) := []
  resetCallbacks : List (ω → ω) := []
  linkCallbacks : List (LinkEvent → ω → ω) := []

namespace Endpoint

variable {ω : Type}

/-! ## Beginning -/

def ofConfig (config : Config) (localId : UInt32) : Endpoint ω :=
  { Station.initial config localId with
    handlers :=
      [⟨MessageType.connectRequest, .answerRequest⟩,
       ⟨MessageType.connectResponse, .acceptResponse⟩] }

/-- A new endpoint with a drawn connection id. Settings that do not work are refused before the id
is drawn. -/
def create (env : Environment ω) (config : Config) (w : ω) :
    Except EndpointError (Endpoint ω) × ω :=
  match config.fault? with
  | some fault => (.error (.config fault), w)
  | none =>
    let (id, w) := env.ids.run IdSupply.draw w
    (.ok (ofConfig config id), env.note (.created id config) w)

def withLocalId (e : Endpoint ω) (id : UInt32) : Endpoint ω :=
  { e with link := { e.link with localId := id } }

def addHandler (e : Endpoint ω) (type : UInt8) (body : Header → Program ω) : Endpoint ω :=
  { e with handlers := e.handlers ++ [⟨type, .custom body⟩] }

def addResetCallback (e : Endpoint ω) (callback : ω → ω) : Endpoint ω :=
  { e with resetCallbacks := e.resetCallbacks ++ [callback] }

def addLinkCallback (e : Endpoint ω) (callback : LinkEvent → ω → ω) : Endpoint ω :=
  { e with linkCallbacks := e.linkCallbacks ++ [callback] }

def handlerCount (e : Endpoint ω) (type : UInt8) : Nat :=
  e.handlers.countP (·.type == type)

/-- Runs the callbacks for a new connection id, newest first. -/
def fireReset (e : Endpoint ω) (w : ω) : ω :=
  e.resetCallbacks.reverse.foldl (fun w callback ↦ callback w) w

def fireLink (e : Endpoint ω) (event : LinkEvent) (w : ω) : ω :=
  e.linkCallbacks.reverse.foldl (fun w callback ↦ callback event w) w

def rewindOutgoing (e : Endpoint ω) : Endpoint ω :=
  { e with outgoing := e.outgoing.reset }

/-- Sends the first `size` octets of the outgoing payload as one frame. The outgoing payload is
empty afterwards, whether or not the frame was sent. A payload that the peer is known not to take,
or that has no room in the region, does not reach the channel. -/
def send (env : Environment ω) (type id : UInt8) (size : Nat) (e : Endpoint ω) (w : ω) :
    Except EndpointError Unit × Endpoint ω × ω :=
  match e.refusedLimit? size with
  | some limit => (.error (.frame (.tooLarge size limit)), e.rewindOutgoing, w)
  | none =>
    match e.outgoing.sealFrame type id size e.config.integrity with
    | .error error => (.error (.frame error), e.rewindOutgoing, w)
    | .ok (frame, outgoing) =>
      let e := { e with outgoing := outgoing.reset }
      match env.channel.write frame w with
      | (.error error, w) => (.error (.channel error), e, w)
      | (.ok taken, w) =>
        if taken < frame.length then (.error (.channel (.shortWrite taken frame.length)), e, w)
        else
          let counters := { e.counters with framesSent := e.counters.framesSent + 1 }
          (.ok (), { e with counters }, env.note (.sent type id (outgoing.payloadOf size)) w)

def sendWritten (env : Environment ω) (type id : UInt8) (e : Endpoint ω) (w : ω) :
    Except EndpointError Unit × Endpoint ω × ω :=
  e.send env type id e.outgoing.payloadSize w

def sendDescription (env : Environment ω) (type id : UInt8) (e : Endpoint ω) (w : ω) :
    Except EndpointError Unit × Endpoint ω × ω :=
  match e.description.write e.outgoing.reset with
  | (.ok (), outgoing) => { e with outgoing }.sendWritten env type id w
  | (.error error, outgoing) => (.error (.frame error), { e with outgoing }, w)

def requestConnection (env : Environment ω) (id : UInt8) (e : Endpoint ω) (w : ω) :
    Except EndpointError Unit × Endpoint ω × ω :=
  e.sendDescription env MessageType.connectRequest id w

/-! ## The state of the link -/

/-- Takes the link down and forgets the peer. A fresh connection id is drawn, so that the peer sees
a new connection when this end asks again. Without a link nothing happens. -/
def disconnect (env : Environment ω) (e : Endpoint ω) (w : ω) : Endpoint ω × ω :=
  if e.link.connected then
    let remoteId := e.link.remoteId
    let (id, w) := env.ids.run (IdSupply.drawOther e.link.localId) w
    let link := { e.link with
      connected := false
      remoteId := 0
      remoteLimit := none
      lastResponse := none
      nextRequest := none
      localId := id }
    let counters := { e.counters with disconnects := e.counters.disconnects + 1 }
    let e := { e with link, counters }
    let w := env.note (.disconnected remoteId id) w
    (e, e.fireLink (.disconnected remoteId) w)
  else (e, w)

/-- Whether a checked link has been silent for too long at a time. -/
def isSilent (e : Endpoint ω) (now : Millis) : Option Millis :=
  match e.config.quietTimeout with
  | some timeout =>
    if e.link.connected && e.link.lastResponse.any (fun at_ ↦ timeout < now.since at_) then
      some timeout
    else none
  | none => none

def dropSilentPeer (env : Environment ω) (now : Millis) (e : Endpoint ω) (w : ω) :
    Endpoint ω × ω :=
  match e.isSilent now with
  | some timeout => e.disconnect env (env.note (.peerSilent e.link.remoteId timeout) w)
  | none => (e, w)

/-- Whether a connect request is called for at a time: the link is down or checked, and the last
request is long enough ago. -/
def requestDue (e : Endpoint ω) (now : Millis) : Bool :=
  !(e.link.connected && e.config.quietTimeout.isNone) && !(e.link.nextRequest.any (now < ·))

/-- Sends a connect request if one is called for, after dropping a silent peer. Whether one was
sent. -/
def checkConnection (env : Environment ω) (e : Endpoint ω) (w : ω) :
    Except EndpointError Bool × Endpoint ω × ω :=
  let (now, w) := env.now w
  let (e, w) := e.dropSilentPeer env now w
  if e.requestDue now then
    let (id, requestIds) := e.link.requestIds.take
    let link := { e.link with
      nextRequest := some (now.after e.config.connectInterval)
      requestIds }
    let (sent, e, w) := { e with link }.requestConnection env id w
    (sent.map fun _ ↦ true, e, w)
  else (.ok false, e, w)

/-- Takes note of what a peer says about itself. A new connection id is reported to the
callbacks. -/
def recordPeer (env : Environment ω) (connId : UInt32) (connType : UInt16) (e : Endpoint ω)
    (w : ω) : Endpoint ω × ω :=
  let previous := e.link.remoteId
  if connId = previous then ({ e with link := { e.link with remoteType := connType } }, w)
  else
    let link := { e.link with remoteType := connType, remoteId := connId }
    let counters := { e.counters with peerResets := e.counters.peerResets + 1 }
    let e := { e with link, counters }
    (e, e.fireReset (env.note (.peerReset previous connId connType) w))

/-- Takes the link down without forgetting anything else when the peer turns up under a new id. -/
def dropReplacedPeer (connId : UInt32) (e : Endpoint ω) (w : ω) : Endpoint ω × ω :=
  if e.link.connected && connId != e.link.remoteId then
    ({ e with link := { e.link with connected := false } },
      e.fireLink (.disconnected e.link.remoteId) w)
  else (e, w)

def bringUp (env : Environment ω) (message : ConnectMessage) (e : Endpoint ω) (w : ω) :
    Endpoint ω × ω :=
  if e.link.connected then (e, w)
  else
    let counters := { e.counters with connects := e.counters.connects + 1 }
    let e := { e with link := { e.link with connected := true }, counters }
    (e, e.fireLink (.connected message.connId message.connType)
      (env.note (.connected message) w))

/-- Takes up a connect response: the peer's limit and the time are kept, and the link is up. A new
id over a link that never went down means that the peer has started over. -/
def acceptResponse (env : Environment ω) (message : ConnectMessage) (e : Endpoint ω) (w : ω) :
    Endpoint ω × ω :=
  let (now, w) := env.now w
  let link := { e.link with remoteLimit := some message.limit, lastResponse := some now }
  let (e, w) := { e with link }.dropReplacedPeer message.connId w
  let (e, w) := e.recordPeer env message.connId message.connType w
  e.bringUp env message w

end Endpoint

end FramedLink
