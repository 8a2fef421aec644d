import FramedLink.Endpoint.Basic

/-!
# Dispatching packets

A complete packet is handed to every handler of its type, the newest first, whatever the others
return; each begins at the start of the payload. While this goes on the endpoint does not poll, and
its list of handlers is empty but for those registered meanwhile, which take no part in the round
and come behind the others when it is over.
-/

namespace FramedLink

namespace Endpoint

variable {ω : Type}

/-- Whether a poll can begin. -/
def admitPoll (e : Endpoint ω) : Except EndpointError Unit :=
  if e.dispatching then .error .reentrant else .ok ()

/-- Carries out a request. A poll asked for in this way is inside a round of dispatch and gets no
further than the door. -/
def perform (env : Environment ω) (e : Endpoint ω) (w : ω) :
    (request : Request) → request.Answer × Endpoint ω × ω
  | .incoming op =>
    let (answer, region) := e.reception.region.perform op
    (answer, { e with reception := { e.reception with region } }, w)
  | .outgoing op =>
    let (answer, outgoing) := e.outgoing.perform op
    (answer, { e with outgoing }, w)
  | .send type id size => e.send env type id size w
  | .sendWritten type id => e.sendWritten env type id w
  | .requestConnection id => e.requestConnection env id w
  | .checkConnection => e.checkConnection env w
  | .disconnect => ((), e.disconnect env w)
  | .poll => (e.admitPoll.map fun _ ↦ 0, e, w)
  | .handlerCount type => (e.handlerCount type, e, w)
  | .channelAvailable =>
    let (answer, w) := env.channel.available w
    (answer, e, w)
  | .channelRead size =>
    let (answer, w) := env.channel.read size w
    (answer, e, w)
  | .channelWrite octets =>
    let (answer, w) := env.channel.write octets w
    (answer, e, w)

end Endpoint

def Program.run {ω : Type} (env : Environment ω) :
    Program ω → Endpoint ω → ω → Except EndpointError Unit × Endpoint ω × ω
  | .finish outcome, e, w => (outcome, e, w)
  | .ask request next, e, w =>
    let (answer, e, w) := e.perform env w request
    (next answer).run env e w
  | .inspect next, e, w => (next e.toStation).run env e w
  | .addHandler type handler next, e, w => next.run env (e.addHandler type handler) w
  | .addResetCallback callback next, e, w => next.run env (e.addResetCallback callback) w
  | .addLinkCallback callback next, e, w => next.run env (e.addLinkCallback callback) w
  | .outside step next, e, w =>
    let w := step w
    (next w).run env e w

namespace Endpoint

variable {ω : Type}

def readMessage (e : Endpoint ω) : Except EndpointError ConnectMessage × Endpoint ω :=
  let (message, region) := ConnectMessage.read e.reception.region
  (message.mapError .frame, { e with reception := { e.reception with region } })

/-- Runs a handler on the packet whose payload is open. -/
def runHandler (env : Environment ω) (header : Header) (handler : Handler ω) (e : Endpoint ω)
    (w : ω) : Except EndpointError Unit × Endpoint ω × ω :=
  match handler with
  | .custom body => (body header).run env e w
  | .answerRequest =>
    match e.readMessage with
    | (.error error, e) => (.error error, e, w)
    | (.ok message, e) =>
      let w := env.note (.requestReceived header.id message) w
      let (e, w) := e.recordPeer env message.connId message.connType w
      e.sendDescription env MessageType.connectResponse 0 w
  | .acceptResponse =>
    match e.readMessage with
    | (.error error, e) => (.error error, e, w)
    | (.ok message, e) =>
      let w := env.note (.responseReceived header.id message) w
      let (e, w) := e.acceptResponse env message w
      (.ok (), e, w)

/-- What a round of dispatch comes to: how many handlers ran, and how many of them failed. -/
structure Round where
  matched : Nat := 0
  failed : Nat := 0
  deriving DecidableEq, Repr

/-- Runs those of some registrations that are for the packet's type, in order. -/
def runRound (env : Environment ω) (header : Header) :
    List (Registration ω) → Round → Endpoint ω → ω → Round × Endpoint ω × ω
  | [], round, e, w => (round, e, w)
  | registration :: rest, round, e, w =>
    if registration.type = header.type then
      let e := { e with toStation := e.toStation.rewindIncoming }
      match e.runHandler env header registration.handler w with
      | (.ok (), e, w) => runRound env header rest ⟨round.matched + 1, round.failed⟩ e w
      | (.error error, e, w) =>
        let w := env.note (.handlerFailed header error) w
        runRound env header rest ⟨round.matched + 1, round.failed + 1⟩ e w
    else runRound env header rest round e w

def countRound (counters : Counters) (round : Round) : Counters :=
  { counters with
    framesDispatched := counters.framesDispatched + 1
    handlerErrors := counters.handlerErrors + round.failed
    framesUnhandled := counters.framesUnhandled + (if round.matched = 0 then 1 else 0) }

/-- Hands the packet whose payload is open to the handlers of its type. -/
def dispatch (env : Environment ω) (header : Header) (e : Endpoint ω) (w : ω) : Endpoint ω × ω :=
  let w := env.note (.dispatching header e.reception.region.payload) w
  let registered := e.handlers
  let (round, e, w) :=
    runRound env header registered.reverse {} { e with handlers := [], dispatching := true } w
  let e := { e with
    handlers := registered ++ e.handlers
    dispatching := false
    counters := countRound e.counters round }
  (e, if round.matched = 0 then env.note (.unhandled header.type) w else w)

end Endpoint

end FramedLink
