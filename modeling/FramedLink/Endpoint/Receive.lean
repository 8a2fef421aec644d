import FramedLink.Endpoint.Dispatch

/-!
# Receiving

Receiving is a loop of turns. In each turn the endpoint asks its channel how much is ready, gives up
a partial packet that is late, and reads at most what the present header or packet still lacks, so
that octets of the next frame stay in the channel. A complete header is judged and a complete packet
dispatched at once. The loop ends when nothing is ready, when a read yields nothing, or when the
channel fails. How many turns it takes depends on the channel, so a poll is given a bound on them.
-/

namespace FramedLink

/-- How a turn of receiving ended. -/
inductive Turn where
  /-- Nothing was ready, or a read yielded nothing. -/
  | idle
  /-- The channel was found closed. -/
  | closed
  | failed (error : EndpointError)
  /-- Octets were received, and `packets` packets were dispatched for them. -/
  | received (packets : Nat)

/-- How a poll ended, with the number of packets it dispatched. -/
inductive PollOutcome where
  | done (packets : Nat)
  | failed (error : EndpointError)
  /-- The bound on the number of turns was reached. -/
  | unfinished (packets : Nat)

namespace Endpoint

variable {ω : Type}

/-- Notes what a step of receiving reports, if anything. -/
def noteStep (env : Environment ω) (e : Endpoint ω) (w : ω) (step : Station × Option Event) :
    Endpoint ω × ω :=
  ({ e with toStation := step.1 }, step.2.elim w fun event ↦ env.note event w)

/-- Judges a complete packet and hands it to the handlers if it is sound. Either way the next header
is waited for; how many packets were dispatched. -/
def completePacket (env : Environment ω) (e : Endpoint ω) (w : ω) : Nat × Endpoint ω × ω :=
  let (packets, e, w) := match e.judgePacket with
    | .deliver header =>
      let (e, w) := { e with toStation := e.openPacket }.dispatch env header w
      (1, e, w)
    | .badTrailer error =>
      let counters := { e.counters with checksumFailures := e.counters.checksumFailures + 1 }
      (0, { e with counters }, env.note (.badTrailer error) w)
    | .unreadable error => (0, e, env.note (.unreadableHeader error) w)
  (packets, { e with toStation := e.clearReception }, w)

/-- Judges the header once it is complete, and the packet once it is. -/
def advance (env : Environment ω) (before : Nat) (e : Endpoint ω) (w : ω) :
    Nat × Endpoint ω × ω :=
  let (e, w) :=
    if before < headerSize ∧ headerSize ≤ e.reception.filled then
      noteStep env e w e.judgeHeader
    else (e, w)
  if 0 < e.reception.packetSize ∧ e.reception.packetSize ≤ e.reception.filled then
    e.completePacket env w
  else (0, e, w)

/-- Reads up to `size` octets behind those already collected, and takes up what was read. -/
def readPortion (env : Environment ω) (size : Nat) (e : Endpoint ω) (w : ω) :
    Turn × Endpoint ω × ω :=
  match e.reception.region.checkSlot e.reception.filled size with
  | .error error => (.failed (.frame error), e, w)
  | .ok () =>
    let (reading, w) := env.channel.read size w
    let stored := reading.stored.take size
    match reading.count with
    | .error error =>
      (.failed (.channel error), { e with toStation := e.collect stored 0 }, w)
    | .ok reported =>
      let count := min reported size
      let before := e.reception.filled
      let e := { e with toStation := e.collect stored count }
      if count = 0 then (.idle, e, w)
      else
        let (packets, e, w) := e.advance env before w
        (.received packets, e, w)

def turn (env : Environment ω) (e : Endpoint ω) (w : ω) : Turn × Endpoint ω × ω :=
  match env.channel.available w with
  | (.error .closed, w) => (.closed, e, w)
  | (.error error, w) => (.failed (.channel error), e, w)
  | (.ok ready, w) =>
    if ready = 0 then (.idle, e, w)
    else
      let (now, w) := env.now w
      let (e, w) := noteStep env e w (e.expire now)
      let e := { e with toStation := e.extendDeadline now }
      let size := e.reception.portion ready
      if size = 0 then (.idle, e, w) else e.readPortion env size w

/-- Turns of receiving, at most as many as `fuel` allows, after `packets` packets were dispatched. A
channel that closes once packets were dispatched ends the poll with their number; the next poll
finds it closed. -/
def pollFrom (env : Environment ω) :
    (fuel packets : Nat) → Endpoint ω → ω → PollOutcome × Endpoint ω × ω
  | 0, packets, e, w => (.unfinished packets, e, w)
  | fuel + 1, packets, e, w =>
    match e.turn env w with
    | (.idle, e, w) => (.done packets, e, w)
    | (.closed, e, w) =>
      (if 0 < packets then .done packets else .failed (.channel .closed), e, w)
    | (.failed error, e, w) => (.failed error, e, w)
    | (.received more, e, w) => pollFrom env fuel (packets + more) e w

/-- Receives what the channel has ready and dispatches every packet that is completed. -/
def poll (env : Environment ω) (fuel : Nat) (e : Endpoint ω) (w : ω) :
    PollOutcome × Endpoint ω × ω :=
  match e.admitPoll with
  | .error error => (.failed error, e, w)
  | .ok () => pollFrom env fuel 0 e w

end Endpoint

end FramedLink
