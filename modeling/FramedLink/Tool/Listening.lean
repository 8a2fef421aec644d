import FramedLink.Tool.Command
import FramedLink.Tool.Exit
import FramedLink.Tool.Record

/-!
# Listening to a device

An endpoint over a device that is a file: it answers handshakes, asks for a connection if that is
wanted, and makes a record of every frame of the wanted types. Records are shown round by round, up
to the wanted number. Listening ends when the device is closed, when enough was shown, or at the
first error.

The clock shows the readings that are set for it. After them it moves only while the tool rests
after a round without frames.
-/

namespace FramedLink.Tool

structure Listening where
  /-- The records shown, by round. -/
  rounds : List (List FrameRecord)
  counters : Counters
  events : List Event
  /-- The contents of the device afterwards. -/
  contents : Bytes
  failure : Option Failure

namespace Listening

/-- A desk with a device, and a clock with some readings set. -/
def desk (readings : List Millis) (ids : IdSupply) (contents : Bytes) : Desk :=
  { readings, ids, threshold := some .trace, streams := #[.ofStream { ahead := contents }] }

def environment : Environment Desk :=
  Bench.environment (Bench.streamChannel 0)

def wants (options : ListenOptions) (type : UInt8) : Bool :=
  options.types.all (type ∈ ·)

def linkEvent : LinkEvent → Event
  | .connected connId connType => .deviceConnected connId connType
  | .disconnected connId => .deviceDisconnected connId

def prepare (options : ListenOptions) (endpoint : Endpoint Desk) : Endpoint Desk :=
  let endpoint := recordTypes (allTypes.filter (wants options)) endpoint
  (endpoint.addResetCallback (Bench.note .deviceAnnounced)).addLinkCallback
    fun event ↦ Bench.note (linkEvent event)

/-- Takes the records of a round from the journal, oldest first. -/
def takeRecords (desk : Desk) : List FrameRecord × Desk :=
  (desk.journal.reverse, { desk with journal := [] })

/-- Records still to be shown when `shown` were shown before. -/
def room (options : ListenOptions) (shown : Nat) (records : List FrameRecord) :
    List FrameRecord :=
  options.count.elim records fun count ↦ records.take (count - shown)

def enough (options : ListenOptions) (shown : Nat) : Bool :=
  options.count.any (· ≤ shown)

structure Progress where
  endpoint : Endpoint Desk
  desk : Desk
  /-- The records shown, by round, latest round first. -/
  rounds : List (List FrameRecord) := []
  shown : Nat := 0

/-- Whether listening goes on, and how it ends otherwise. -/
inductive Verdict where
  | goOn
  | stop
  | fail (failure : Failure)

def Progress.request (options : ListenOptions) (progress : Progress) : Verdict × Progress :=
  if options.connect then
    let (answer, endpoint, desk) := progress.endpoint.checkConnection environment progress.desk
    let progress := { progress with endpoint, desk }
    match answer with
    | .error error => (.fail (.ofEndpoint "connect request failed" error), progress)
    | .ok _ => (.goOn, progress)
  else (.goOn, progress)

/-- Shows the records of a round that dispatched `packets` packets, and rests if there were none. -/
def Progress.present (options : ListenOptions) (packets : Nat) (progress : Progress) :
    Verdict × Progress :=
  let (records, desk) := takeRecords progress.desk
  let progress := { progress with desk }
  if records.isEmpty then
    if packets = 0 then
      let desk := { desk with clock := desk.clock.advance options.idle }
      (.goOn, { progress with desk })
    else (.goOn, progress)
  else
    let shown := room options progress.shown records
    let progress := { progress with
      rounds := shown :: progress.rounds
      shown := progress.shown + shown.length }
    (if enough options progress.shown then .stop else .goOn, progress)

def Progress.receive (options : ListenOptions) (fuel : Nat) (progress : Progress) :
    Verdict × Progress :=
  let (outcome, endpoint, desk) := progress.endpoint.poll environment fuel progress.desk
  let progress := { progress with endpoint, desk }
  match outcome with
  | .failed (.channel .closed) =>
    (.stop, { progress with desk := progress.desk.note .deviceClosed })
  | .failed error => (.fail (.ofEndpoint "receive failed" error), progress)
  | .done packets | .unfinished packets => progress.present options packets

/-- Rounds of listening, at most `rounds` of them; polls take at most `fuel` turns. -/
def Progress.run (options : ListenOptions) (fuel : Nat) :
    (rounds : Nat) → Progress → Option Failure × Progress
  | 0, progress => (none, progress)
  | rounds + 1, progress =>
    match progress.request options with
    | (.fail failure, progress) => (some failure, progress)
    | (_, progress) =>
      match progress.receive options fuel with
      | (.fail failure, progress) => (some failure, progress)
      | (.stop, progress) => (none, progress)
      | (.goOn, progress) => Progress.run options fuel rounds progress

def ofProgress (failure : Option Failure) (progress : Progress) : Listening :=
  let desk := match failure with
    | some _ => progress.desk
    | none => progress.desk.note (.listenFinished progress.endpoint.counters)
  { rounds := progress.rounds.reverse
    counters := progress.endpoint.counters
    events := desk.events.reverse
    contents := ((Bench.stream 0).get desk).stream.contents
    failure }

/-- Listens to a device with given contents. A file is read to its end in the first round that finds
it open, so its size bounds the turns, and the rounds are few. -/
def ofContents (options : ListenOptions) (config : Config) (readings : List Millis)
    (ids : IdSupply) (contents : Bytes) : Except EndpointError Listening :=
  match Endpoint.create environment config (desk readings ids contents) with
  | (.error error, _) => .error error
  | (.ok endpoint, desk) =>
    let desk := desk.note
      (.listening options.device endpoint.link.localId config.advertisedLimit)
    let endpoint := prepare options endpoint
    let (failure, progress) :=
      Progress.run options (contents.length + 1) (contents.length + 2) { endpoint, desk }
    .ok (ofProgress failure progress)

end Listening

end FramedLink.Tool
