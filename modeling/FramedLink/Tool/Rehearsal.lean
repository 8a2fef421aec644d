import FramedLink.Bench
import FramedLink.Frame.Codec
import FramedLink.Tool.Command
import FramedLink.Tool.Exit

/-!
# Rehearsed handshakes

A host asks a device for a connection, the device answers, and the host takes up the answer. Each
end has a wire of its own, so that what it sends can be looked at before it is handed to the other.
-/

namespace FramedLink.Tool

/-- Surroundings in which the journal tells how often the device met a new host. -/
abbrev Stage := Bench Empty Unit

structure HandshakeReport where
  request : ConnectMessage
  response : ConnectMessage
  requestWire : Bytes
  responseWire : Bytes
  /-- Whether the host was new to the device. -/
  deviceSawReset : Bool
  hostConnected : Bool
  deriving DecidableEq, Repr

/-- How a rehearsal went: what was noted, and the report or why there is none. -/
structure Rehearsal where
  events : List Event
  report : Except Failure HandshakeReport

namespace Rehearsal

/-- The surroundings of the host, on pipes 0 and 1. -/
def hostSide : Environment Stage :=
  Bench.environment (.memory (Bench.pipe 0) (Bench.pipe 1))

/-- The surroundings of the device, on pipes 2 and 3. -/
def deviceSide : Environment Stage :=
  Bench.environment (.memory (Bench.pipe 2) (Bench.pipe 3))

def stage (ids : IdSupply) : Stage :=
  { ids, threshold := some .trace, pipes := #[{}, {}, {}, {}] }

def carry (source target : Nat) (stage : Stage) : Bytes × Stage :=
  let (octets, stage) := (Bench.pipe source).run Pipe.takeAll stage
  (octets, (Bench.pipe target).modify (Pipe.feed octets) stage)

def readMessage (wire : Bytes) : Except Failure ConnectMessage :=
  match Frame.decode wire maxPayload .unchecked with
  | .error error => .error (.ofFrame "handshake frame unreadable" error)
  | .ok none => .error ⟨.internal, "handshake frame incomplete"⟩
  | .ok (some (frame, _)) =>
    match ConnectMessage.decode? frame.payload with
    | some message => .ok message
    | none => .error ⟨.internal, "handshake payload too short"⟩

def finish (stage : Stage) (report : Except Failure HandshakeReport) : Rehearsal :=
  ⟨stage.events.reverse, report⟩

def giveUp (stage : Stage) (context : String) (error : EndpointError) : Rehearsal :=
  finish stage (.error (.ofEndpoint context error))

def reportOn (requestWire responseWire : Bytes) (deviceSawReset hostConnected : Bool) :
    Except Failure HandshakeReport :=
  match readMessage requestWire with
  | .error failure => .error failure
  | .ok request =>
    match readMessage responseWire with
    | .error failure => .error failure
    | .ok response =>
      .ok { request, response, requestWire, responseWire, deviceSawReset, hostConnected }

/-- Plays the handshake between two endpoints. -/
def play (host device : Endpoint Stage) (stage : Stage) : Rehearsal :=
  match host.checkConnection hostSide stage with
  | (.error error, _, stage) => giveUp stage "connect request failed" error
  | (.ok _, host, stage) =>
    let (requestWire, stage) := carry 1 2 stage
    match device.poll deviceSide (requestWire.length + 1) stage with
    | (.failed error, _, stage) => giveUp stage "device poll failed" error
    | (_, _, stage) =>
      let (responseWire, stage) := carry 3 0 stage
      match host.poll hostSide (responseWire.length + 1) stage with
      | (.failed error, _, stage) => giveUp stage "host poll failed" error
      | (_, host, stage) =>
        finish stage
          (reportOn requestWire responseWire (!stage.journal.isEmpty) host.link.connected)

/-- Sets up the two ends and plays the handshake between them. -/
def run (options : HandshakeOptions) (ids : IdSupply) : Rehearsal :=
  match Endpoint.create hostSide { connType := options.hostType } (stage ids) with
  | (.error error, stage) => giveUp stage "host setup failed" error
  | (.ok host, stage) =>
    let deviceConfig : Config :=
      { connType := options.deviceType, inSize := options.deviceInSize }
    match Endpoint.create deviceSide deviceConfig stage with
    | (.error error, stage) => giveUp stage "device setup failed" error
    | (.ok device, stage) =>
      let device := options.deviceId.elim device device.withLocalId
      play (host.withLocalId options.hostId) (device.addResetCallback (Bench.write ())) stage

end Rehearsal

end FramedLink.Tool
