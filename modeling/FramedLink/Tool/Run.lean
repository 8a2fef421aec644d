import FramedLink.Tool.Capture
import FramedLink.Tool.Listening
import FramedLink.Tool.Report

/-!
# Runs of the tool

A run takes an invocation, the files it can reach, the standard input, a supply of connection ids,
the time and the readings of a clock, and yields what it writes, what it logs, how it ends, and the
files afterwards. What was written and logged before a failure stays.
-/

namespace FramedLink.Tool

structure Surroundings where
  folder : Folder
  input : Bytes
  ids : IdSupply
  /-- The time at which frames are received, in seconds. -/
  time : Nat
  /-- What the clock of an endpoint shows, reading by reading. -/
  readings : List Millis := []

/-- What a run leaves. -/
structure Outcome where
  output : Bytes := []
  events : List Event := []
  failure : Option Failure := none
  folder : Folder

namespace Outcome

def code (outcome : Outcome) : ExitCode :=
  outcome.failure.elim .success Failure.code

/-- The last line on the error output, if the run failed. -/
def errorLine (outcome : Outcome) : Option String :=
  outcome.failure.map fun failure ↦ "error: " ++ failure.message

def log (layout : LogLayout) (threshold : Option Level) (outcome : Outcome) : List String :=
  (outcome.events.filter (·.level.shownAt threshold)).flatMap fun event ↦
    match layout with
    | .plain => event.plainLines
    | .json => [event.jsonLine]

end Outcome

/-- A run that failed before it did anything. -/
def Surroundings.fail (around : Surroundings) (failure : Failure) : Outcome :=
  { failure := some failure, folder := around.folder }

def runEncode (layout : Layout) (options : EncodeOptions) (around : Surroundings) : Outcome :=
  match options.payload.read around.folder with
  | .error failure => around.fail failure
  | .ok payload =>
    match options.frame payload with
    | .error failure => around.fail failure
    | .ok frame => { output := frame.report layout, folder := around.folder }

/-- What is said about a capture of `size` octets. A capture of at least one octet without a frame
is a failure, after the report. -/
def reportCapture (layout : Layout) (counters : Bool) (size : Nat) (capture : Capture)
    (around : Surroundings) : Outcome :=
  match capture.error with
  | some error =>
    { events := capture.events
      failure := some (.ofEndpoint "decode failed" error)
      folder := around.folder }
  | none =>
    { output := FrameRecord.report layout around.time capture.records ++
        (if counters then reportCounters layout capture.counters else [])
      events := capture.events ++
        (if 0 < capture.buffered then [.inputTruncated capture.buffered] else [])
      failure :=
        if capture.records.isEmpty ∧ 0 < size then
          some ⟨.invalidData, s!"no complete frames in {size} input bytes"⟩
        else none
      folder := around.folder }

def runDecode (layout : Layout) (options : DecodeOptions) (around : Surroundings) : Outcome :=
  match options.read around.folder around.input with
  | .error failure => around.fail failure
  | .ok octets =>
    match options.settings.resolve around.folder with
    | .error failure => around.fail failure
    | .ok config =>
      match Capture.ofOctets config around.ids octets with
      | .error error => around.fail (.ofEndpoint "service setup failed" error)
      | .ok capture => reportCapture layout options.counters octets.length capture around

def runHandshake (layout : Layout) (options : HandshakeOptions) (around : Surroundings) : Outcome :=
  let rehearsal := Rehearsal.run options around.ids
  match rehearsal.report with
  | .error failure =>
    { events := rehearsal.events, failure := some failure, folder := around.folder }
  | .ok report =>
    { output := report.report layout, events := rehearsal.events, folder := around.folder }

/-- What is said about a device that was listened to. -/
def reportListening (layout : Layout) (device : String) (listening : Listening)
    (around : Surroundings) : Outcome :=
  { output := listening.rounds.flatMap (FrameRecord.report layout around.time) ++
      (if listening.failure.isNone then reportCounters layout listening.counters else [])
    events := listening.events
    failure := listening.failure
    folder := around.folder.put device (.ok listening.contents) }

def runListen (layout : Layout) (options : ListenOptions) (around : Surroundings) : Outcome :=
  match options.settings.resolve around.folder with
  | .error failure => around.fail failure
  | .ok config =>
    match around.folder.open? options.device with
    | .error fault => around.fail (.ofIo ("failed opening " ++ options.device) fault)
    | .ok contents =>
      match Listening.ofContents options config around.readings around.ids contents with
      | .error error => around.fail (.ofEndpoint "service setup failed" error)
      | .ok listening => reportListening layout options.device listening around

def Command.run (layout : Layout) (command : Command) (around : Surroundings) : Outcome :=
  match command with
  | .encode options => runEncode layout options around
  | .decode options => runDecode layout options around
  | .handshake options => runHandshake layout options around
  | .listen options => runListen layout options around
  | .version extended =>
    { output := lines (if extended then description else [banner]), folder := around.folder }

def Command.files : Command → List String
  | .encode options =>
    match options.payload with
    | .file path => [path]
    | _ => []
  | .decode options => options.file.toList ++ options.settings.file.toList
  | .listen options => options.device :: options.settings.file.toList
  | .handshake _ | .version _ => []

def Command.readsInput : Command → Bool
  | .decode options => options.file.isNone
  | _ => false

def Command.device? : Command → Option String
  | .listen options => some options.device
  | _ => none

end FramedLink.Tool
