import FramedLink.Endpoint.Event
import FramedLink.Tool.Options

/-!
# Commands

What the tool can be asked to do, and how a command line asks for it. A command line is a few
options for the whole tool, the name of a command, and what belongs to the command; the options for
the whole tool may also stand behind the name, and count there if they stand in both places.

`Request.ofWords` reads a command line. It stops at the first word that is wrong, or at the option
that asks for the version if that comes first.
-/

namespace FramedLink.Tool

inductive Layout where
  /-- One JSON object a line. -/
  | json
  /-- Ruled tables. -/
  | table
  /-- Short lines for people. -/
  | pretty
  /-- Octets as they are. -/
  | raw
  deriving DecidableEq, Repr

inductive LogLayout where
  | plain
  | json
  deriving DecidableEq, Repr

/-- Settings for an endpoint: a file of settings, and single settings on top of it. -/
structure SettingsOptions where
  file : Option String := none
  inSize : Option Nat := none
  outSize : Option Nat := none
  stallTimeout : Option Millis := none
  connType : Option UInt16 := none
  crc : Bool := false
  quietTimeout : Option Millis := none
  deriving DecidableEq, Repr

inductive PayloadSource where
  | empty
  | text (text : String)
  | hex (text : String)
  | file (path : String)
  deriving DecidableEq, Repr

structure EncodeOptions where
  type : UInt8
  id : UInt8
  payload : PayloadSource
  integrity : Integrity
  deriving DecidableEq, Repr

/-- What is to be decoded: a file or else the standard input. -/
structure DecodeOptions where
  file : Option String
  hex : Bool
  counters : Bool
  settings : SettingsOptions
  deriving DecidableEq, Repr

structure HandshakeOptions where
  hostId : UInt32
  hostType : UInt16
  deviceId : Option UInt32
  deviceType : UInt16
  deviceInSize : Nat
  deriving DecidableEq, Repr

/-- What is to be listened to, and for how long. -/
structure ListenOptions where
  device : String
  connect : Bool
  types : Option (List UInt8)
  count : Option Nat
  idle : Millis
  settings : SettingsOptions
  deriving DecidableEq, Repr

inductive Command where
  | encode (options : EncodeOptions)
  | decode (options : DecodeOptions)
  | handshake (options : HandshakeOptions)
  | listen (options : ListenOptions)
  | version (extended : Bool)
  deriving DecidableEq, Repr

structure Invocation where
  layout : Layout
  logLayout : LogLayout
  /-- The least severe level that is logged; nothing is without one. -/
  threshold : Option Level
  command : Command

inductive Request where
  | misuse
  | version
  | run (invocation : Invocation)

/-! ## The options -/

def globalShapes : List OptionShape :=
  [{ name := "format", kind := .choice ["json", "table", "pretty", "raw"] },
   { name := "log-format", kind := .choice ["text", "json"] },
   { name := "log-level", kind := .choice ["off", "error", "warn", "info", "debug", "trace"] }]

def versionShape : OptionShape := { name := "version", letter := some 'V' }

def settingsShapes : List OptionShape :=
  [{ name := "config", kind := .path },
   { name := "in-buf-size", kind := .unsigned UInt64.size },
   { name := "out-buf-size", kind := .unsigned UInt64.size },
   { name := "stall-timeout-ms", kind := .unsigned UInt64.size },
   { name := "conn-type", kind := .small UInt16.size },
   { name := "crc" },
   { name := "quiet-timeout-ms", kind := .unsigned UInt64.size }]

def encodeShapes : List OptionShape :=
  [{ name := "type", letter := some 't', kind := .small UInt8.size },
   { name := "id", letter := some 'i', kind := .small UInt8.size },
   { name := "data", kind := .text },
   { name := "hex", kind := .text },
   { name := "file", kind := .path },
   { name := "crc" }]

def decodeShapes : List OptionShape :=
  [{ name := "hex" }, { name := "no-stats" }] ++ settingsShapes

def handshakeShapes : List OptionShape :=
  [{ name := "conn-id", kind := .connId },
   { name := "conn-type", kind := .small UInt16.size },
   { name := "device-conn-id", kind := .connId },
   { name := "device-conn-type", kind := .small UInt16.size },
   { name := "device-in-buf-size", kind := .unsigned UInt64.size }]

def listenShapes : List OptionShape :=
  [{ name := "connect" },
   { name := "types", kind := .numbers UInt8.size },
   { name := "count", kind := .unsigned UInt64.size },
   { name := "idle-ms", kind := .unsigned UInt64.size }] ++ settingsShapes

def versionShapes : List OptionShape := [{ name := "extended" }]

def Given.millis? (given : Given) (name : String) : Option Millis :=
  (given.number? name).map UInt64.ofNat

def SettingsOptions.ofGiven (given : Given) : SettingsOptions where
  file := given.text? "config"
  inSize := given.number? "in-buf-size"
  outSize := given.number? "out-buf-size"
  stallTimeout := given.millis? "stall-timeout-ms"
  connType := (given.number? "conn-type").map UInt16.ofNat
  crc := given.has "crc"
  quietTimeout := given.millis? "quiet-timeout-ms"

/-- The source of a payload. At most one may be given. -/
def PayloadSource.ofGiven (given : Given) : Option PayloadSource :=
  match given.text? "data", given.text? "hex", given.text? "file" with
  | none, none, none => some .empty
  | some data, none, none => some (.text data)
  | none, some digits, none => some (.hex digits)
  | none, none, some path => some (.file path)
  | _, _, _ => none

def EncodeOptions.ofGiven (given : Given) : Option EncodeOptions :=
  match given.operands, given.number? "type", PayloadSource.ofGiven given with
  | [], some type, some payload =>
    some {
      type := UInt8.ofNat type
      id := UInt8.ofNat ((given.number? "id").getD 0)
      payload
      integrity := if given.has "crc" then .crc else .unchecked }
  | _, _, _ => none

def DecodeOptions.ofGiven (given : Given) : Option DecodeOptions :=
  let options (file : Option String) : DecodeOptions := {
    file
    hex := given.has "hex"
    counters := !given.has "no-stats"
    settings := .ofGiven given }
  match given.operands with
  | [] => some (options none)
  | [file] => if file.isEmpty then none else some (options (some file))
  | _ => none

def HandshakeOptions.ofGiven (given : Given) : Option HandshakeOptions :=
  if given.operands.isEmpty then
    some {
      hostId := UInt32.ofNat ((given.number? "conn-id").getD 1)
      hostType := UInt16.ofNat ((given.number? "conn-type").getD 0)
      deviceId := (given.number? "device-conn-id").map UInt32.ofNat
      deviceType := UInt16.ofNat ((given.number? "device-conn-type").getD 0)
      deviceInSize := (given.number? "device-in-buf-size").getD 256 }
  else none

def ListenOptions.ofGiven (given : Given) : Option ListenOptions :=
  match given.operands with
  | [device] =>
    if device.isEmpty then none
    else
      some {
        device
        connect := given.has "connect"
        types := if given.has "types" then some ((given.numbers "types").map UInt8.ofNat) else none
        count := given.number? "count"
        idle := (given.millis? "idle-ms").getD 1
        settings := .ofGiven given }
  | _ => none

/-- The options of a command and how it is made from what was given, by its name. -/
def commandNamed? (name : String) :
    Option (List OptionShape × (Given → Option Command)) :=
  match name with
  | "encode" => some (encodeShapes, fun given ↦ (EncodeOptions.ofGiven given).map .encode)
  | "decode" => some (decodeShapes, fun given ↦ (DecodeOptions.ofGiven given).map .decode)
  | "handshake" =>
    some (handshakeShapes, fun given ↦ (HandshakeOptions.ofGiven given).map .handshake)
  | "listen" => some (listenShapes, fun given ↦ (ListenOptions.ofGiven given).map .listen)
  | "version" =>
    some (versionShapes, fun given ↦
      if given.operands.isEmpty then some (.version (given.has "extended")) else none)
  | _ => none

def Layout.ofName? : String → Option Layout
  | "json" => some .json
  | "table" => some .table
  | "pretty" => some .pretty
  | "raw" => some .raw
  | _ => none

def thresholdOfName : String → Option Level
  | "error" => some .error
  | "warn" => some .warn
  | "info" => some .info
  | "debug" => some .debug
  | "trace" => some .trace
  | _ => none

/-- The text given for an option of the whole tool, behind the command or else before it. -/
def globalText? (before behind : Given) (name : String) : Option String :=
  (behind.text? name).or (before.text? name)

/-- The run that a command makes with the options of the whole tool. -/
def Invocation.ofGiven (fallback : Layout) (before behind : Given) (command : Command) :
    Invocation where
  layout := ((globalText? before behind "format").bind Layout.ofName?).getD fallback
  logLayout := if globalText? before behind "log-format" = some "json" then .json else .plain
  threshold := thresholdOfName ((globalText? before behind "log-level").getD "warn")
  command

def Request.ofCommand (fallback : Layout) (before : Given) : List String → Request
  | [] => .misuse
  | name :: words =>
    match commandNamed? name with
    | none => .misuse
    | some (shapes, make) =>
      match Given.ofItems (scan (globalShapes ++ shapes) words) with
      | none => .misuse
      | some behind =>
        match make behind with
        | none => .misuse
        | some command => .run (.ofGiven fallback before behind command)

/-- Reads the items in front of the command in order, and then the rest. -/
def Request.ofItems (fallback : Layout) (rest : List String) (before : Given) :
    List Item → Request
  | [] => ofCommand fallback before rest
  | .option shape value :: items =>
    if shape = versionShape then .version
    else
      match before.add (.option shape value) with
      | some before => ofItems fallback rest before items
      | none => .misuse
  | _ :: _ => .misuse

/-- Reads a command line. Results take the `fallback` layout if none is asked for. -/
def Request.ofWords (fallback : Layout) (words : List String) : Request :=
  let (items, rest) := scanLeading (versionShape :: globalShapes) words
  ofItems fallback rest {} items

end FramedLink.Tool
