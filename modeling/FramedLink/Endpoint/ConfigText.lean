import FramedLink.Endpoint.Config
import FramedLink.Text.Json

/-!
# Settings as JSON text

Settings are written as an object with a member for each setting, or as an array with the settings
in their fixed order. What is left out keeps its default. Members of other names are passed over; a
setting given twice, a number outside its range and an array that is too long are refused.
-/

namespace FramedLink.Config

open Text (Json)

def naturalBelow (bound : Nat) : Json → Option Nat
  | .natural value => if value < bound then some value else none
  | _ => none

def readMillis (value : Json) : Option Millis :=
  (naturalBelow UInt64.size value).map UInt64.ofNat

/-- A trailer mode, by its name or as an object with the name as its only member. -/
def readIntegrity : Json → Option Integrity
  | .text name => Integrity.ofName? name
  | .object [(name, .null)] => Integrity.ofName? name
  | _ => none

/-- The names of the settings in their fixed order. -/
def settingNames : List String :=
  ["conn_type", "in_buf_size", "out_buf_size", "stall_timeout_ms", "integrity",
    "connect_interval_ms", "quiet_timeout_ms"]

/-- Settings with the one of a given name replaced. -/
def withSetting (config : Config) (name : String) (value : Json) : Option Config :=
  match name with
  | "conn_type" =>
    (naturalBelow UInt16.size value).map fun n ↦ { config with connType := UInt16.ofNat n }
  | "in_buf_size" => (naturalBelow UInt64.size value).map fun n ↦ { config with inSize := n }
  | "out_buf_size" => (naturalBelow UInt64.size value).map fun n ↦ { config with outSize := n }
  | "stall_timeout_ms" => (readMillis value).map fun t ↦ { config with stallTimeout := t }
  | "integrity" => (readIntegrity value).map fun mode ↦ { config with integrity := mode }
  | "connect_interval_ms" => (readMillis value).map fun t ↦ { config with connectInterval := t }
  | "quiet_timeout_ms" =>
    match value with
    | .null => some { config with quietTimeout := none }
    | value => (readMillis value).map fun t ↦ { config with quietTimeout := some t }
  | _ => some config

/-- Settings after named values in order; `seen` holds the settings that were given before. -/
def withMembers (config : Config) (seen : List String) : List (String × Json) → Option Config
  | [] => some config
  | (name, value) :: rest =>
    if name ∈ settingNames then
      if name ∈ seen then none
      else
        match config.withSetting name value with
        | some config => config.withMembers (name :: seen) rest
        | none => none
    else config.withMembers seen rest

def ofJson? : Json → Option Config
  | .object members => withMembers {} [] members
  | .array items =>
    if items.length ≤ settingNames.length then withMembers {} [] (settingNames.zip items) else none
  | _ => none

def parse (text : String) : Option Config :=
  (Json.parse text).bind ofJson?

def toJson (config : Config) : Json :=
  .object
    [("conn_type", .natural config.connType.toNat),
     ("in_buf_size", .natural config.inSize),
     ("out_buf_size", .natural config.outSize),
     ("stall_timeout_ms", .natural config.stallTimeout.toNat),
     ("integrity", .text config.integrity.name),
     ("connect_interval_ms", .natural config.connectInterval.toNat),
     ("quiet_timeout_ms", config.quietTimeout.elim .null fun t ↦ .natural t.toNat)]

end FramedLink.Config
