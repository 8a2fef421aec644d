import FramedLink.Endpoint.Station
import FramedLink.Channel.Stream

/-!
# Descriptions of endpoints

The state of an endpoint and of a channel over a stream as one line of text, for diagnostics. Every
part is shown with its name, in a fixed order; what is held inside and of no use to a reader is only
hinted at by two dots.
-/

namespace FramedLink

namespace Describe

/-- A named group of named parts. -/
def group (name : String) (parts : List (String × String)) (more : Bool) : String :=
  let shown := parts.map fun (part, value) ↦ part ++ ": " ++ value
  name ++ " \x7b " ++ ", ".intercalate (if more then shown ++ [".."] else shown) ++ " \x7d"

/-- A value that may be missing. -/
def optional (value : Option Nat) : String :=
  match value with
  | some n => "Some(" ++ toString n ++ ")"
  | none => "None"

def integrity : Integrity → String
  | .unchecked => "None"
  | .crc => "Crc16"

def config (config : Config) : String :=
  group "ServiceConfig"
    [("conn_type", toString config.connType), ("in_buf_size", toString config.inSize),
     ("out_buf_size", toString config.outSize),
     ("stall_timeout_ms", toString config.stallTimeout),
     ("integrity", integrity config.integrity),
     ("connect_interval_ms", toString config.connectInterval),
     ("quiet_timeout_ms", optional (config.quietTimeout.map UInt64.toNat))] false

def streamChannel {σ : Type} (channel : StreamChannel σ) : String :=
  group "StreamTransport"
    [("pending", toString channel.pending.size), ("eof", toString channel.ended)] false

def station (channel : String) (s : Station) : String :=
  group "Service"
    [("transport", channel), ("config", config s.config), ("conn_id", toString s.link.localId),
     ("remote_conn_id", toString s.link.remoteId), ("remote_conn_type", toString s.link.remoteType),
     ("remote_max_payload", optional (s.link.remoteLimit.map UInt16.toNat)),
     ("connected", toString s.link.connected), ("buffered", toString s.reception.filled),
     ("packet_size", toString s.reception.packetSize),
     ("stats", Event.describeCounters s.counters)] true

end Describe

end FramedLink
