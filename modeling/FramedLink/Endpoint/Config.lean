import FramedLink.Frame.Header
import FramedLink.Frame.Integrity
import FramedLink.Time

/-!
# Settings of an endpoint

The sizes of the two regions, the spacing of connect requests, the time after which a partial packet
or a silent peer is given up, and the trailer mode. `fault?` finds the first setting with which no
endpoint can work: both regions must hold a handshake frame, every size derived from them must fit
the length field, and a peer must not be given up before it had a chance to answer.
-/

namespace FramedLink

/-- The smallest region that holds a handshake frame. -/
def minRegionSize : Nat := frameOverhead + 8

structure Config where
  /-- The connection type announced to the peer. -/
  connType : UInt16 := 0
  /-- Size of the incoming region. -/
  inSize : Nat := 256
  /-- Size of the outgoing region, header and trailer included. -/
  outSize : Nat := 256
  /-- How long a partial packet may be idle. -/
  stallTimeout : Millis := 5
  /-- Trailer mode of frames sent and received. -/
  integrity : Integrity := .unchecked
  /-- Least time between two connect requests. -/
  connectInterval : Millis := 1000
  /-- How long a peer may stay silent on a checked link; a link without this is not checked. -/
  quietTimeout : Option Millis := none
  deriving DecidableEq, Repr

/-- Why an endpoint can not work with its settings. -/
inductive ConfigFault where
  | inSizeBelow (size : Nat)
  | inSizeAbove (size : Nat)
  | outSizeBelow (size : Nat)
  | outSizeAbove (size : Nat)
  | quietBelowInterval (interval : Millis)
  /-- A reason of the application's own. -/
  | other (reason : String)
  deriving DecidableEq, Repr

namespace Config

def maxInSize : Nat := maxPayload + headerSize

def maxOutSize : Nat := maxPayload + frameOverhead

def ofSizes (inSize outSize : Nat) : Config :=
  { inSize, outSize }

def fault? (config : Config) : Option ConfigFault :=
  if config.inSize < minRegionSize then some (.inSizeBelow config.inSize)
  else if maxInSize < config.inSize then some (.inSizeAbove config.inSize)
  else if config.outSize < minRegionSize then some (.outSizeBelow config.outSize)
  else if maxOutSize < config.outSize then some (.outSizeAbove config.outSize)
  else if config.quietTimeout.any (· < config.connectInterval) then
    some (.quietBelowInterval config.connectInterval)
  else none

/-- Settings without a fault keep both regions within their bounds. -/
theorem bounds_of_valid (config : Config) (h : config.fault? = none) :
    minRegionSize ≤ config.inSize ∧ config.inSize ≤ maxInSize ∧
      minRegionSize ≤ config.outSize ∧ config.outSize ≤ maxOutSize := by
  unfold fault? at h
  repeat' split at h
  all_goals first | exact absurd h (Option.some_ne_none _) | omega

/-- The largest payload that a received header may announce. -/
def maxDeclared (config : Config) : Nat :=
  config.inSize - headerSize

/-- The largest payload that the peer is told to send. -/
def advertisedLimit (config : Config) : UInt16 :=
  UInt16.ofNat (min (config.inSize - (headerSize + 4)) maxPayload)

end Config

def ConfigFault.message : ConfigFault → String
  | .inSizeBelow size => s!"in_buf_size {size} is below the minimum of {minRegionSize}"
  | .inSizeAbove size => s!"in_buf_size {size} exceeds the maximum of {Config.maxInSize}"
  | .outSizeBelow size => s!"out_buf_size {size} is below the minimum of {minRegionSize}"
  | .outSizeAbove size => s!"out_buf_size {size} exceeds the maximum of {Config.maxOutSize}"
  | .quietBelowInterval interval =>
    s!"quiet_timeout_ms must be at least connect_interval_ms ({interval})"
  | .other reason => reason

end FramedLink
