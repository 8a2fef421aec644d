import FramedLink.Endpoint.Event
import FramedLink.Frame.MessageId

/-!
# The state of an endpoint

Everything that an endpoint remembers apart from its handlers: its settings, what it knows about the
link and the peer, how much of a packet has been received, the outgoing region and the counters. The
parts of receiving that need nothing from outside are functions of this state: giving up a partial
packet, judging a header, searching for the next start marker, and judging a complete packet.

A packet is received in two steps. First the header is collected; as long as no header is accepted
`packetSize` is zero. An accepted header sets it to the size of the whole packet, and the rest is
collected up to that size.
-/

namespace FramedLink

/-- What an endpoint knows about the link. -/
structure LinkState where
  localId : UInt32
  /-- The id last announced by the peer, zero if none is known. -/
  remoteId : UInt32 := 0
  /-- The connection type last announced by the peer. -/
  remoteType : UInt16 := 0
  /-- The largest payload that the peer can receive, once it has answered. -/
  remoteLimit : Option UInt16 := none
  connected : Bool := false
  /-- When the peer last answered. -/
  lastResponse : Option Millis := none
  /-- When the next connect request is due. -/
  nextRequest : Option Millis := none
  requestIds : MessageIds := .host
  deriving DecidableEq

/-- How far the reception of a packet has come. -/
structure Reception where
  region : Incoming
  /-- Octets of the packet collected so far. -/
  filled : Nat := 0
  payloadSize : Nat := 0
  /-- Octets of the whole packet, zero before its header is accepted. -/
  packetSize : Nat := 0
  /-- When a partial packet counts as stalled. -/
  deadline : Option Millis := none
  deriving DecidableEq

namespace Reception

/-- Octets still missing from the header, or from the packet once its header is accepted. -/
def wanted (r : Reception) : Nat :=
  (if 0 < r.packetSize then r.packetSize else headerSize) - r.filled

/-- Octets to ask for when `ready` are available. -/
def portion (r : Reception) (ready : Nat) : Nat :=
  min (min ready (r.region.capacity - r.filled)) r.wanted

def clear (r : Reception) : Reception :=
  { region := r.region.reset }

/-- Keeps what follows the first `count` octets as the beginning of a header. -/
def dropFront (r : Reception) (count : Nat) : Reception :=
  { r with
    region := r.region.discardFront count r.filled
    filled := r.filled - count
    payloadSize := 0
    packetSize := 0 }

/-- The position of the next start marker after the first octet. -/
def nextMarker? (r : Reception) : Option Nat :=
  ((r.region.region.slice 1 r.filled).findIdx? (· == startMarker)).map (· + 1)

def header (r : Reception) : Except FrameError Header :=
  Header.decode (r.region.region.slice 0 headerSize)

def body (r : Reception) : Bytes :=
  r.region.region.slice 0 (headerSize + r.payloadSize)

def trailer (r : Reception) : UInt16 :=
  let start := headerSize + r.payloadSize
  UInt16.ofNat (LittleEndian.value (r.region.region.slice start (start + trailerSize)))

end Reception

/-- What an endpoint remembers apart from its handlers. -/
structure Station where
  config : Config
  link : LinkState
  reception : Reception
  outgoing : Outgoing
  counters : Counters := {}
  /-- Whether a packet is being handed to handlers. -/
  dispatching : Bool := false
  deriving DecidableEq

namespace Station

/-- The state of a new endpoint. The incoming region has room for the trailer of the largest packet
that is accepted. -/
def initial (config : Config) (localId : UInt32) : Station where
  config := config
  link := { localId }
  reception := { region := .ofCapacity (config.inSize + trailerSize) }
  outgoing := .ofCapacity config.outSize

def description (s : Station) : ConnectMessage :=
  ⟨s.link.localId, s.config.advertisedLimit, s.config.connType⟩

/-- Back to waiting for a header; the outgoing region starts over as well. -/
def clearReception (s : Station) : Station :=
  { s with reception := s.reception.clear, outgoing := s.outgoing.reset }

/-- Gives up a partial packet. Without one nothing is counted. -/
def giveUp (s : Station) : Station × Option Event :=
  let r := s.reception
  if 0 < r.filled then
    ({ s.clearReception with counters := { s.counters with stalls := s.counters.stalls + 1 } },
      some (.stalled r.filled r.packetSize s.config.stallTimeout))
  else (s.clearReception, none)

/-- What becomes of a partial packet when the next octets show up at a time. A packet is late when
the time is past its deadline, and not at the deadline itself. -/
def expire (s : Station) (now : Millis) : Station × Option Event :=
  if s.reception.deadline.any (· < now) then s.giveUp else (s, none)

def extendDeadline (s : Station) (now : Millis) : Station :=
  { s with reception := { s.reception with deadline := some (now.after s.config.stallTimeout) } }

/-- Takes up what a reading stored in the region from the end of the packet on, and counts `count`
octets as received. -/
def collect (s : Station) (stored : Bytes) (count : Nat) : Station :=
  { s with
    reception := { s.reception with
      region := s.reception.region.store s.reception.filled stored
      filled := s.reception.filled + count } }

/-- Keeps what follows the next start marker in a rejected header, or starts over if there is
none. -/
def resync (s : Station) : Station :=
  match s.reception.nextMarker? with
  | some position => { s with reception := s.reception.dropFront position }
  | none => s.clearReception

/-- Judges a collected header: it is accepted, or rejected for its marker or its length. -/
def judgeHeader (s : Station) : Station × Option Event :=
  match s.reception.header with
  | .ok header =>
    if header.payloadSize ≤ s.config.maxDeclared then
      ({ s with reception := { s.reception with
          payloadSize := header.payloadSize
          packetSize := header.frameSize } }, none)
    else
      let s := { s with counters := { s.counters with oversize := s.counters.oversize + 1 } }
      (s.resync, some (.oversize header.type header.length s.config.maxDeclared))
  | .error e =>
    let s := { s with counters := { s.counters with badMagic := s.counters.badMagic + 1 } }
    (s.resync, some (.noiseDiscarded e))

/-- What a complete packet deserves. -/
inductive Verdict where
  | deliver (header : Header)
  | badTrailer (error : FrameError)
  | unreadable (error : FrameError)

def judgePacket (s : Station) : Verdict :=
  match s.config.integrity.verify s.reception.body s.reception.trailer with
  | .error e => .badTrailer e
  | .ok () =>
    match s.reception.header with
    | .ok header => .deliver header
    | .error e => .unreadable e

/-- Opens the payload of a complete packet to readers. -/
def openPacket (s : Station) : Station :=
  { s with reception := { s.reception with
      region := s.reception.region.openPayload s.reception.payloadSize } }

def rewindIncoming (s : Station) : Station :=
  { s with reception := { s.reception with region := s.reception.region.rewind } }

/-- Whether the peer is known to take only smaller payloads. A limit of zero is no limit. -/
def refusedLimit? (s : Station) (size : Nat) : Option Nat :=
  match s.link.remoteLimit with
  | some limit => if limit ≠ 0 ∧ limit.toNat < size then some limit.toNat else none
  | none => none

end Station

end FramedLink
