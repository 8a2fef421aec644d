/-!
# Counters

What an endpoint counts from its beginning on. The counters have names, under which reports list
them in a fixed order.
-/

namespace FramedLink

structure Counters where
  /-- Packets handed to the handlers. -/
  framesDispatched : Nat := 0
  /-- Packets of a type without a handler. -/
  framesUnhandled : Nat := 0
  /-- Frames that the channel took. -/
  framesSent : Nat := 0
  /-- Headers with a wrong start marker. -/
  badMagic : Nat := 0
  /-- Headers that announce more than the incoming region holds. -/
  oversize : Nat := 0
  /-- Partial packets given up because nothing more came in time. -/
  stalls : Nat := 0
  /-- Packets dropped for their trailer. -/
  checksumFailures : Nat := 0
  /-- Handler runs that ended in an error. -/
  handlerErrors : Nat := 0
  /-- Changes of the peer's connection id. -/
  peerResets : Nat := 0
  /-- Times the link came up. -/
  connects : Nat := 0
  /-- Times the link was taken down from this side. -/
  disconnects : Nat := 0
  deriving DecidableEq, Repr

/-- The counters by name, in the order of reports. -/
def Counters.entries (counters : Counters) : List (String × Nat) :=
  [("frames_dispatched", counters.framesDispatched),
   ("frames_unhandled", counters.framesUnhandled),
   ("frames_sent", counters.framesSent),
   ("bad_magic", counters.badMagic),
   ("oversize", counters.oversize),
   ("stalls", counters.stalls),
   ("checksum_failures", counters.checksumFailures),
   ("handler_errors", counters.handlerErrors),
   ("peer_resets", counters.peerResets),
   ("connects", counters.connects),
   ("disconnects", counters.disconnects)]

end FramedLink
