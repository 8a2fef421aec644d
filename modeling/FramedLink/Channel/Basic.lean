import FramedLink.LittleEndian
import FramedLink.Channel.Error

/-!
# Channels

A channel is the way from a link to a single peer: it says how many octets are ready, hands them
over, and takes whole frames. Nothing it does blocks. What a channel is made of lies in the
surroundings `ω` of a link, which every call may change; so a channel may share queues with other
channels, may be fed from elsewhere, and may report whatever it likes.
-/

namespace FramedLink

/-- A place in `ω` that holds an `α`. -/
structure Slot (ω α : Type) where
  get : ω → α
  set : α → ω → ω

namespace Slot

variable {ω α β : Type}

def modify (slot : Slot ω α) (f : α → α) (w : ω) : ω :=
  slot.set (f (slot.get w)) w

def run (slot : Slot ω α) (f : α → β × α) (w : ω) : β × ω :=
  let (answer, next) := f (slot.get w)
  (answer, slot.set next w)

end Slot

/-- What a read did: the octets that reached the front of the reader's buffer, and the count that
was reported for them. A faithful channel reports how many it stored. -/
structure Reading where
  stored : Bytes
  count : Except ChannelError Nat

/-- A way to a single peer, inside surroundings `ω`. -/
structure Channel (ω : Type) where
  /-- How many octets can be read at once. -/
  available : ω → Except ChannelError Nat × ω
  /-- Reads into a buffer of a given size. -/
  read : Nat → ω → Reading × ω
  /-- Writes a frame; how many of its octets were taken. -/
  write : Bytes → ω → Except ChannelError Nat × ω

/-- What a buffer of `size` zeros holds after a reading, cut to the reported count. -/
def Reading.buffer (reading : Reading) (size count : Nat) : Bytes :=
  let stored := reading.stored.take size
  (stored ++ List.replicate (size - stored.length) 0).take count

end FramedLink
