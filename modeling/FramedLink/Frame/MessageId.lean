/-!
# Message ids

Each side of a link numbers its messages within a range of its own, over and over. The host counts
from 1 to 127 and the device from 128 to 255, so that ids of the two sides never meet and 0 stays
free for messages that expect no answer.
-/

namespace FramedLink

/-- A counter that runs through the ids from `first` to `last` and starts over. -/
structure MessageIds where
  first : UInt8
  last : UInt8
  next : UInt8
  deriving DecidableEq, Repr

namespace MessageIds

def host : MessageIds := ⟨1, 127, 1⟩

def device : MessageIds := ⟨128, 255, 128⟩

def advance (ids : MessageIds) : MessageIds :=
  { ids with next := if ids.last ≤ ids.next then ids.first else ids.next + 1 }

def take (ids : MessageIds) : UInt8 × MessageIds :=
  (ids.next, ids.advance)

def skip (count : Nat) (ids : MessageIds) : MessageIds :=
  count.repeat advance ids

def upcoming : (count : Nat) → MessageIds → List UInt8
  | 0, _ => []
  | count + 1, ids => ids.next :: upcoming count ids.advance

end MessageIds

end FramedLink
