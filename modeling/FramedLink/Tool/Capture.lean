import FramedLink.Tool.Record

/-!
# Captures

Octets that were captured from a link, run through the receiving side of an endpoint that makes a
record of every frame. Captured octets carry no timing, so the clock stands still and nothing counts
as stalled.
-/

namespace FramedLink.Tool

structure Capture where
  records : List FrameRecord
  counters : Counters
  /-- Octets of an incomplete frame at the end. -/
  buffered : Nat
  events : List Event
  /-- What ended the search before its time. -/
  error : Option EndpointError

namespace Capture

/-- A desk with octets to be received, on a wire of two pipes. -/
def desk (ids : IdSupply) (octets : Bytes) : Desk :=
  { ids, threshold := some .trace, pipes := #[Pipe.feed octets {}, {}] }

def environment : Environment Desk :=
  Bench.environment (.memory (Bench.pipe 0) (Bench.pipe 1))

/-- Looks for frames in octets. Each turn of receiving takes at least one octet, so their number
bounds the search. -/
def ofOctets (config : Config) (ids : IdSupply) (octets : Bytes) :
    Except EndpointError Capture :=
  match Endpoint.create environment config (desk ids octets) with
  | (.error error, _) => .error error
  | (.ok endpoint, desk) =>
    let (outcome, endpoint, desk) :=
      (recordTypes allTypes endpoint).poll environment (octets.length + 1) desk
    .ok {
      records := desk.journal.reverse
      counters := endpoint.counters
      buffered := endpoint.reception.filled
      events := desk.events.reverse
      error := match outcome with
        | .failed error => some error
        | _ => none }

end Capture

end FramedLink.Tool
