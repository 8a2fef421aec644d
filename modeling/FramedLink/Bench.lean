import FramedLink.Endpoint.Receive
import FramedLink.Channel.Faulty
import FramedLink.Channel.Memory
import FramedLink.Channel.Stream

/-!
# A bench for endpoints

Surroundings in which any number of endpoints work: a clock and a supply of connection ids that all
of them share, pipes and streams for their channels, plans of faults, a record of events down to a
chosen level, and a journal for what handlers write down. Two endpoints whose channels use the same
two pipes the other way round talk to each other.

The clock is moved by hand, unless readings are set for it. Whatever a run reads, it reads only so
often, so a long enough list of readings stands for any clock.
-/

namespace FramedLink

instance {σ : Type} [Inhabited σ] : Inhabited (StreamChannel σ) := ⟨{ stream := default }⟩

/-- A bench with streams of type `σ` and journal entries of type `ι`. -/
structure Bench (σ ι : Type) where
  clock : ManualClock := ⟨0⟩
  /-- The readings that are set for the clock, next one first. -/
  readings : List Millis := []
  ids : IdSupply
  /-- The least severe level of events that is recorded; none at all without one. -/
  threshold : Option Level := none
  /-- The recorded events, newest first. -/
  events : List Event := []
  pipes : Array Pipe := #[]
  plans : Array FaultPlan := #[]
  streams : Array (StreamChannel σ) := #[]
  /-- What handlers wrote down, newest entry first. -/
  journal : List ι := []

namespace Bench

variable {σ ι : Type}

/-- Records an event if it matters enough. -/
def note (event : Event) (bench : Bench σ ι) : Bench σ ι :=
  if event.level.shownAt bench.threshold then { bench with events := event :: bench.events }
  else bench

def write (entry : ι) (bench : Bench σ ι) : Bench σ ι :=
  { bench with journal := entry :: bench.journal }

/-- Reads the clock: it shows what is set for it in turn, and then stands where it is. -/
def now (bench : Bench σ ι) : Millis × Bench σ ι :=
  match bench.readings with
  | [] => (bench.clock.now, bench)
  | reading :: later => (reading, { bench with clock := ⟨reading⟩, readings := later })

def idSlot : Slot (Bench σ ι) IdSupply :=
  ⟨Bench.ids, fun ids bench ↦ { bench with ids }⟩

def pipe (i : Nat) : Slot (Bench σ ι) Pipe :=
  ⟨fun bench ↦ bench.pipes.getD i {}, fun pipe bench ↦
    { bench with pipes := bench.pipes.setIfInBounds i pipe }⟩

def plan (i : Nat) : Slot (Bench σ ι) FaultPlan :=
  ⟨fun bench ↦ bench.plans.getD i {}, fun plan bench ↦
    { bench with plans := bench.plans.setIfInBounds i plan }⟩

def stream [Inhabited σ] (i : Nat) : Slot (Bench σ ι) (StreamChannel σ) :=
  ⟨fun bench ↦ bench.streams.getD i default, fun stream bench ↦
    { bench with streams := bench.streams.setIfInBounds i stream }⟩

/-- The channel that reads from one pipe and writes to another, with the faults of a plan. -/
def wiredChannel (incoming outgoing faults : Nat) : Channel (Bench σ ι) :=
  .faulty (plan faults) (.memory (pipe incoming) (pipe outgoing))

def streamChannel [Inhabited σ] [ByteStream σ] (i : Nat) : Channel (Bench σ ι) :=
  .stream (stream i) (note .streamEnded)

def environment (channel : Channel (Bench σ ι)) : Environment (Bench σ ι) where
  channel := channel
  now := now
  ids := idSlot
  note := note

end Bench

end FramedLink
