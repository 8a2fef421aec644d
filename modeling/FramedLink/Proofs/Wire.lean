import Mathlib.Logic.Function.Basic
import FramedLink.Channel.Memory
import FramedLink.Proofs.Reception.Turn

/-!
# Two ends of a wire

The surroundings of two endpoints that are joined by a pair of pipes, each end reading from the pipe
toward it and writing to the pipe toward the other. Everything that an end notes is kept, oldest
first, so that what was sent, what was dispatched and whether the link is up can be read off its
notes. What else there is, clocks included, belongs to the applications.
-/

namespace FramedLink

/-- The two ends. -/
inductive End where
  | near
  | far
  deriving DecidableEq

namespace End

def pick {α : Type} (near far : α) : End → α
  | .near => near
  | .far => far

def other : End → End
  | .near => .far
  | .far => .near

@[simp]
theorem other_other (x : End) : x.other.other = x := by
  cases x <;> rfl

@[simp]
theorem other_ne (x : End) : x.other ≠ x := by
  cases x <;> decide

@[simp]
theorem ne_other (x : End) : x ≠ x.other :=
  (other_ne x).symm

theorem eq_or_eq_other (x y : End) : y = x ∨ y = x.other := by
  cases x <;> cases y <;> simp [other]

end End

namespace Event

def dispatched? : Event → Option Frame
  | .dispatching header payload => some ⟨header, payload⟩
  | _ => none

def sent? : Event → Option Frame
  | .sent type id payload => some ⟨.plain type id (UInt16.ofNat payload.length), payload⟩
  | _ => none

theorem IsRefusal.dispatched? {event : Event} (h : event.IsRefusal) : event.dispatched? = none := by
  cases event <;> first | rfl | cases h

theorem IsRefusal.sent? {event : Event} (h : event.IsRefusal) : event.sent? = none := by
  cases event <;> first | rfl | cases h

/-- A frame that was sent announces the length of its payload. -/
theorem payloadSize_of_sent? {event : Event} {frame : Frame} (h : event.sent? = some frame)
    (hmax : frame.payload.length ≤ maxPayload) :
    frame.header.payloadSize = frame.payload.length := by
  cases event with
  | sent type id payload =>
    obtain rfl := Option.some_inj.mp h
    unfold maxPayload at hmax
    exact UInt16.toNat_ofNat_of_lt' (Nat.lt_succ_of_le hmax)
  | _ => cases h

/-- Whether the link is up after an event. -/
def linkAfter (up : Bool) : Event → Bool
  | .connected _ => true
  | .disconnected .. => false
  | _ => up

theorem IsRefusal.linkAfter {event : Event} (h : event.IsRefusal) (up : Bool) :
    Event.linkAfter up event = up := by
  cases event <;> first | rfl | cases h

end Event

/-- The packets dispatched, in order. -/
def deliveries (notes : List Event) : List Frame :=
  notes.filterMap Event.dispatched?

def sends (notes : List Event) : List Frame :=
  notes.filterMap Event.sent?

/-- Whether the link is up: the last that was noted about it is that it came up. -/
def linkUp (notes : List Event) : Bool :=
  notes.foldl Event.linkAfter false

@[simp]
theorem deliveries_append (notes more : List Event) :
    deliveries (notes ++ more) = deliveries notes ++ deliveries more :=
  List.filterMap_append

@[simp]
theorem sends_append (notes more : List Event) :
    sends (notes ++ more) = sends notes ++ sends more :=
  List.filterMap_append

@[simp]
theorem linkUp_append (notes more : List Event) :
    linkUp (notes ++ more) = more.foldl Event.linkAfter (linkUp notes) :=
  List.foldl_append

@[simp]
theorem sends_sent (notes : List Event) (type id : UInt8) (payload : Bytes) :
    sends (notes ++ [.sent type id payload]) =
      sends notes ++ [⟨.plain type id (UInt16.ofNat payload.length), payload⟩] :=
  sends_append ..

theorem sends_of_silent (notes : List Event) {event : Event} (h : event.sent? = none) :
    sends (notes ++ [event]) = sends notes := by
  rw [sends_append]
  simp [sends, h]

@[simp]
theorem deliveries_dispatching (notes : List Event) (header : Header) (payload : Bytes) :
    deliveries (notes ++ [.dispatching header payload]) =
      deliveries notes ++ [⟨header, payload⟩] :=
  deliveries_append ..

theorem deliveries_of_silent (notes : List Event) {event : Event} (h : event.dispatched? = none) :
    deliveries (notes ++ [event]) = deliveries notes := by
  rw [deliveries_append]
  simp [deliveries, h]

/-- The frames of one scan and of another behind it. -/
theorem Scan.frames_append (first later : List Finding) (rest : Bytes) :
    (Scan.mk (first ++ later) rest).frames =
      (Scan.mk first rest).frames ++ (Scan.mk later rest).frames :=
  List.filterMap_append

section Context

variable {α : Type}

/-- Every event of some notes is as it has to be after those before it. -/
def InContext (P : List α → α → Prop) (notes : List α) : Prop :=
  ∀ before event after, notes = before ++ event :: after → P before event

theorem inContext_nil (P : List α → α → Prop) : InContext P [] := by
  intro before event after h
  simp at h

/-- It is enough to look at each event in turn. -/
theorem inContext_iff {P : List α → α → Prop} {notes : List α} :
    InContext P notes ↔ ∀ i : Fin notes.length, P (notes.take i) notes[i] := by
  constructor
  · intro h i
    apply h _ _ (notes.drop (i + 1))
    rw [Fin.getElem_fin, List.getElem_cons_drop, List.take_append_drop]
  · rintro h before event after rfl
    have hevent := h ⟨before.length, by simp⟩
    simpa using hevent

instance {P : List α → α → Prop} [∀ before event, Decidable (P before event)]
    (notes : List α) : Decidable (InContext P notes) :=
  decidable_of_iff _ inContext_iff.symm

theorem InContext.append {P : List α → α → Prop} {notes : List α} {event : α}
    (h : InContext P notes) (hevent : P notes event) : InContext P (notes ++ [event]) := by
  intro before other after hsplit
  rcases List.eq_nil_or_concat after with rfl | ⟨after, last, rfl⟩
  · obtain ⟨rfl, heq⟩ := List.append_inj' hsplit rfl
    obtain rfl := List.singleton_inj.mp heq
    exact hevent
  · rw [List.concat_eq_append, ← List.cons_append, ← List.append_assoc] at hsplit
    exact h before other after (List.append_inj' hsplit rfl).1

end Context

/-! ## Surroundings -/

/-- The surroundings of the two ends, with what belongs to the applications. -/
structure Wire (σ : Type) where
  /-- The pipe from which an end reads. -/
  toward : End → Pipe
  /-- Where an end takes connection ids from. -/
  ids : End → IdSupply
  /-- What an end has noted, oldest first. -/
  noted : End → List Event
  app : σ

namespace Wire

variable {σ : Type}

def fresh (ids : End → IdSupply) (app : σ) : Wire σ where
  toward _ := {}
  ids := ids
  noted _ := []
  app := app

def pipe (x : End) : Slot (Wire σ) Pipe where
  get w := w.toward x
  set pipe w := { w with toward := Function.update w.toward x pipe }

def supply (x : End) : Slot (Wire σ) IdSupply where
  get w := w.ids x
  set supply w := { w with ids := Function.update w.ids x supply }

def note (x : End) (event : Event) (w : Wire σ) : Wire σ :=
  { w with noted := Function.update w.noted x (w.noted x ++ [event]) }

/-- The openings of an end, with a clock that is read off what belongs to the applications. -/
def environment (clock : σ → Millis × σ) (x : End) : Environment (Wire σ) where
  channel := .memory (pipe x) (pipe x.other)
  now w := ((clock w.app).1, { w with app := (clock w.app).2 })
  ids := supply x
  note := note x

@[simp]
theorem noted_note (x : End) (event : Event) (w : Wire σ) :
    (w.note x event).noted x = w.noted x ++ [event] :=
  Function.update_self ..

@[simp]
theorem noted_note_other (x : End) (event : Event) (w : Wire σ) :
    (w.note x event).noted x.other = w.noted x.other :=
  Function.update_of_ne (End.other_ne x) ..

@[simp]
theorem toward_note (x : End) (event : Event) (w : Wire σ) :
    (w.note x event).toward = w.toward := rfl

/-- An end has read its clock. -/
def ticked (clock : σ → Millis × σ) (w : Wire σ) : Wire σ :=
  { w with app := (clock w.app).2 }

/-- Octets have passed out of the pipe toward an end. -/
def passed (x : End) (count : Nat) (w : Wire σ) : Wire σ :=
  (pipe x).set { w.toward x with queue := ((w.toward x).queue.pop count).2 } w

theorem toward_passed (x : End) (count : Nat) (w : Wire σ) :
    (w.passed x count).toward x =
      { w.toward x with queue := ((w.toward x).queue.pop count).2 } :=
  Function.update_self ..

theorem octets_passed (x : End) (count : Nat) (w : Wire σ) :
    ((w.passed x count).toward x).queue.octets = (w.toward x).queue.octets.drop count := by
  rw [toward_passed, ByteQueue.octets_pop_snd]

theorem cap_passed (x : End) (count : Nat) (w : Wire σ) :
    ((w.passed x count).toward x).cap = (w.toward x).cap := by
  rw [toward_passed]

/-- No more passes than there is. -/
theorem passed_length_take (x : End) (count : Nat) (w : Wire σ) :
    w.passed x ((w.toward x).queue.octets.take count).length = w.passed x count := by
  have hqueue : ((w.toward x).queue.pop ((w.toward x).queue.octets.take count).length).2 =
      ((w.toward x).queue.pop count).2 := by
    apply ByteQueue.ext
    rw [ByteQueue.octets_pop_snd, ByteQueue.octets_pop_snd, List.length_take]
    rcases Nat.le_total count (w.toward x).queue.octets.length with hle | hle
    · rw [Nat.min_eq_left hle]
    · rw [Nat.min_eq_right hle, List.drop_length, List.drop_of_length_le hle]
  rw [passed, hqueue, passed]

/-- A read takes octets off the front of the pipe. -/
theorem read_environment (clock : σ → Millis × σ) (x : End) (size : Nat) (w : Wire σ) :
    let octets := (w.toward x).queue.octets.take ((w.toward x).capped size)
    (environment clock x).channel.read size w =
      (⟨octets, .ok octets.length⟩, w.passed x octets.length) := by
  intro octets
  rw [passed_length_take]
  rfl

/-- An end has taken octets out of the pipe toward it, and read its clock. -/
structure Drained (clock : σ → Millis × σ) (x : End) (octets : Bytes) (w w' : Wire σ) :
    Prop where
  queue : (w.toward x).queue.octets = octets ++ (w'.toward x).queue.octets
  cap : (w'.toward x).cap = (w.toward x).cap
  other : w'.toward x.other = w.toward x.other
  ids : w'.ids = w.ids
  noted : w'.noted = w.noted
  app : w'.app = (clock w.app).2

theorem drained_passed (clock : σ → Millis × σ) {x : End} {octets : Bytes} {w : Wire σ}
    (h : octets <+: (w.toward x).queue.octets) :
    Drained clock x octets w ((w.ticked clock).passed x octets.length) where
  queue := by
    have hpopped : (((w.ticked clock).passed x octets.length).toward x).queue.octets =
        (w.toward x).queue.octets.drop octets.length := octets_passed ..
    obtain ⟨rest, hrest⟩ := h
    rw [hpopped, ← hrest, List.drop_left]
  cap := cap_passed ..
  other := Function.update_of_ne (End.other_ne x) ..
  ids := rfl
  noted := rfl
  app := rfl

end Wire

namespace Endpoint

variable {σ : Type} {clock : σ → Millis × σ} {x : End} {config : Config}
variable {e : Endpoint (Wire σ)} {w : Wire σ}

theorem available_wire (clock : σ → Millis × σ) (x : End) (w : Wire σ) :
    (Wire.environment clock x).channel.available w = (.ok (w.toward x).available, w) := rfl

/-- A turn at an end toward which something is ready takes up octets off the front of the pipe, no
more than are wanted, and judges what it holds. -/
theorem Receiving.turn_passed (h : e.Receiving config) (hready : (w.toward x).available ≠ 0)
    (htime : ∀ time, e.reception.deadline = some time → (clock w.app).1 ≤ time) :
    ∃ octets, octets ≠ [] ∧ octets.length ≤ e.reception.wanted ∧
      octets <+: (w.toward x).queue.octets ∧
      e.turn (Wire.environment clock x) w =
        let advanced := (e.taking (clock w.app).1 octets).advance (Wire.environment clock x)
          e.reception.filled ((w.ticked clock).passed x octets.length)
        (.received advanced.1, advanced.2) := by
  let count := e.reception.portion (w.toward x).available
  let octets := (w.toward x).queue.octets.take count
  have hcount : count ≤ (w.toward x).available := Reception.portion_le_ready _ _
  have hlength : octets.length = count := by
    have hqueue := (w.toward x).available_le_length
    rw [List.length_take]
    omega
  have hpositive : 0 < count := h.sound.portion_pos h.wanted (Nat.pos_of_ne_zero hready)
  have hoctets : octets ≠ [] := fun h ↦ by
    rw [h, List.length_nil] at hlength
    omega
  have hread : (Wire.environment clock x).channel.read count (w.ticked clock) =
      (⟨octets, .ok octets.length⟩, (w.ticked clock).passed x octets.length) := by
    have hcapped : ((w.ticked clock).toward x).capped count = count := Pipe.capped_of_le hcount
    have hread := Wire.read_environment clock x count (w.ticked clock)
    rwa [hcapped] at hread
  have hwanted : octets.length ≤ e.reception.wanted :=
    hlength.symm ▸ Reception.portion_le_wanted _ _
  exact ⟨octets, hoctets, hwanted, List.take_prefix _ _,
    h.turn_taking (available_wire clock x w) (Nat.pos_of_ne_zero hready)
      (show (Wire.environment clock x).now w = ((clock w.app).1, w.ticked clock) from rfl) htime
      hread hoctets (Nat.le_of_eq hlength)⟩

/-- A turn at an end toward which something is ready comes to a scan of the octets held and those
taken out of the pipe, which are no more than wanted. -/
theorem Receiving.turn_wire (h : e.Receiving config) (hready : (w.toward x).available ≠ 0)
    (htime : ∀ time, e.reception.deadline = some time → (clock w.app).1 ≤ time) :
    ∃ octets w₁ result, octets ≠ [] ∧ octets.length ≤ e.reception.wanted ∧
      Wire.Drained clock x octets w w₁ ∧
      e.turn (Wire.environment clock x) w = (.received result.1, result.2) ∧
      Resolved (Wire.environment clock x) (e.taking (clock w.app).1 octets) w₁
        (config.scan (e.reception.held ++ octets)) result := by
  obtain ⟨octets, hoctets, hwanted, hfront, hturn⟩ := h.turn_passed hready htime
  exact ⟨octets, _, _, hoctets, hwanted, Wire.drained_passed clock hfront, hturn,
    h.advance_resolved _ hwanted _⟩

/-- An invariant of turns toward which something is ready, each of which takes something out of the
pipe, holds at the end of a poll, and nothing is ready then. -/
theorem Receiving.poll_wire (h : e.Receiving config)
    {I : Nat → Nat → Endpoint (Wire σ) → Wire σ → Prop}
    (hturn : ∀ {fuel packets e w}, (w.toward x).available ≠ 0 → I (fuel + 1) packets e w →
      ∃ result : Nat × Endpoint (Wire σ) × Wire σ,
        e.turn (Wire.environment clock x) w = (.received result.1, result.2) ∧
        (result.2.2.toward x).queue.octets.length < (w.toward x).queue.octets.length ∧
        I fuel (packets + result.1) result.2.1 result.2.2)
    {fuel : Nat} (hfuel : (w.toward x).queue.octets.length < fuel) (hI : I fuel 0 e w) :
    ∃ left packets e' w', e.poll (Wire.environment clock x) fuel w = (.done packets, e', w') ∧
      (w'.toward x).available = 0 ∧ I left packets e' w' := by
  have hready {fuel packets : Nat} {e : Endpoint (Wire σ)} {w : Wire σ}
      (hI : I (fuel + 1) packets e w) :
      (Wire.environment clock x).channel.available w = (.ok 0, w) ∨
      ∃ result : Nat × Endpoint (Wire σ) × Wire σ,
        e.turn (Wire.environment clock x) w = (.received result.1, result.2) ∧
        (result.2.2.toward x).queue.octets.length < (w.toward x).queue.octets.length ∧
        I fuel (packets + result.1) result.2.1 result.2.2 := by
    by_cases hnone : (w.toward x).available = 0
    · left
      rw [available_wire, hnone]
    · right
      exact hturn hnone hI
  obtain ⟨left, packets, e', w', hpoll, hidle, hkept⟩ :=
    @pollFrom_done _ (Wire.environment clock x) I (fun w ↦ (w.toward x).queue.octets.length)
      hready fuel 0 e w hfuel hI
  refine ⟨left, packets, e', w', (h.poll_eq fuel).trans hpoll, ?_, hkept⟩
  rw [available_wire] at hidle
  exact Except.ok.inj (Prod.mk.inj hidle).1

end Endpoint

end FramedLink
