import FramedLink.Proofs.Link.Listening

/-!
# Delivery between two ends

Two endpoints at the ends of one wire, each polled and used by a courteous application in any order.
As long as what the applications send is small enough or sent over a link that is up, nothing is
ever lost, doubled, reordered or refused: what one end has sent is what the other has dispatched,
followed by what is still in the pipe.

`Pair.Standing` is the invariant between two operations. An operation at one end changes nothing
that the other end's part depends on but the octets under way, so it is carried over one end at a
time (`Pair.Standing.put`).
-/

namespace FramedLink

/-- Two endpoints and the wire between them. -/
structure Pair (σ : Type) where
  ends : End → Endpoint (Wire σ)
  wire : Wire σ

namespace Pair

variable {σ : Type}

def put (p : Pair σ) (x : End) (done : Endpoint (Wire σ) × Wire σ) : Pair σ :=
  ⟨Function.update p.ends x done.1, done.2⟩

@[simp]
theorem ends_put (p : Pair σ) (x : End) (done : Endpoint (Wire σ) × Wire σ) :
    (p.put x done).ends x = done.1 :=
  Function.update_self ..

@[simp]
theorem ends_put_other (p : Pair σ) (x : End) (done : Endpoint (Wire σ) × Wire σ) :
    (p.put x done).ends x.other = p.ends x.other :=
  Function.update_of_ne (End.other_ne x) ..

def poll (time : End → σ → Millis) (x : End) (fuel : Nat) (p : Pair σ) : Pair σ :=
  p.put x ((p.ends x).poll (Wire.environment (Endpoint.still (time x)) x) fuel p.wire).2

def run (time : End → σ → Millis) (x : End) (program : Program (Wire σ)) (p : Pair σ) : Pair σ :=
  p.put x (program.run (Wire.environment (Endpoint.still (time x)) x) (p.ends x) p.wire).2

/-- What can happen next. One end polls, with turns enough for all octets in its pipe, or the
application at one end does something courteous other than to poll: calls an operation of its
endpoint, registers something, moves its clock, or changes the cap of a pipe. -/
inductive Step (time : End → σ → Millis) (p : Pair σ) : Pair σ → Prop where
  | poll (x : End) (fuel : Nat) (hfuel : (p.wire.toward x).queue.octets.length < fuel) :
    Step time p (p.poll time x fuel)
  | run (x : End) (program : Program (Wire σ)) (hprogram : program.Within Wire.courteous) :
    Step time p (p.run time x program)

/-- Whether all that the applications have sent was small enough for the other end, or was sent over
a link that was up. -/
def Fair (config : End → Config) (p : Pair σ) : Prop :=
  ∀ x : End, InContext (SentFairly (config x.other).maxDeclared) (p.wire.noted x)

instance (config : End → Config) (p : Pair σ) : Decidable (p.Fair config) :=
  decidable_of_iff
    (InContext (SentFairly (config .far).maxDeclared) (p.wire.noted .near) ∧
      InContext (SentFairly (config .near).maxDeclared) (p.wire.noted .far))
    ⟨fun h x ↦ match x with | .near => h.1 | .far => h.2, fun h ↦ ⟨h .near, h .far⟩⟩

def fresh (config : End → Config) (localIds : End → UInt32) (ids : End → IdSupply) (app : σ) :
    Pair σ :=
  ⟨fun x ↦ .ofConfig (config x) (localIds x), .fresh ids app⟩

/-- The states that two new endpoints with given settings come to. -/
inductive Reachable (time : End → σ → Millis) (config : End → Config) : Pair σ → Prop where
  | start (localIds : End → UInt32) (ids : End → IdSupply) (app : σ) :
    Reachable time config (fresh config localIds ids app)
  | next {p p' : Pair σ} : Reachable time config p → Step time p p' → p'.Fair config →
    Reachable time config p'

/-! ## The invariant -/

/-- An end with nothing of a packet collected, that has never refused anything. -/
structure Resting (config : Config) (e : Endpoint (Wire σ)) : Prop where
  within : e.Within Wire.courteous
  dispatching : e.dispatching = false
  idle : e.reception = { region := e.reception.region }
  room : e.reception.region.capacity = config.maxDeclared + frameOverhead
  refusals : e.counters.refusals = (0, 0, 0, 0)

/-- What holds between two operations. -/
structure Standing (config : End → Config) (p : Pair σ) : Prop where
  speaking (x : End) : Endpoint.Speaking x (config x) (config x.other) (p.wire.noted x.other)
    (p.ends x) p.wire
  resting (x : End) : Resting (config x) (p.ends x)

variable {time : End → σ → Millis} {config : End → Config} {p p' : Pair σ} {x : End}
variable {e : Endpoint (Wire σ)} {w : Wire σ} {done : Endpoint (Wire σ) × Wire σ}

theorem Resting.filled {config : Config} (h : Resting config e) : e.reception.filled = 0 := by
  rw [h.idle]

/-- An end at rest is ready to receive. -/
theorem Resting.receiving {config : Config} (h : Resting config e) (hconfig : e.config = config) :
    e.Receiving config where
  config_eq := hconfig
  dispatching := h.dispatching
  sound := by
    refine ⟨h.room, .header ?_ ?_ ?_⟩
    · rw [h.idle]
    · rw [h.idle]
    · rw [h.filled]
      exact Nat.zero_le _
  wanted := by
    rw [h.idle]
    exact Nat.zero_lt_succ 7

/-- An end that listens and holds nothing is at rest. -/
theorem Resting.of_listening {time : σ → Millis} {config peer : Config} {theirs : List Event}
    (h : Endpoint.Listening time x config peer theirs e w) (hfilled : e.reception.filled = 0) :
    Resting config e := by
  refine ⟨h.within, h.receiving.dispatching, ?_, h.receiving.sound.room, h.refusals⟩
  have hsizes : e.reception.payloadSize = 0 ∧ e.reception.packetSize = 0 := by
    cases h.receiving.sound.settled with
    | header hpacket hpayload _ => exact ⟨hpayload, hpacket⟩
    | packet header _ _ _ _ hcomplete _ => exact absurd hcomplete (by rw [hfilled]; decide)
  calc
    e.reception = ⟨e.reception.region, e.reception.filled, e.reception.payloadSize,
        e.reception.packetSize, e.reception.deadline⟩ := rfl
    _ = { region := e.reception.region } := by
      rw [hfilled, hsizes.1, hsizes.2, h.fresh hfilled]

theorem Standing.arriving (h : Standing config p) (x : End) :
    ∃ frames, sends (p.wire.noted x.other) = deliveries (p.wire.noted x) ++ frames ∧
      (p.wire.toward x).queue.octets =
        frames.flatMap (Frame.wire (config x.other).integrity) := by
  have hunderway := (h.speaking x.other).underway
  rw [End.other_other] at hunderway
  exact hunderway

/-- The invariant carries over when one end and the wire change, if that end is at rest again and
the other end's frames still arrive. -/
theorem Standing.put (h : Standing config p)
    (hspeaking : Endpoint.Speaking x (config x) (config x.other) (p.wire.noted x.other)
      done.1 done.2)
    (hresting : Resting (config x) done.1)
    (harriving : ∃ frames, sends (p.wire.noted x.other) = deliveries (done.2.noted x) ++ frames ∧
      (done.2.toward x).queue.octets =
        frames.flatMap (Frame.wire (config x.other).integrity)) :
    Standing config (p.put x done) := by
  have hsame : done.2.noted x.other = p.wire.noted x.other := hspeaking.theirs_eq
  have hwire : (p.put x done).wire = done.2 := rfl
  constructor
  case speaking =>
    intro y
    rw [hwire]
    rcases End.eq_or_eq_other x y with rfl | rfl
    · rw [ends_put, hsame]
      exact hspeaking
    · have hother := h.speaking x.other
      rw [ends_put_other]
      constructor
      case config_eq => exact hother.config_eq
      case room => exact hother.room
      case link => rw [hsame]; exact hother.link
      case known => exact hother.known
      case theirs_eq => rfl
      case sent => rw [hsame]; exact hother.sent
      case underway =>
        rw [hsame, End.other_other]
        exact harriving
  case resting =>
    intro y
    rcases End.eq_or_eq_other x y with rfl | rfl
    · rw [ends_put]
      exact hresting
    · rw [ends_put_other]
      exact h.resting x.other

/-- Between two operations, each end is ready to listen to the other. -/
theorem Standing.listening (h : Standing config p)
    (hmode : (config x).integrity = (config x.other).integrity) (time : σ → Millis) :
    Endpoint.Listening time x (config x) (config x.other) (p.wire.noted x.other)
      (p.ends x) p.wire := by
  have hresting := h.resting x
  have hidle := hresting.idle
  constructor
  case speaking => exact h.speaking x
  case receiving => exact hresting.receiving (h.speaking x).config_eq
  case within => exact hresting.within
  case refusals => exact hresting.refusals
  case arriving =>
    rw [Reception.held_of_filled hresting.filled, hmode]
    exact h.arriving x
  case deadline =>
    rw [hidle]
    intro _ h
    exact nomatch h
  case fresh =>
    rw [hidle]
    intro _
    rfl
  case flowing =>
    intro hfilled
    exact absurd hresting.filled (Nat.ne_of_gt hfilled)

/-- All that an end of a fair pair has sent is acceptable to the other. -/
theorem Standing.acceptable (h : Standing config p) (hfair : p.Fair config) (x : End) :
    ∀ frame ∈ sends (p.wire.noted x.other),
      Endpoint.Acceptable (config x) (config x.other) frame := by
  intro frame hmem
  obtain ⟨event, hevent, hframe⟩ := List.mem_filterMap.mp hmem
  obtain ⟨before, after, hsplit⟩ := List.append_of_mem hevent
  have hwithin := (h.speaking x.other).sent before event after hsplit frame hframe
  have hfairly := hfair x.other before event after hsplit frame hframe
  rw [End.other_other] at hwithin hfairly
  obtain ⟨hmax, hlimit, hmessage⟩ := hwithin
  have hsize := Event.payloadSize_of_sent? hframe hmax
  refine ⟨hsize.symm, ?_, ?_⟩
  · rw [hsize]
    by_cases htype : frame.header.type < 2
    · exact hlimit (.inl htype)
    · rcases hfairly (UInt8.not_lt.mp htype) with hsmall | hup
      · exact hsmall
      · exact hlimit (.inr hup)
  · intro hresponse
    exact hmessage (by rw [hresponse]; decide)

/-- The invariant survives a poll, and so does what outlasts receiving. -/
theorem Standing.poll {K : Endpoint (Wire σ) → List Event → Prop}
    (hconfig : ∀ x, (config x).fault? = none)
    (hmode : (config x).integrity = (config x.other).integrity) (hfair : p.Fair config)
    (hlasting : Endpoint.Lasting (time x) x (p.wire.noted x.other) K)
    (h : Standing config p) (hK : K (p.ends x) (p.wire.noted x)) {fuel : Nat}
    (hfuel : (p.wire.toward x).queue.octets.length < fuel) :
    Standing config (p.poll time x fuel) ∧
      K ((p.poll time x fuel).ends x) ((p.poll time x fuel).wire.noted x) ∧
      (p.poll time x fuel).wire.noted x.other = p.wire.noted x.other := by
  obtain ⟨packets, e', w', hpoll, hfilled, hlistening, hlast⟩ :=
    (h.listening hmode (time x)).poll (hconfig x) (hconfig x.other) hlasting hK
      (h.acceptable hfair x) hfuel
  have hpolled : p.poll time x fuel = p.put x (e', w') := by
    rw [Pair.poll, hpoll]
  obtain ⟨frames, hsends, hoctets⟩ := hlistening.arriving
  rw [Reception.held_of_filled hfilled, hmode] at hoctets
  rw [hpolled, ends_put]
  exact ⟨h.put hlistening.speaking (.of_listening hlistening hfilled) ⟨frames, hsends, hoctets⟩,
    hlast, hlistening.speaking.theirs_eq⟩

theorem lasting_true (time : σ → Millis) (x : End) (theirs : List Event) :
    Endpoint.Lasting time x theirs fun _ _ ↦ True :=
  ⟨fun _ _ _ _ _ _ ↦ trivial, fun _ _ ↦ trivial⟩

/-- The invariant survives everything courteous that an application does. -/
theorem Standing.run (hconfig : ∀ x, (config x).fault? = none) (h : Standing config p)
    {program : Program (Wire σ)} (hprogram : program.Within Wire.courteous) :
    Standing config (p.run time x program) ∧
      (p.run time x program).wire.noted x.other = p.wire.noted x.other := by
  have hresting := h.resting x
  have hidle : (program.run (Wire.environment (Endpoint.still (time x)) x) (p.ends x)
      p.wire).2.1.dispatching = false :=
    (Endpoint.dispatching_run program).trans hresting.dispatching
  -- no packet is being handled, so any header will do that is not one of a connect response
  let header : Header := .plain 2 0 0
  have hupheld : Endpoint.Upheld (Wire.environment (Endpoint.still (time x)) x) Wire.courteous
      header (Endpoint.Conversing x (config x) (config x.other) (p.wire.noted x.other) header) :=
    Endpoint.upheld_conversing (hconfig x) (hconfig x.other) header
  have hupheld' : Endpoint.Upheld (Wire.environment (Endpoint.still (time x)) x)
      (Wire.listening (fun _ ↦ True) x) header
      (Endpoint.Hears (fun _ ↦ True) x (p.ends x) p.wire) :=
    Endpoint.upheld_hears header
  obtain ⟨hconversing, hwithin⟩ := hupheld.run hprogram hresting.within
    ⟨h.speaking x, fun hresponse ↦ nomatch hresponse⟩
  obtain ⟨⟨hstation, hwire⟩, -⟩ := hupheld'.run
    (hprogram.mono (fun _ ↦ Endpoint.asks_listening) (fun _ ↦ Endpoint.changes_listening))
    (hresting.within.mono (fun _ ↦ Endpoint.asks_listening) (fun _ ↦ Endpoint.changes_listening)
      (fun _ ↦ id))
    (.refl _ _)
  unfold Pair.run
  generalize program.run (Wire.environment (Endpoint.still (time x)) x) (p.ends x) p.wire = ran
    at hidle hconversing hwithin hstation hwire ⊢
  have hreception := hstation.reception
  rw [hresting.idle] at hreception
  refine ⟨h.put hconversing.speaking ⟨hwithin, hidle, hreception,
    hstation.capacity.trans hresting.room, hstation.counters.trans hresting.refusals⟩ ?_,
    hconversing.speaking.theirs_eq⟩
  obtain ⟨frames, hsends, hoctets⟩ := h.arriving x
  exact ⟨frames, hwire.delivered.symm ▸ hsends, hwire.octets.trans hoctets⟩

theorem standing_fresh (hconfig : ∀ x, (config x).fault? = none) (localIds : End → UInt32)
    (ids : End → IdSupply) (app : σ) :
    Standing config (fresh config localIds ids app) where
  speaking x := by
    constructor
    case config_eq => rfl
    case room => exact (Station.room_initial (hconfig x) (localIds x)).2
    case link => rfl
    case known =>
      intro h
      exact nomatch h
    case theirs_eq => rfl
    case sent => exact inContext_nil _
    case underway => exact ⟨[], rfl, rfl⟩
  resting x := ⟨Endpoint.within_ofConfig _ _ _, rfl, rfl,
    (Station.room_initial (hconfig x) (localIds x)).1, rfl⟩

/-- Two ends with the same integrity mode agree on it, seen from either end. -/
theorem integrity_eq_other (hmode : (config .near).integrity = (config .far).integrity) (x : End) :
    (config x).integrity = (config x.other).integrity := by
  cases x
  · exact hmode
  · exact hmode.symm

theorem standing_of_reachable (hconfig : ∀ x, (config x).fault? = none)
    (hmode : (config .near).integrity = (config .far).integrity)
    (h : Reachable time config p) : Standing config p ∧ p.Fair config := by
  induction h with
  | start localIds ids app =>
    exact ⟨standing_fresh hconfig localIds ids app, fun x ↦ inContext_nil _⟩
  | next _ hstep hfair ih =>
    refine ⟨?_, hfair⟩
    cases hstep with
    | poll x fuel hfuel =>
      have hsame := integrity_eq_other hmode x
      exact (ih.1.poll hconfig hsame ih.2 (lasting_true _ _ _) trivial hfuel).1
    | run x program hprogram => exact (ih.1.run hconfig hprogram).1

/-- Whatever two courteous applications do, in whatever order: what one end has sent is what the
other has dispatched, in the same order, followed by what is still under way in the pipe, and
neither end holds part of a packet or has ever refused anything. -/
theorem sends_eq (hconfig : ∀ x, (config x).fault? = none)
    (hmode : (config .near).integrity = (config .far).integrity)
    (h : Reachable time config p) (x : End) :
    (∃ underway, sends (p.wire.noted x) = deliveries (p.wire.noted x.other) ++ underway ∧
      (p.wire.toward x.other).queue.octets =
        underway.flatMap (Frame.wire (config x).integrity)) ∧
    (p.ends x).reception.filled = 0 ∧ (p.ends x).counters.refusals = (0, 0, 0, 0) := by
  obtain ⟨hstanding, -⟩ := standing_of_reachable hconfig hmode h
  have hresting := hstanding.resting x
  exact ⟨(hstanding.speaking x).underway, hresting.filled, hresting.refusals⟩

/-- A handshake, and a packet that is sent over the link and dispatched at the other end. -/
theorem sends_eq_handshake :
    let config : End → Config := fun _ ↦ .ofSizes 18 18
    let time : End → Unit → Millis := fun _ _ ↦ 0
    let asked := (fresh config (fun _ ↦ 7) (fun _ ↦ ⟨[], 1⟩) ()).run time .near
      (.ask .checkConnection fun _ ↦ .finish (.ok ()))
    let answered := asked.poll time .far 19
    let connected := answered.poll time .near 19
    let sent := connected.run time .near (.ask (.send 7 1 0) fun _ ↦ .finish (.ok ()))
    let received := sent.poll time .far 11
    linkUp (received.wire.noted .near) = true ∧
      ⟨.plain 7 1 0, []⟩ ∈ deliveries (received.wire.noted .far) ∧
      ∃ underway,
        sends (received.wire.noted .near) = deliveries (received.wire.noted .far) ++ underway ∧
        (received.wire.toward .far).queue.octets = underway.flatMap (Frame.wire .unchecked) := by
  intro config time asked answered connected sent received
  have hask : (Program.ask .checkConnection fun _ ↦ .finish (.ok ()) :
      Program (Wire Unit)).Within Wire.courteous :=
    ⟨trivial, fun _ ↦ trivial⟩
  have hsend : (Program.ask (.send 7 1 0) fun _ ↦ .finish (.ok ()) :
      Program (Wire Unit)).Within Wire.courteous :=
    ⟨show (2 : UInt8) ≤ 7 by decide, fun _ ↦ trivial⟩
  have hasked : Reachable time config asked :=
    .next (.start _ _ ()) (.run .near _ hask) (by decide +kernel)
  have hanswered : Reachable time config answered :=
    .next hasked (.poll .far 19 (by decide +kernel)) (by decide +kernel)
  have hconnected : Reachable time config connected :=
    .next hanswered (.poll .near 19 (by decide +kernel)) (by decide +kernel)
  have hsent : Reachable time config sent :=
    .next hconnected (.run .near _ hsend) (by decide +kernel)
  have hreceived : Reachable time config received :=
    .next hsent (.poll .far 11 (by decide +kernel)) (by decide +kernel)
  have hup : linkUp (received.wire.noted .near) = true ∧
      ⟨.plain 7 1 0, []⟩ ∈ deliveries (received.wire.noted .far) := by
    decide +kernel
  have hsends := (sends_eq (fun _ ↦ rfl) rfl hreceived .near).1
  rw [show End.near.other = End.far from rfl] at hsends
  exact ⟨hup.1, hup.2, hsends⟩

end Pair

end FramedLink
