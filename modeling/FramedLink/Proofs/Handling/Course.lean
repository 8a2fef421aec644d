import FramedLink.Proofs.Handling.Poll
import FramedLink.Proofs.Reception.Stages

/-!
# Turns and runs

A turn of receiving changes little. In the state of the endpoint it changes what receiving has to do
with (`Station.Receives`), in the surroundings it uses the channel and the clock and notes what it
finds (`Environment.Passes`), and then it hands over at most one packet (`Turned`). Whatever is to
be proved about all turns follows from this one inversion.

A poll is a path of such turns (`Turns`) with a last one that decides how it ends, and a run is any
order of polls and programs (`Course`). An invariant that survives what can happen in a turn and
while a packet is handled survives every run (`Preserved.course`).
-/

namespace FramedLink

variable {ω : Type}

/-- A change of what an endpoint remembers that receiving can make by itself: in the reception, in
the writing cursor, and in the counters of what was refused. -/
def Station.Receives (s s' : Station) : Prop :=
  ∃ reception cursor badMagic oversize stalls checksumFailures,
    s' = { s with
      reception
      outgoing := { s.outgoing with cursor }
      counters := { s.counters with badMagic, oversize, stalls, checksumFailures } }

namespace Station

variable {s s' s'' : Station}

@[refl]
theorem Receives.refl (s : Station) : s.Receives s :=
  ⟨_, _, _, _, _, _, rfl⟩

theorem Receives.trans (h : s.Receives s') (h' : s'.Receives s'') : s.Receives s'' := by
  obtain ⟨_, _, _, _, _, _, rfl⟩ := h
  obtain ⟨_, _, _, _, _, _, rfl⟩ := h'
  exact ⟨_, _, _, _, _, _, rfl⟩

theorem receives_expire (now : Millis) : s.Receives (s.expire now).1 := by
  unfold expire giveUp
  dsimp only
  split
  · split <;> exact ⟨_, _, _, _, _, _, rfl⟩
  · exact .refl s

theorem receives_resync (s : Station) : s.Receives s.resync := by
  unfold resync
  split <;> exact ⟨_, _, _, _, _, _, rfl⟩

theorem receives_judgeHeader (s : Station) : s.Receives s.judgeHeader.1 := by
  have hcounted (counters : Counters) (h : s.Receives { s with counters }) :
      s.Receives ({ s with counters } : Station).resync :=
    h.trans (receives_resync _)
  unfold judgeHeader
  split
  · split
    · exact ⟨_, _, _, _, _, _, rfl⟩
    · exact hcounted _ ⟨_, _, _, _, _, _, rfl⟩
  · exact hcounted _ ⟨_, _, _, _, _, _, rfl⟩

end Station

/-- What becomes of the surroundings by receiving alone: the channel is asked and read, the clock is
read, and what receiving finds is noted. -/
inductive Environment.Passes (env : Environment ω) (w : ω) : ω → Prop where
  | refl : Passes env w w
  | available {w' : ω} : Passes env w w' → Passes env w (env.channel.available w').2
  | read {w' : ω} (size : Nat) : Passes env w w' → Passes env w (env.channel.read size w').2
  | now {w' : ω} : Passes env w w' → Passes env w (env.now w').2
  | note {w' : ω} {event : Event} (hevent : event.IsReception) :
      Passes env w w' → Passes env w (env.note event w')

namespace Endpoint

variable {env : Environment ω} {c : Conduct ω} {config : Config} {e e' : Endpoint ω} {w w' : ω}

/-- A complete packet is opened and handed to the handlers, and the next header is waited for. -/
def deliver (env : Environment ω) (header : Header) (e : Endpoint ω) (w : ω) : Endpoint ω × ω :=
  let handled := ({ e with toStation := e.openPacket } : Endpoint ω).dispatch env header w
  ({ handled.1 with toStation := handled.1.clearReception }, handled.2)

/-- What a turn can come to: it hands over no packet, or it has completed one that is sound and
hands it over. -/
inductive Turned (env : Environment ω) (e : Endpoint ω) (w : ω) : Turn × Endpoint ω × ω → Prop where
  | quiet (outcome : Turn) (s : Station) (w' : ω)
      (hnone : ∀ packets, outcome = .received packets → packets = 0)
      (hstation : e.toStation.Receives s) (hpassed : env.Passes w w') :
      Turned env e w (outcome, { e with toStation := s }, w')
  | delivered (header : Header) (s : Station) (w' : ω) (hstation : e.toStation.Receives s)
      (hpassed : env.Passes w w') (hsound : s.judgePacket = .deliver header) :
      Turned env e w (.received 1, ({ e with toStation := s } : Endpoint ω).deliver env header w')

section Turned

variable {s : Station}

/-- What receiving reports is noted. -/
theorem passes_noteStep (e : Endpoint ω) (hpassed : env.Passes w w') {event : Option Event}
    (hevent : ∀ noted ∈ event, noted.IsReception) :
    env.Passes w (noteStep env e w' (s, event)).2 := by
  cases event with
  | none => exact hpassed
  | some noted => exact hpassed.note (hevent noted rfl)

theorem turned_completePacket (hstation : e.toStation.Receives s) (hpassed : env.Passes w w') :
    let done := ({ e with toStation := s } : Endpoint ω).completePacket env w'
    Turned env e w (.received done.1, done.2) := by
  have hnone : ∀ packets, Turn.received 0 = .received packets → packets = 0 :=
    fun _ h ↦ (Turn.received.inj h).symm
  unfold completePacket
  cases hjudged : s.judgePacket with
  | deliver header => exact .delivered header s w' hstation hpassed hjudged
  | badTrailer error =>
    exact .quiet _ _ _ hnone (hstation.trans ⟨_, _, _, _, _, _, rfl⟩) (hpassed.note trivial)
  | unreadable error =>
    exact .quiet _ _ _ hnone (hstation.trans ⟨_, _, _, _, _, _, rfl⟩) (hpassed.note trivial)

theorem turned_advance (before : Nat) (hstation : e.toStation.Receives s)
    (hpassed : env.Passes w w') :
    let done := ({ e with toStation := s } : Endpoint ω).advance env before w'
    Turned env e w (.received done.1, done.2) := by
  have hcomplete {s : Station} {w' : ω} (hstation : e.toStation.Receives s)
      (hpassed : env.Passes w w') :
      let done := if 0 < s.reception.packetSize ∧ s.reception.packetSize ≤ s.reception.filled then
        ({ e with toStation := s } : Endpoint ω).completePacket env w'
        else (0, { e with toStation := s }, w')
      Turned env e w (.received done.1, done.2) := by
    dsimp only
    split
    · exact turned_completePacket hstation hpassed
    · exact .quiet _ s w' (fun _ h ↦ (Turn.received.inj h).symm) hstation hpassed
  unfold advance
  by_cases hheader : before < headerSize ∧ headerSize ≤ s.reception.filled
  · rw [if_pos hheader]
    exact hcomplete (hstation.trans s.receives_judgeHeader)
      (passes_noteStep { e with toStation := s } hpassed fun _ hmem ↦
        Station.isReception_of_mem_judgeHeader hmem)
  · rw [if_neg hheader]
    exact hcomplete hstation hpassed

theorem turned_readPortion (size : Nat) (hstation : e.toStation.Receives s)
    (hpassed : env.Passes w w') :
    Turned env e w (({ e with toStation := s } : Endpoint ω).readPortion env size w') := by
  have hcollected (stored : Bytes) (count : Nat) : e.toStation.Receives (s.collect stored count) :=
    hstation.trans ⟨_, _, _, _, _, _, rfl⟩
  have hread : env.Passes w (env.channel.read size w').2 := hpassed.read size
  unfold readPortion
  dsimp only
  split
  · exact .quiet _ s w' (fun _ h ↦ nomatch h) hstation hpassed
  · split
    · exact .quiet _ _ _ (fun _ h ↦ nomatch h) (hcollected _ _) hread
    · split
      · exact .quiet _ _ _ (fun _ h ↦ nomatch h) (hcollected _ _) hread
      · exact turned_advance _ (hcollected _ _) hread

/-- Every turn is one of these. -/
theorem turned_turn (env : Environment ω) (e : Endpoint ω) (w : ω) :
    Turned env e w (e.turn env w) := by
  have hfound : env.Passes w (env.channel.available w).2 := .available .refl
  unfold turn
  rcases hready : env.channel.available w with ⟨error | ready, found⟩
  · rw [hready] at hfound
    cases error <;> exact .quiet _ _ _ (fun _ h ↦ nomatch h) (.refl _) hfound
  · rw [hready] at hfound
    dsimp only
    split
    · exact .quiet _ _ _ (fun _ h ↦ nomatch h) (.refl _) hfound
    · have hwaiting : e.toStation.Receives
          ((e.expire (env.now found).1).1.extendDeadline (env.now found).1) :=
        (Station.receives_expire _).trans ⟨_, _, _, _, _, _, rfl⟩
      have hnoted : env.Passes w (noteStep env e (env.now found).2
          (e.expire (env.now found).1)).2 :=
        passes_noteStep e hfound.now fun _ hmem ↦ Station.isReception_of_mem_expire hmem
      split
      · exact .quiet _ _ _ (fun _ h ↦ nomatch h) hwaiting hnoted
      · exact turned_readPortion _ hwaiting hnoted

end Turned

/-- What receiving by itself does not break, and handing a packet over neither, every turn keeps. -/
theorem turn_keeps {I : Endpoint ω → ω → Prop}
    (hquiet : ∀ {s w'}, e.toStation.Receives s → env.Passes w w' → I { e with toStation := s } w')
    (hdelivered : ∀ {s w'} (header : Header), s.judgePacket = .deliver header →
      I { e with toStation := s } w' →
      I (({ e with toStation := s } : Endpoint ω).deliver env header w').1
        (({ e with toStation := s } : Endpoint ω).deliver env header w').2) :
    I (e.turn env w).2.1 (e.turn env w).2.2 := by
  have h := turned_turn env e w
  generalize e.turn env w = result at h ⊢
  cases h with
  | quiet outcome s w' _ hstation hpassed => exact hquiet hstation hpassed
  | delivered header s w' hstation hpassed hsound =>
    exact hdelivered header hsound (hquiet hstation hpassed)

end Endpoint

/-! ## Polls as paths of turns -/

/-- How a poll ends whose last turn ended so, when it has handed over some packets before. -/
def Turn.outcome (packets : Nat) : Turn → PollOutcome
  | .idle => .done packets
  | .closed => if 0 < packets then .done packets else .failed (.channel .closed)
  | .failed error => .failed error
  | .received more => .unfinished (packets + more)

namespace Endpoint

variable {env : Environment ω} {c : Conduct ω} {config : Config} {e e' : Endpoint ω} {w w' : ω}
variable {turns packets : Nat}

theorem poll_of_idle (hidle : e.dispatching = false) (fuel : Nat) (w : ω) :
    e.poll env fuel w = pollFrom env fuel 0 e w := by
  unfold poll admitPoll
  rw [hidle]
  rfl

/-- Some turns that received something, one after another, and how many packets they handed
over. -/
inductive Turns (env : Environment ω) (e : Endpoint ω) (w : ω) :
    (turns packets : Nat) → Endpoint ω → ω → Prop where
  | none : Turns env e w 0 0 e w
  | more {turns packets more : Nat} {e' e'' : Endpoint ω} {w' w'' : ω}
      (hturns : Turns env e w turns packets e' w')
      (hturn : e'.turn env w' = (.received more, e'', w'')) :
      Turns env e w (turns + 1) (packets + more) e'' w''

theorem Turns.cons {more : Nat} {e'' : Endpoint ω} {w'' : ω}
    (hturn : e.turn env w = (.received more, e', w'))
    (h : Turns env e' w' turns packets e'' w'') :
    Turns env e w (turns + 1) (more + packets) e'' w'' := by
  induction h with
  | none =>
    have hfirst := Turns.more .none hturn
    rwa [Nat.add_comm 0 more] at hfirst
  | more _ hlast ih =>
    have hlater := Turns.more ih hlast
    rwa [Nat.add_assoc more] at hlater

/-- A poll that comes through some turns goes on from where they end. -/
theorem pollFrom_of_turns (h : Turns env e w turns packets e' w') (fuel before : Nat) :
    pollFrom env (turns + fuel) before e w = pollFrom env fuel (before + packets) e' w' := by
  induction h generalizing fuel before with
  | none => rw [Nat.zero_add, Nat.add_zero]
  | @more turns packets more e' e'' w' w'' _ hturn ih =>
    calc
      pollFrom env (turns + 1 + fuel) before e w =
          pollFrom env (turns + (fuel + 1)) before e w := by
        rw [Nat.add_assoc, Nat.add_comm 1]
      _ = pollFrom env (fuel + 1) (before + packets) e' w' := ih (fuel + 1) before
      _ = pollFrom env fuel (before + packets + more) e'' w'' := by rw [pollFrom, hturn]
      _ = pollFrom env fuel (before + (packets + more)) e'' w'' := by rw [Nat.add_assoc]

/-- The last turn of a poll, in which nothing was received, decides how it ends. -/
theorem pollFrom_of_last (hlast : ∀ more, (e.turn env w).1 ≠ .received more)
    (fuel before : Nat) :
    pollFrom env (fuel + 1) before e w = ((e.turn env w).1.outcome before, (e.turn env w).2) := by
  rw [pollFrom]
  rcases hturn : e.turn env w with ⟨outcome, e', w'⟩
  rw [hturn] at hlast
  cases outcome with
  | received more => exact absurd rfl (hlast more)
  | idle | closed | failed error => rfl

/-- A poll comes through some turns, and then it runs out of turns or ends with the next one. -/
theorem pollFrom_ends (env : Environment ω) (fuel before : Nat) (e : Endpoint ω) (w : ω) :
    ∃ turns packets e' w', Turns env e w turns packets e' w' ∧
      (turns = fuel ∧ pollFrom env fuel before e w = (.unfinished (before + packets), e', w') ∨
        turns < fuel ∧ (∀ more, (e'.turn env w').1 ≠ .received more) ∧
          pollFrom env fuel before e w =
            ((e'.turn env w').1.outcome (before + packets), (e'.turn env w').2)) := by
  induction fuel generalizing before e w with
  | zero => exact ⟨0, 0, e, w, .none, .inl ⟨rfl, rfl⟩⟩
  | succ fuel ih =>
    by_cases hlast : ∀ more, (e.turn env w).1 ≠ .received more
    · exact ⟨0, 0, e, w, .none,
        .inr ⟨Nat.succ_pos fuel, hlast, pollFrom_of_last hlast fuel before⟩⟩
    · rcases hturn : e.turn env w with ⟨outcome, e₁, w₁⟩
      rw [hturn] at hlast
      obtain ⟨more, hmore⟩ := not_forall_not.mp hlast
      obtain rfl : outcome = .received more := hmore
      obtain ⟨turns, packets, e', w', hturns, hends⟩ := ih (before + more) e₁ w₁
      refine ⟨turns + 1, more + packets, e', w', hturns.cons hturn, ?_⟩
      rw [pollFrom, hturn, Nat.succ_lt_succ_iff, Nat.succ_inj]
      dsimp only
      rwa [Nat.add_assoc] at hends

/-- Within a conduct, what every turn keeps, every poll keeps. -/
theorem poll_keeps {I : Endpoint ω → ω → Prop}
    (hturn : ∀ {e w}, e.Within c → I e w → I (e.turn env w).2.1 (e.turn env w).2.2) (fuel : Nat)
    (hwithin : e.Within c) (h : I e w) :
    I (e.poll env fuel w).2.1 (e.poll env fuel w).2.2 := by
  have hturns {turns packets : Nat} {e' : Endpoint ω} {w' : ω}
      (hpath : Turns env e w turns packets e' w') : I e' w' ∧ e'.Within c := by
    induction hpath with
    | none => exact ⟨h, hwithin⟩
    | @more _ _ _ e₁ _ w₁ _ _ hlast ih =>
      have hkept := hturn ih.2 ih.1
      have hstill : (e₁.turn env w₁).2.1.Within c := within_turn ih.2 w₁
      rw [hlast] at hkept hstill
      exact ⟨hkept, hstill⟩
  unfold poll
  split
  · exact h
  · obtain ⟨turns, packets, e', w', hpath, ⟨-, hends⟩ | ⟨-, -, hends⟩⟩ :=
      pollFrom_ends env fuel 0 e w
    · rw [hends]
      exact (hturns hpath).1
    · rw [hends]
      exact hturn (hturns hpath).2 (hturns hpath).1

end Endpoint

/-- A poll that was made: the bound on its turns, and where it began. -/
structure Polled (ω : Type) where
  fuel : Nat
  endpoint : Endpoint ω
  surroundings : ω

def Polled.outcome (env : Environment ω) (polled : Polled ω) : PollOutcome :=
  (polled.endpoint.poll env polled.fuel polled.surroundings).1

namespace Endpoint

variable {env : Environment ω} {c : Conduct ω} {config : Config} {e e' : Endpoint ω} {w w' : ω}
variable {polls : List (Polled ω)}

/-- A run of an endpoint with given settings, with the polls made in it, oldest first: it is
created, its id may be changed, it polls, and the application runs programs within a conduct. -/
inductive Course (env : Environment ω) (config : Config) (c : Conduct ω) :
    List (Polled ω) → Endpoint ω → ω → Prop where
  | created {e : Endpoint ω} {w w' : ω} (hcreated : create env config w = (.ok e, w')) :
    Course env config c [] e w'
  | named {polls : List (Polled ω)} {e : Endpoint ω} {w : ω} (id : UInt32) :
    Course env config c polls e w → Course env config c polls (e.withLocalId id) w
  | poll {polls : List (Polled ω)} {e : Endpoint ω} {w : ω} (fuel : Nat) :
    Course env config c polls e w → Course env config c (polls ++ [⟨fuel, e, w⟩])
      (e.poll env fuel w).2.1 (e.poll env fuel w).2.2
  | run {polls : List (Polled ω)} {e : Endpoint ω} {w : ω} (program : Program ω)
    (hprogram : program.Within c) : Course env config c polls e w →
    Course env config c polls (program.run env e w).2.1 (program.run env e w).2.2

theorem Course.operated (h : Course env config c polls e w) : Operated env config e w := by
  induction h with
  | created hcreated => exact .created hcreated
  | named id _ ih => exact ih.named id
  | poll fuel _ ih => exact ih.poll fuel
  | run program _ _ ih => exact ih.run program

theorem created_eq (hcreated : create env config w = (.ok e, w')) :
    config.fault? = none ∧ ∃ id, e = ofConfig config id ∧
      w' = env.note (.created id config) (env.ids.run IdSupply.draw w).2 := by
  unfold create at hcreated
  split at hcreated
  case h_1 => cases hcreated
  case h_2 hvalid =>
    cases hcreated
    exact ⟨hvalid, _, rfl, rfl⟩

/-- Everything that is registered in a run keeps within its conduct. -/
theorem Course.within (h : Course env config c polls e w) : e.Within c := by
  induction h with
  | created hcreated =>
    obtain ⟨-, id, rfl, -⟩ := created_eq hcreated
    exact within_ofConfig c config id
  | named id _ ih => exact ih.of_tables rfl
  | poll fuel _ ih => exact ((phased_true env c).poll fuel ih trivial).2
  | run program hprogram _ ih =>
    exact (((phased_true env c).upheld (.plain 0 0 0)).run hprogram ih trivial).2

variable {I : Endpoint ω → ω → Prop}

/-- What an invariant has to survive so that it survives every run: the handling of every packet,
what receiving does by itself, the counting of a packet, and a new id. -/
structure Preserved (env : Environment ω) (c : Conduct ω) (I : Endpoint ω → ω → Prop) : Prop where
  upheld (header : Header) : Upheld env c header I
  receives {e : Endpoint ω} {s : Station} {w w' : ω} : e.toStation.Receives s → env.Passes w w' →
    I e w → I { e with toStation := s } w'
  counted {e : Endpoint ω} {w : ω} (round : Round) : I e w →
    I { e with counters := countRound e.counters round } w
  named {e : Endpoint ω} {w : ω} (id : UInt32) : I e w → I (e.withLocalId id) w

namespace Preserved

theorem deliver (hI : Preserved env c I) (header : Header) (hwithin : e.Within c) (h : I e w) :
    I (e.deliver env header w).1 (e.deliver env header w).2 ∧
      (e.deliver env header w).1.Within c := by
  let opened : Endpoint ω := { e with toStation := e.openPacket }
  have hopened : I opened (env.note (.dispatching header opened.reception.region.payload) w) :=
    hI.receives ⟨_, _, _, _, _, _, rfl⟩ (.note trivial .refl) h
  have hunhandled {e : Endpoint ω} {w : ω} (h : I e w) :
      I e (env.note (.unhandled header.type) w) :=
    hI.receives (.refl e.toStation) (.note trivial .refl) h
  have hready : opened.Within c := hwithin.of_tables rfl
  obtain ⟨hhandled, hstill⟩ :=
    (hI.upheld header).dispatch hI.counted hunhandled hready hopened
  exact ⟨hI.receives ⟨_, _, _, _, _, _, rfl⟩ .refl hhandled, hstill.of_tables rfl⟩

theorem poll (hI : Preserved env c I) (fuel : Nat) (hwithin : e.Within c) (h : I e w) :
    I (e.poll env fuel w).2.1 (e.poll env fuel w).2.2 := by
  refine @poll_keeps ω env c e w I ?_ fuel hwithin h
  intro e w hwithin h
  have hturn := @turn_keeps ω env e w (fun e w ↦ I e w ∧ e.Within c)
    (fun hstation hpassed ↦ ⟨hI.receives hstation hpassed h, hwithin.of_tables rfl⟩)
    fun header _ hkept ↦ hI.deliver header hkept.2 hkept.1
  exact hturn.1

theorem course (hI : Preserved env c I)
    (hcreated : ∀ {e w w'}, create env config w = (.ok e, w') → I e w')
    (h : Course env config c polls e w) : I e w := by
  induction h with
  | created hnew => exact hcreated hnew
  | named id _ ih => exact hI.named id ih
  | poll fuel h ih => exact hI.poll fuel h.within ih
  | run program hprogram h ih => exact ((hI.upheld (.plain 0 0 0)).run hprogram h.within ih).1

end Preserved

end Endpoint

end FramedLink
