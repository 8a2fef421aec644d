import Mathlib.Algebra.GroupWithZero.Nat
import FramedLink.Channel.Faulty
import FramedLink.Proofs.Handling.Fanout

/-!
# Channels that close

A channel is found closed in one of two calls: when it is asked how much is ready, or when it is
read. A poll that has handed packets over and then finds the channel closed in the first of them
returns their number, and fails if there were none. Found closed in a reading, it fails in any case,
and the number of its packets is lost (`Course.poll_of_closed`).
-/

namespace FramedLink

variable {ω : Type}

/-- A call with which a channel fails a turn of receiving. -/
inductive ChannelFault where
  | available (error : ChannelError)
  | read (error : ChannelError)
  deriving DecidableEq

/-- How a turn ends that the channel fails. -/
def ChannelFault.turn : ChannelFault → Turn
  | .available .closed => .closed
  | .available error | .read error => .failed (.channel error)

def PollOutcome.packets : PollOutcome → Nat
  | .done packets | .unfinished packets => packets
  | .failed _ => 0

namespace Endpoint

variable {env : Environment ω} {c : Conduct ω} {config : Config} {e e' : Endpoint ω} {w w' : ω}
variable {polls : List (Polled ω)} {turns packets : Nat} {fault : ChannelFault}

/-- The call with which the channel fails the next turn, if it does. -/
def fault? (env : Environment ω) (e : Endpoint ω) (w : ω) : Option ChannelFault :=
  match env.channel.available w with
  | (.error error, _) => some (.available error)
  | (.ok ready, found) =>
    if ready = 0 then none
    else
      let begun := e.waiting env (env.now found).1 (env.now found).2
      match (env.channel.read (begun.1.reception.portion ready) begun.2).1.count with
      | .error error => some (.read error)
      | .ok _ => none

/-- A reading fails just when the channel fails it. -/
theorem readPortion_outcome {size : Nat}
    (hslot : e.reception.region.checkSlot e.reception.filled size = .ok ()) :
    match (env.channel.read size w).1.count with
    | .error error => (e.readPortion env size w).1 = .failed (.channel error)
    | .ok _ => (e.readPortion env size w).1 = .idle ∨
        ∃ more, (e.readPortion env size w).1 = .received more := by
  unfold readPortion
  rw [hslot]
  dsimp only
  cases (env.channel.read size w).1.count with
  | error error => rfl
  | ok reported =>
    dsimp only
    split
    · exact .inl rfl
    · exact .inr ⟨_, rfl⟩

/-- A turn fails just when the channel fails it. -/
theorem Orderly.turn_outcome (h : e.Ready config) :
    match e.fault? env w with
    | some fault => (e.turn env w).1 = fault.turn
    | none => (e.turn env w).1 = .idle ∨ ∃ more, (e.turn env w).1 = .received more := by
  rcases hfound : env.channel.available w with ⟨error | ready, found⟩
  · simp only [fault?, hfound, turn_of_error hfound]
    cases error <;> rfl
  · rcases Nat.eq_zero_or_pos ready with rfl | hready
    · simp only [fault?, hfound, turn_of_not_ready hfound, if_true, true_or]
    · obtain ⟨-, hturn, -⟩ := h.turn_reading hready hfound
      let begun := e.waiting env (env.now found).1 (env.now found).2
      have hbegun : begun.1.Ready config := h.waiting _
      have hslot := (hbegun.placed.stage.portion?_eq hbegun.placed.room ready).2.2
      have hread := @readPortion_outcome ω env begun.1 begun.2 _ hslot
      have hsome : ¬ ready = 0 := Nat.pos_iff_ne_zero.mp hready
      simp only [fault?, hfound, if_neg hsome, hturn]
      cases hcount : (env.channel.read (begun.1.reception.portion ready) begun.2).1.count with
      | error error =>
        rw [hcount] at hread
        exact hread
      | ok count =>
        rw [hcount] at hread
        exact hread

def pollFault? (env : Environment ω) : (fuel : Nat) → Endpoint ω → ω → Option ChannelFault
  | 0, _, _ => none
  | fuel + 1, e, w =>
    match e.turn env w with
    | (.received _, e', w') => pollFault? env fuel e' w'
    | _ => e.fault? env w

/-- No turn that received something was failed. -/
theorem pollFault?_of_turns (h : Turns env e w turns packets e' w') (fuel : Nat) :
    pollFault? env (turns + fuel) e w = pollFault? env fuel e' w' := by
  induction h generalizing fuel with
  | none => rw [Nat.zero_add]
  | @more turns _ _ e' e'' w' w'' _ hturn ih =>
    calc
      pollFault? env (turns + 1 + fuel) e w = pollFault? env (turns + (fuel + 1)) e w := by
        rw [Nat.add_assoc, Nat.add_comm 1]
      _ = pollFault? env (fuel + 1) e' w' := ih (fuel + 1)
      _ = pollFault? env fuel e'' w'' := by rw [pollFault?, hturn]

/-- So it is the last turn of a poll that is failed. -/
theorem pollFault?_of_last (hlast : ∀ more, (e.turn env w).1 ≠ .received more) (fuel : Nat) :
    pollFault? env (fuel + 1) e w = e.fault? env w := by
  rw [pollFault?]
  rcases hturn : e.turn env w with ⟨outcome, e', w'⟩
  rw [hturn] at hlast
  cases outcome with
  | received more => exact absurd rfl (hlast more)
  | idle | closed | failed error => rfl

/-- A poll ends as the fault says with which the channel fails it, and if it is not failed, it
reports every packet that it has handed over. -/
theorem Course.poll_outcome (h : Course env config c polls e w) (fuel : Nat) :
    ∃ packets, (e.poll env fuel w).2.1.counters.framesDispatched =
        e.counters.framesDispatched + packets ∧
      match e.pollFault? env fuel w with
      | some fault => (e.poll env fuel w).1 = fault.turn.outcome packets
      | none => (e.poll env fuel w).1.packets = packets := by
  have hready := h.operated.ready
  obtain ⟨turns, packets, last, found, hturns, hcounted, hend⟩ :=
    @poll_path ω env e hready.placed.idle hready.within fuel w
  refine ⟨packets, hcounted, ?_⟩
  rcases hend with ⟨rfl, hout⟩ | ⟨hless, hlast, hend⟩
  · have hfault : e.pollFault? env turns w = none := pollFault?_of_turns hturns 0
    rw [hfault, hout]
    rfl
  · obtain ⟨left, rfl⟩ := Nat.exists_eq_add_of_lt hless
    have hfailed : e.pollFault? env (turns + left + 1) w = last.fault? env found :=
      calc
        e.pollFault? env (turns + left + 1) w = last.pollFault? env (left + 1) found :=
          pollFault?_of_turns hturns (left + 1)
        _ = last.fault? env found := pollFault?_of_last hlast left
    rw [hfailed, hend]
    have houtcome := @Orderly.turn_outcome ω env config last found
      (h.partway hturns).operated.ready
    cases hfault : last.fault? env found with
    | none =>
      rw [hfault] at houtcome
      rcases houtcome with hidle | ⟨more, hmore⟩
      · rw [hidle]
        rfl
      · exact absurd hmore (hlast more)
    | some fault =>
      rw [hfault] at houtcome
      dsimp only at houtcome ⊢
      rw [houtcome]

/-- Programs hand over no packet. -/
theorem handovers_run (program : Program ω) (h : e.Ready config) :
    (program.run env e w).2.1.counters.handovers = e.counters.handovers :=
  ((@upheld_handovers ω env .free (.plain 0 0 0) e.counters.handovers).run program.within_free
    h.within rfl).1

end Endpoint

def Polled.fault? (env : Environment ω) (polled : Polled ω) : Option ChannelFault :=
  polled.endpoint.pollFault? env polled.fuel polled.surroundings

namespace Endpoint

variable {env : Environment ω} {c : Conduct ω} {config : Config} {e : Endpoint ω} {w : ω}
variable {polls : List (Polled ω)}

/-- A poll that is not failed, or by a channel that says so when it is asked how much is ready,
reports every packet that it has handed over. -/
theorem Course.framesDispatched_poll (h : Course env config c polls e w) {fuel : Nat}
    (hcloses : ∀ fault ∈ e.pollFault? env fuel w, fault = .available .closed) :
    (e.poll env fuel w).2.1.counters.framesDispatched =
      e.counters.framesDispatched + (e.poll env fuel w).1.packets := by
  obtain ⟨packets, hcounted, houtcome⟩ := h.poll_outcome fuel
  rw [hcounted]
  cases hfault : e.pollFault? env fuel w with
  | none =>
    rw [hfault] at houtcome
    exact congrArg _ houtcome.symm
  | some fault =>
    obtain rfl := hcloses fault hfault
    rw [hfault] at houtcome
    dsimp only at houtcome
    rw [houtcome, ChannelFault.turn, Turn.outcome]
    split
    case isTrue => rfl
    case isFalse hnone =>
      rw [Nat.eq_zero_of_not_pos hnone]
      rfl

/-- A poll that finds the channel closed when it asks how much is ready returns the number of its
packets, and fails only if there were none; one that finds it closed in a reading fails. So in every
run in which channels fail polls in the first way only, the numbers that polls return add up to what
is counted as dispatched. -/
theorem Course.poll_of_closed (h : Course env config c polls e w) :
    (∀ fuel, ∃ packets,
      (e.poll env fuel w).2.1.counters.framesDispatched =
        e.counters.framesDispatched + packets ∧
      (e.pollFault? env fuel w = some (.available .closed) → (e.poll env fuel w).1 =
        if 0 < packets then .done packets else .failed (.channel .closed)) ∧
      (e.pollFault? env fuel w = some (.read .closed) →
        (e.poll env fuel w).1 = .failed (.channel .closed))) ∧
    ((∀ polled ∈ polls, ∀ fault ∈ polled.fault? env, fault = .available .closed) →
      (polls.map fun polled ↦ (polled.outcome env).packets).sum =
        e.counters.framesDispatched) := by
  constructor
  · intro fuel
    obtain ⟨packets, hcounted, houtcome⟩ := h.poll_outcome fuel
    refine ⟨packets, hcounted, ?_, ?_⟩
    · intro hfault
      rw [hfault] at houtcome
      exact houtcome
    · intro hfault
      rw [hfault] at houtcome
      exact houtcome
  · intro hcloses
    induction h with
    | created hcreated =>
      obtain ⟨-, id, rfl, -⟩ := created_eq hcreated
      rfl
    | named id _ ih => exact ih hcloses
    | @run polls e w program _ h ih =>
      have hsame := @handovers_run ω env config e w program h.operated.ready
      exact (ih hcloses).trans (congrArg Prod.fst hsame).symm
    | @poll polls e w fuel h ih =>
      rw [List.forall_mem_append, List.forall_mem_singleton] at hcloses
      rw [h.framesDispatched_poll hcloses.2, List.map_append, List.sum_append, ih hcloses.1]
      rfl

end Endpoint

namespace Wire

/-- An end of a wire whose channel follows a plan of deviations. Its clock always shows zero. -/
def faulty (x : End) : Environment (Wire FaultPlan) :=
  let sound := environment (fun plan ↦ (0, plan)) x
  { sound with channel := .faulty ⟨Wire.app, fun plan w ↦ { w with app := plan }⟩ sound.channel }

/-- A packet of type 7 without payload and the first octet of another one stand in the pipe toward
the near end. -/
def packetAndMore (plan : FaultPlan) : Wire FaultPlan :=
  (pipe .near).modify (Pipe.feed [0x23, 7, 1, 0, 0, 0, 0, 0, 0, 0, 0x23])
    (fresh (fun _ ↦ ⟨[], 1⟩) plan)

end Wire

namespace Endpoint

/-- Found closed when it is asked a third time how much is ready, the channel ends a poll that
returns its packet. -/
theorem poll_of_closed_available :
    let env := Wire.faulty .near
    let w := Wire.packetAndMore { available := [.pass, .pass, .fail .closed] }
    ∃ e w', create env (.ofSizes 18 18) w = (.ok e, w') ∧
      e.pollFault? env 3 w' = some (.available .closed) ∧ (e.poll env 3 w').1 = .done 1 ∧
      ([(⟨3, e, w'⟩ : Polled (Wire FaultPlan))].map fun polled ↦
        (polled.outcome env).packets).sum = (e.poll env 3 w').2.1.counters.framesDispatched := by
  intro env w
  let e : Endpoint (Wire FaultPlan) := ofConfig (.ofSizes 18 18) 1
  let w' := (create env (.ofSizes 18 18) w).2
  have hcreated : create env (.ofSizes 18 18) w = (.ok e, w') := rfl
  have hcourse : Course env (.ofSizes 18 18) .free [] e w' := .created hcreated
  have hfault : e.pollFault? env 3 w' = some (.available .closed) := by decide +kernel
  have hcounted : (e.poll env 3 w').2.1.counters.framesDispatched =
      e.counters.framesDispatched + 1 := by decide +kernel
  obtain ⟨packets, hpackets, hclosed, -⟩ := hcourse.poll_of_closed.1 3
  obtain rfl : packets = 1 := Nat.add_left_cancel (hpackets.symm.trans hcounted)
  refine ⟨e, w', hcreated, hfault, hclosed hfault, (hcourse.poll 3).poll_of_closed.2 ?_⟩
  intro polled hmem fault hfailed
  obtain rfl := List.mem_singleton.mp hmem
  exact Option.some_inj.mp (hfailed.symm.trans hfault)

/-- Found closed in a third reading instead, it ends a poll that fails, and the packet that was
handed over is reported by no poll. -/
theorem closed_reading_loses_packet :
    let env := Wire.faulty .near
    let w := Wire.packetAndMore { read := [.pass, .pass, .fail .closed] }
    ∃ e w', create env (.ofSizes 18 18) w = (.ok e, w') ∧
      e.pollFault? env 3 w' = some (.read .closed) ∧
      (e.poll env 3 w').1 = .failed (.channel .closed) ∧
      (e.poll env 3 w').2.1.counters.framesDispatched = 1 ∧ (e.poll env 3 w').1.packets = 0 :=
  ⟨ofConfig (.ofSizes 18 18) 1, _, rfl, by decide +kernel, by decide +kernel, by decide +kernel,
    by decide +kernel⟩

end Endpoint

end FramedLink
