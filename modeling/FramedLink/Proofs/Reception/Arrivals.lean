import Mathlib.Algebra.GroupWithZero.Nat
import Mathlib.Data.List.Chain
import FramedLink.Proofs.Handling.Undisturbed

/-!
# Receiving in portions

Octets arrive in the pipe toward an end in portions of any size, with any cap on what the pipe hands
out at a time, and the end polls after each arrival. What it dispatches, what it counts and what it
still holds in the end is what one scan of all the octets finds and leaves, as long as no two
readings of the clock in turns that find octets are further apart than the stall timeout.

`Heard` is the invariant: after any number of turns, the endpoint stands where the scan of the
octets taken so far has come to. One turn carries it on by the octets that it takes
(`Hearing.turn`, where the scan need not be that of all octets since the beginning).
-/

namespace FramedLink

/-- Octets that arrive in a pipe at once, and the cap of the pipe from then on. -/
structure Arrival where
  octets : Bytes
  cap : Option Nat := none

namespace Wire

variable {σ : Type}

def arrive (x : End) (arrival : Arrival) (w : Wire σ) : Wire σ :=
  (pipe x).set ⟨(w.toward x).queue.push arrival.octets, arrival.cap⟩ w

theorem octets_arrive (x : End) (arrival : Arrival) (w : Wire σ) :
    ((w.arrive x arrival).toward x).queue.octets =
      (w.toward x).queue.octets ++ arrival.octets :=
  congrArg (fun pipe : Pipe ↦ pipe.queue.octets) (Function.update_self x _ w.toward)

theorem cap_arrive (x : End) (arrival : Arrival) (w : Wire σ) :
    ((w.arrive x arrival).toward x).cap = arrival.cap :=
  congrArg Pipe.cap (Function.update_self x _ w.toward)

end Wire

namespace Endpoint

variable {ω σ : Type}

/-- The readings of the clock in those turns of a poll that find octets ready. -/
def turnReadings (env : Environment ω) : (fuel : Nat) → Endpoint ω → ω → List Millis
  | 0, _, _ => []
  | fuel + 1, e, w =>
    match env.channel.available w with
    | (.error _, _) | (.ok 0, _) => []
    | (.ok (_ + 1), found) =>
      (env.now found).1 ::
        match e.turn env w with
        | (.received _, e', w') => turnReadings env fuel e' w'
        | _ => []

/-- Polls after each of some arrivals at an end, with a bound on the turns of each poll: how the
polls ended, and what the endpoint and its surroundings are then. -/
def pollEach (clock : σ → Millis × σ) (x : End) (fuel : Nat) :
    List Arrival → Endpoint (Wire σ) → Wire σ → List PollOutcome × Endpoint (Wire σ) × Wire σ
  | [], e, w => ([], e, w)
  | arrival :: rest, e, w =>
    let polled := e.poll (Wire.environment clock x) fuel (w.arrive x arrival)
    let later := pollEach clock x fuel rest polled.2.1 polled.2.2
    (polled.1 :: later.1, later.2)

/-- The readings of the clock in those turns of these polls that find octets. -/
def readingsEach (clock : σ → Millis × σ) (x : End) (fuel : Nat) :
    List Arrival → Endpoint (Wire σ) → Wire σ → List Millis
  | [], _, _ => []
  | arrival :: rest, e, w =>
    let polled := e.poll (Wire.environment clock x) fuel (w.arrive x arrival)
    e.turnReadings (Wire.environment clock x) fuel (w.arrive x arrival) ++
      readingsEach clock x fuel rest polled.2.1 polled.2.2

/-- Of two readings of a clock, the later is at most a time after the earlier. -/
def InTime (timeout : Millis) (earlier later : Millis) : Prop :=
  later.toNat ≤ earlier.toNat + timeout.toNat

instance (timeout earlier later : Millis) : Decidable (InTime timeout earlier later) :=
  inferInstanceAs (Decidable (_ ≤ _))

/-- A deadline set by a reading has not passed at another one in time. -/
theorem InTime.le_after {timeout earlier later : Millis} (h : InTime timeout earlier later) :
    later ≤ earlier.after timeout := by
  have hlater : later.toNat < UInt64.size := later.toNat_lt
  unfold InTime at h
  rw [UInt64.le_iff_toNat_le, Millis.toNat_after]
  omega

/-- Readings that follow the last one before them, each in time after the one before it. -/
def Paced (timeout : Millis) (last : Option Millis) (readings : List Millis) : Prop :=
  (last.toList ++ readings).IsChain (InTime timeout)

theorem Paced.of_cons {timeout : Millis} {last : Option Millis} {reading : Millis}
    {readings : List Millis} (h : Paced timeout last (reading :: readings)) :
    (∀ earlier ∈ last, InTime timeout earlier reading) ∧
      Paced timeout (some reading) readings := by
  cases last with
  | none => exact ⟨fun _ hmem ↦ (nomatch hmem), h⟩
  | some earlier =>
    obtain ⟨hfirst, hrest⟩ := List.isChain_cons_cons.mp h
    refine ⟨?_, hrest⟩
    intro _ hmem
    cases hmem
    exact hfirst

/-! ## The invariant -/

def Open (cap : Option Nat) : Prop :=
  cap ≠ some 0

instance : DecidablePred Open :=
  fun cap ↦ inferInstanceAs (Decidable (cap ≠ some 0))

/-- An endpoint stands where the scan of the octets it has taken from its pipe has come to. The last
reading of the clock in a turn that found octets, if there was one, set the deadline. -/
structure Heard (x : End) (config : Config) (octets : Bytes) (last : Option Millis)
    (e : Endpoint (Wire σ)) (w : Wire σ) : Prop where
  receiving : e.Receiving config
  within : e.Within (Wire.listening Open x)
  cap : Open (w.toward x).cap
  held : e.reception.held = (config.scan octets).rest
  delivered : deliveries (w.noted x) = (config.scan octets).frames
  counters : e.counters.refusals = (Counters.tally {} (config.scan octets).findings).refusals
  deadline {time : Millis} : e.reception.deadline = some time →
    ∃ reading, last = some reading ∧ time = reading.after config.stallTimeout

/-- An endpoint stands where the scan of some octets has come to that it has taken from its pipe
since it had dispatched and counted what it had. The last reading of the clock in a turn that found
octets, if there was one, set the deadline. -/
structure Hearing (x : End) (config : Config) (before : List Frame) (counted : Counters)
    (octets : Bytes) (last : Option Millis) (e : Endpoint (Wire σ)) (w : Wire σ) : Prop where
  receiving : e.Receiving config
  within : e.Within (Wire.listening Open x)
  cap : Open (w.toward x).cap
  held : e.reception.held = (config.scan octets).rest
  delivered : deliveries (w.noted x) = before ++ (config.scan octets).frames
  counters : e.counters.refusals = (counted.tally (config.scan octets).findings).refusals
  deadline {time : Millis} : e.reception.deadline = some time →
    ∃ reading, last = some reading ∧ time = reading.after config.stallTimeout

variable {clock : σ → Millis × σ} {x : End} {config : Config} {octets : Bytes}
variable {last : Option Millis} {e : Endpoint (Wire σ)} {w : Wire σ} {before : List Frame}
variable {counted : Counters}

/-- The scan of what was taken goes on by what is found in the octets held and those taken now. -/
theorem Hearing.scan_append (h : Hearing x config before counted octets last e w) (taken : Bytes) :
    config.scan (octets ++ taken) =
      ⟨(config.scan octets).findings ++ (config.scan (e.reception.held ++ taken)).findings,
        (config.scan (e.reception.held ++ taken)).rest⟩ := by
  rw [h.held, Config.scan_append]

variable {taken : Bytes} {w₁ : Wire σ} {now : Millis}

theorem Hearing.quiet (h : Hearing x config before counted octets last e w)
    (hdrained : Wire.Drained clock x taken w w₁) {s : Station} {event : Option Event}
    (hjudged : (e.taking now taken).Judged (config.scan (e.reception.held ++ taken)) s)
    (hevent : ∀ refusal ∈ event, refusal.IsRefusal) :
    let noted := noteStep (Wire.environment clock x) (e.taking now taken) w₁ (s, event)
    (noted.2.toward x).queue.octets = (w₁.toward x).queue.octets ∧
      (config.scan (octets ++ taken)).frames = (config.scan octets).frames ∧
      Hearing x config before counted (octets ++ taken) (some now) noted.1 noted.2 := by
  have huntouched : Wire.Untouched Open x w₁
      (noteStep (Wire.environment clock x) (e.taking now taken) w₁ (s, event)).2 :=
    untouched_noteStep hevent
  have hframes : (config.scan (octets ++ taken)).frames = (config.scan octets).frames := by
    rw [h.scan_append, Scan.frames_append, hjudged.frames]
    exact List.append_nil _
  have hdelivered : deliveries (w₁.noted x) = before ++ (config.scan octets).frames := by
    rw [hdrained.noted, h.delivered]
  have hcounters : s.counters.refusals =
      (counted.tally (config.scan (octets ++ taken)).findings).refusals := by
    rw [h.scan_append, Counters.tally_append, hjudged.counters]
    exact Counters.refusals_tally _ h.counters
  refine ⟨huntouched.octets, hframes, ?_⟩
  constructor
  case receiving => exact h.receiving.judged hjudged
  case within => exact h.within.of_tables rfl
  case cap => exact huntouched.cap (hdrained.cap ▸ h.cap)
  case held =>
    rw [h.scan_append]
    exact hjudged.held
  case delivered => rw [huntouched.delivered, hdelivered, hframes]
  case counters => exact hcounters
  case deadline =>
    intro time htime
    rw [← h.receiving.config_eq]
    exact ⟨now, rfl, (Option.some_inj.mp (hjudged.deadline htime)).symm⟩

theorem Hearing.deliver (h : Hearing x config before counted octets last e w)
    (hdrained : Wire.Drained clock x taken w w₁) {header : Header}
    {handled : Endpoint (Wire σ) × Wire σ}
    (hfound : config.scan (e.reception.held ++ taken) =
      ⟨[.frame ⟨header, (e.taking now taken).openPacket.reception.region.payload⟩], []⟩)
    (hhandled : { e.taking now taken with toStation := (e.taking now taken).openPacket }.dispatch
      (Wire.environment clock x) header w₁ = handled) :
    (handled.2.toward x).queue.octets = (w₁.toward x).queue.octets ∧
      (config.scan (octets ++ taken)).frames.length = (config.scan octets).frames.length + 1 ∧
      Hearing x config before counted (octets ++ taken) (some now)
        { handled.1 with toStation := handled.1.clearReception } handled.2 := by
  let opened : Endpoint (Wire σ) :=
    { e.taking now taken with toStation := (e.taking now taken).openPacket }
  let frame : Frame := ⟨header, opened.reception.region.payload⟩
  have hopened : opened.Within (Wire.listening Open x) := h.within.of_tables rfl
  have hidle : handled.1.dispatching = false := hhandled ▸ dispatching_dispatch header
  have hdispatch := @dispatch_undisturbed σ clock Open x opened w₁ header hopened
  rw [hhandled] at hdispatch
  obtain ⟨hwithin, hundisturbed, hqueue, hcap, hdelivered⟩ := hdispatch
  have hscan : config.scan (octets ++ taken) =
      ⟨(config.scan octets).findings ++ [.frame frame], []⟩ := by
    rw [h.scan_append, hfound]
  have hframes : (config.scan (octets ++ taken)).frames =
      (config.scan octets).frames ++ [frame] := by
    rw [hscan, Scan.frames_append]
    rfl
  have hcapacity : opened.reception.region.capacity = e.reception.region.capacity :=
    Region.size_overwrite _ _ _
  have hcounters : handled.1.counters.refusals =
      (counted.tally (config.scan (octets ++ taken)).findings).refusals := by
    rw [hscan, Counters.tally_append, hundisturbed.counters]
    exact h.counters
  refine ⟨hqueue, by rw [hframes, List.length_append, List.length_singleton], ?_⟩
  constructor
  case receiving => exact h.receiving.cleared hundisturbed rfl hcapacity hidle
  case within => exact hwithin.of_tables rfl
  case cap => exact hcap (hdrained.cap ▸ h.cap)
  case held =>
    rw [hscan]
    exact Reception.held_clear _
  case delivered =>
    calc
      deliveries (handled.2.noted x) = deliveries (w₁.noted x) ++ [frame] := hdelivered
      _ = before ++ (config.scan octets).frames ++ [frame] := by
        rw [hdrained.noted, h.delivered]
      _ = before ++ (config.scan (octets ++ taken)).frames := by
        rw [hframes, List.append_assoc]
  case counters => exact hcounters
  case deadline =>
    intro _ hset
    exact nomatch hset

/-- The invariant after octets have been taken and judged. -/
theorem Hearing.resolved (h : Hearing x config before counted octets last e w)
    (hdrained : Wire.Drained clock x taken w w₁) {result : Nat × Endpoint (Wire σ) × Wire σ}
    (hresolved : Resolved (Wire.environment clock x) (e.taking now taken) w₁
      (config.scan (e.reception.held ++ taken)) result) :
    (result.2.2.toward x).queue.octets = (w₁.toward x).queue.octets ∧
      (config.scan (octets ++ taken)).frames.length =
        (config.scan octets).frames.length + result.1 ∧
      Hearing x config before counted (octets ++ taken) (some now) result.2.1 result.2.2 := by
  generalize hfound : config.scan (e.reception.held ++ taken) = found at hresolved
  cases hresolved with
  | quiet _ s event hjudged hevent =>
    rw [← hfound] at hjudged
    obtain ⟨hqueue, hframes, hhearing⟩ := h.quiet hdrained hjudged hevent
    exact ⟨hqueue, congrArg _ hframes, hhearing⟩
  | delivered header handled _ hhandled =>
    obtain ⟨hqueue, hframes, hhearing⟩ := h.deliver hdrained hfound hhandled
    exact ⟨hqueue, hframes, hhearing⟩

theorem Hearing.le_deadline (h : Hearing x config before counted octets last e w)
    (htime : ∀ reading ∈ last, InTime config.stallTimeout reading now) :
    ∀ time, e.reception.deadline = some time → now ≤ time := by
  intro time hset
  obtain ⟨reading, hlast, rfl⟩ := h.deadline hset
  exact (htime reading hlast).le_after

/-- A turn that finds octets in time carries the scan on by those that it takes. -/
theorem Hearing.turn (h : Hearing x config before counted octets last e w)
    (hready : (w.toward x).available ≠ 0)
    (htime : ∀ reading ∈ last, InTime config.stallTimeout reading (clock w.app).1) :
    ∃ (taken : Bytes) (result : Nat × Endpoint (Wire σ) × Wire σ),
      e.turn (Wire.environment clock x) w = (.received result.1, result.2) ∧ taken ≠ [] ∧
      taken.length ≤ e.reception.wanted ∧
      (w.toward x).queue.octets = taken ++ (result.2.2.toward x).queue.octets ∧
      (config.scan (octets ++ taken)).frames.length =
        (config.scan octets).frames.length + result.1 ∧
      Hearing x config before counted (octets ++ taken) (some (clock w.app).1) result.2.1
        result.2.2 := by
  obtain ⟨taken, w₁, result, htaken, hwanted, hdrained, hturn, hresolved⟩ :=
    h.receiving.turn_wire hready (h.le_deadline htime)
  obtain ⟨hqueue, hframes, hhearing⟩ := h.resolved hdrained hresolved
  refine ⟨taken, result, hturn, htaken, hwanted, ?_, hframes, hhearing⟩
  rw [hdrained.queue, hqueue]

/-- What an endpoint has heard from the beginning. -/
theorem heard_iff_hearing :
    Heard x config octets last e w ↔ Hearing x config [] {} octets last e w :=
  ⟨fun h ↦ ⟨h.receiving, h.within, h.cap, h.held, h.delivered, h.counters, h.deadline⟩,
    fun h ↦ ⟨h.receiving, h.within, h.cap, h.held, h.delivered, h.counters, h.deadline⟩⟩

theorem Heard.hearing (h : Heard x config octets last e w) :
    Hearing x config [] {} octets last e w :=
  heard_iff_hearing.mp h

theorem turnReadings_of_ready (hready : (w.toward x).available ≠ 0) (fuel : Nat) :
    ∃ readings, e.turnReadings (Wire.environment clock x) (fuel + 1) w =
        (clock w.app).1 :: readings ∧
      ∀ result : Nat × Endpoint (Wire σ) × Wire σ,
        e.turn (Wire.environment clock x) w = (.received result.1, result.2) →
        readings = result.2.1.turnReadings (Wire.environment clock x) fuel result.2.2 := by
  obtain ⟨ready, hsome⟩ := Nat.exists_eq_succ_of_ne_zero hready
  rw [turnReadings, available_wire, hsome]
  refine ⟨_, rfl, ?_⟩
  intro result hresult
  rw [hresult]

/-- A poll that is given turns enough carries the scan on by all octets that are ready. -/
theorem Hearing.poll (h : Hearing x config before counted octets last e w) {fuel : Nat}
    {later : List Millis} (hfuel : (w.toward x).queue.octets.length < fuel)
    (hpaced : Paced config.stallTimeout last
      (e.turnReadings (Wire.environment clock x) fuel w ++ later)) :
    ∃ packets last' e' w',
      e.poll (Wire.environment clock x) fuel w = (.done packets, e', w') ∧
      (w'.toward x).queue.octets = [] ∧
      (config.scan (octets ++ (w.toward x).queue.octets)).frames.length =
        (config.scan octets).frames.length + packets ∧
      Hearing x config before counted (octets ++ (w.toward x).queue.octets) last' e' w' ∧
      Paced config.stallTimeout last' later := by
  let all := octets ++ (w.toward x).queue.octets
  let I (fuel packets : Nat) (e : Endpoint (Wire σ)) (w : Wire σ) : Prop :=
    ∃ consumed last, consumed ++ (w.toward x).queue.octets = all ∧
      (config.scan consumed).frames.length = (config.scan octets).frames.length + packets ∧
      Hearing x config before counted consumed last e w ∧
      Paced config.stallTimeout last
        (e.turnReadings (Wire.environment clock x) fuel w ++ later)
  have hturn {fuel packets : Nat} {e : Endpoint (Wire σ)} {w : Wire σ}
      (hready : (w.toward x).available ≠ 0) (h : I (fuel + 1) packets e w) :
      ∃ result : Nat × Endpoint (Wire σ) × Wire σ,
        e.turn (Wire.environment clock x) w = (.received result.1, result.2) ∧
        (result.2.2.toward x).queue.octets.length < (w.toward x).queue.octets.length ∧
        I fuel (packets + result.1) result.2.1 result.2.2 := by
    obtain ⟨consumed, last, hconsumed, hframes, hhearing, hpaced⟩ := h
    obtain ⟨readings, hreadings, hlater⟩ := turnReadings_of_ready hready fuel
    rw [hreadings, List.cons_append] at hpaced
    obtain ⟨htime, hrest⟩ := hpaced.of_cons
    obtain ⟨taken, result, hreceived, htaken, -, hqueue, hcount, hkept⟩ :=
      hhearing.turn hready htime
    rw [hlater result hreceived] at hrest
    refine ⟨result, hreceived, ?_, consumed ++ taken, _, ?_, ?_, hkept, hrest⟩
    · have hpositive := List.length_pos_of_ne_nil htaken
      rw [hqueue, List.length_append]
      omega
    · rw [List.append_assoc, ← hqueue, hconsumed]
    · rw [hcount, hframes, Nat.add_assoc]
  have hstart : I fuel 0 e w := ⟨octets, last, rfl, rfl, h, hpaced⟩
  obtain ⟨left, packets, e', w', hpoll, hidle, consumed, last', hconsumed, hframes, hhearing,
    hpaced'⟩ := h.receiving.poll_wire hturn hfuel hstart
  have hempty : (w'.toward x).queue.octets = [] :=
    ((w'.toward x).available_eq_zero_iff.mp hidle).resolve_right hhearing.cap
  have hover : e'.turnReadings (Wire.environment clock x) left w' = [] := by
    cases left with
    | zero => rfl
    | succ left => rw [turnReadings, available_wire, hidle]
  rw [hempty, List.append_nil] at hconsumed
  rw [hover, List.nil_append] at hpaced'
  subst hconsumed
  exact ⟨packets, last', e', w', hpoll, hempty, hframes, hhearing, hpaced'⟩

theorem Heard.arrive (h : Heard x config octets last e w) {arrival : Arrival}
    (hcap : Open arrival.cap) : Heard x config octets last e (w.arrive x arrival) where
  receiving := h.receiving
  within := h.within
  cap := by rwa [Wire.cap_arrive]
  held := h.held
  delivered := h.delivered
  counters := h.counters
  deadline := h.deadline

/-- Polls after each of some arrivals carry the scan on by all that arrives. -/
theorem Heard.pollEach (h : Heard x config octets last e w)
    (hempty : (w.toward x).queue.octets = []) {arrivals : List Arrival}
    (hcaps : ∀ arrival ∈ arrivals, Open arrival.cap) {fuel : Nat}
    (hfuel : (arrivals.flatMap Arrival.octets).length < fuel)
    (hpaced : Paced config.stallTimeout last (readingsEach clock x fuel arrivals e w)) :
    ∃ (counts : List Nat) (last' : Option Millis) (e' : Endpoint (Wire σ)) (w' : Wire σ),
      pollEach clock x fuel arrivals e w = (counts.map .done, e', w') ∧
      (config.scan (octets ++ arrivals.flatMap Arrival.octets)).frames.length =
        (config.scan octets).frames.length + counts.sum ∧
      Heard x config (octets ++ arrivals.flatMap Arrival.octets) last' e' w' := by
  induction arrivals generalizing octets last e w with
  | nil =>
    refine ⟨[], last, e, w, rfl, ?_, ?_⟩
    · rw [List.flatMap_nil, List.append_nil, List.sum_nil, Nat.add_zero]
    · rwa [List.flatMap_nil, List.append_nil]
  | cons arrival arrivals ih =>
    rw [List.forall_mem_cons] at hcaps
    rw [List.flatMap_cons, List.length_append] at hfuel
    have hready : ((w.arrive x arrival).toward x).queue.octets = arrival.octets := by
      rw [Wire.octets_arrive, hempty, List.nil_append]
    obtain ⟨packets, last₁, e₁, w₁, hpoll, hempty₁, hframes₁, hhearing₁, hpaced₁⟩ :=
      (h.arrive hcaps.1).hearing.poll (by rw [hready]; omega) hpaced
    have hheard₁ := heard_iff_hearing.mpr hhearing₁
    rw [hready] at hframes₁ hheard₁
    rw [hpoll] at hpaced₁
    obtain ⟨counts, last₂, e₂, w₂, hlater, hframes₂, hheard₂⟩ :=
      ih hheard₁ hempty₁ hcaps.2 (by omega) hpaced₁
    rw [List.append_assoc, ← List.flatMap_cons] at hframes₂ hheard₂
    refine ⟨packets :: counts, last₂, e₂, w₂, ?_, ?_, hheard₂⟩
    · rw [Endpoint.pollEach, hpoll, hlater]
      rfl
    · rw [hframes₂, hframes₁, List.sum_cons, Nat.add_assoc]

/-- A new endpoint stands at the beginning of the scan. -/
theorem heard_initial {id : UInt32} (hconfig : config.fault? = none)
    (hnew : e.toStation = Station.initial config id)
    (hwithin : e.Within (Wire.listening Open x)) (hcap : Open (w.toward x).cap)
    (hnoted : deliveries (w.noted x) = []) : Heard x config [] none e w := by
  have hscan : config.scan [] = ⟨[], []⟩ := Scan.scan_of_next?_none rfl
  constructor
  case receiving => exact receiving_initial hconfig hnew
  case within => exact hwithin
  case cap => exact hcap
  case held =>
    rw [hnew, hscan]
    exact Reception.held_of_filled rfl
  case delivered => rw [hnoted, hscan]; rfl
  case counters => rw [hnew, hscan]; rfl
  case deadline =>
    rw [hnew]
    intro _ hset
    exact nomatch hset

/-- However octets are cut into portions, with a poll after each, and whatever cap of at least one
the pipe has at each time: every poll ends, the packets dispatched are the frames of one scan of all
the octets, with their headers and in their order, and polls return their number; the counters are
those of the scan's findings, no packet counts as stalled, and the octets held are those that the
scan leaves. -/
theorem pollEach_eq_scan {id : UInt32} {arrivals : List Arrival} {fuel : Nat}
    (hconfig : config.fault? = none) (hnew : e.toStation = Station.initial config id)
    (hwithin : e.Within (Wire.listening Open x))
    (hempty : (w.toward x).queue.octets = []) (hcap : Open (w.toward x).cap)
    (hnoted : deliveries (w.noted x) = []) (hcaps : ∀ arrival ∈ arrivals, Open arrival.cap)
    (hfuel : (arrivals.flatMap Arrival.octets).length < fuel)
    (hclock : (readingsEach clock x fuel arrivals e w).IsChain (InTime config.stallTimeout)) :
    let found := config.scan (arrivals.flatMap Arrival.octets)
    ∃ (counts : List Nat) (e' : Endpoint (Wire σ)) (w' : Wire σ),
      pollEach clock x fuel arrivals e w = (counts.map .done, e', w') ∧
      counts.sum = found.frames.length ∧
      deliveries (w'.noted x) = found.frames ∧
      e'.counters.badMagic = found.findings.count .badMarker ∧
      e'.counters.oversize = found.findings.count .oversize ∧
      e'.counters.checksumFailures = found.findings.count .badTrailer ∧
      e'.counters.stalls = 0 ∧
      e'.reception.held = found.rest := by
  have hstart : Heard x config [] none e w := heard_initial hconfig hnew hwithin hcap hnoted
  have hscan : config.scan [] = ⟨[], []⟩ := Scan.scan_of_next?_none rfl
  obtain ⟨counts, last, e', w', hpolled, hframes, hheard⟩ :=
    hstart.pollEach hempty hcaps hfuel hclock
  rw [List.nil_append] at hframes hheard
  have hcounters := hheard.counters
  simp only [Counters.refusals, Counters.tally, Prod.mk.injEq, Nat.zero_add] at hcounters
  obtain ⟨hbadMagic, hoversize, hchecksum, hstalls⟩ := hcounters
  have hsum : counts.sum = (config.scan (arrivals.flatMap Arrival.octets)).frames.length := by
    rw [hframes, hscan]
    exact (Nat.zero_add _).symm
  exact ⟨counts, e', w', hpolled, hsum, hheard.delivered, hbadMagic, hoversize, hchecksum,
    hstalls, hheard.held⟩

/-- A packet that arrives in two halves, the first handed out two octets at a time. -/
theorem pollEach_eq_scan_halves :
    let arrivals : List Arrival := [⟨[0x23, 7, 1, 0, 0], some 2⟩, ⟨[0, 0, 0, 0, 0], none⟩]
    let e : Endpoint (Wire Unit) := .ofConfig (.ofSizes 18 18) 7
    let w : Wire Unit := .fresh (fun _ ↦ ⟨[], 1⟩) ()
    ∃ (counts : List Nat) (e' : Endpoint (Wire Unit)) (w' : Wire Unit),
      pollEach (fun app ↦ (0, app)) .near 11 arrivals e w = (counts.map .done, e', w') ∧
      counts.sum = 1 ∧ deliveries (w'.noted .near) = [⟨.plain 7 1 0, []⟩] ∧
      e'.reception.held = [] := by
  intro arrivals e w
  have hscan : (Config.ofSizes 18 18).scan (arrivals.flatMap Arrival.octets) =
      ⟨[.frame ⟨.plain 7 1 0, []⟩], []⟩ := by
    have hfirst : Scan.next? 10 .unchecked (arrivals.flatMap Arrival.octets) =
        some (.frame ⟨.plain 7 1 0, []⟩, []) := by decide
    have hlast : scan 10 .unchecked [] = ⟨[], []⟩ := Scan.scan_of_next?_none rfl
    calc
      scan 10 .unchecked (arrivals.flatMap Arrival.octets) =
          ⟨.frame ⟨.plain 7 1 0, []⟩ :: (scan 10 .unchecked []).findings,
            (scan 10 .unchecked []).rest⟩ := Scan.scan_of_next?_some hfirst
      _ = ⟨[.frame ⟨.plain 7 1 0, []⟩], []⟩ := by rw [hlast]
  have hclock : (readingsEach (fun app ↦ (0, app)) .near 11 arrivals e w).IsChain
      (InTime (Config.ofSizes 18 18).stallTimeout) := by
    have hreadings : readingsEach (fun app ↦ (0, app)) .near 11 arrivals e w = [0, 0, 0, 0, 0] := by
      decide +kernel
    rw [hreadings]
    decide
  obtain ⟨counts, e', w', hpolled, hsum, hdelivered, -, -, -, -, hheld⟩ :=
    @pollEach_eq_scan Unit (fun app ↦ (0, app)) .near (.ofSizes 18 18) e w 7 arrivals 11 rfl rfl
      (within_ofConfig _ _ _) rfl (by decide) rfl (by decide) (by decide) hclock
  rw [hscan] at hsum hdelivered hheld
  exact ⟨counts, e', w', hpolled, hsum, hdelivered, hheld⟩

/-- A new endpoint at the end of an empty pipe, with an application that only listens. -/
structure Unused (x : End) (config : Config) (e : Endpoint (Wire σ)) (w : Wire σ) : Prop where
  valid : config.fault? = none
  new : ∃ id, e.toStation = Station.initial config id
  within : e.Within (Wire.listening Open x)
  empty : (w.toward x).queue.octets = []
  cap : Open (w.toward x).cap
  noted : deliveries (w.noted x) = []

theorem unused_ofConfig (hvalid : config.fault? = none) (id : UInt32) (ids : End → IdSupply)
    (app : σ) : (ofConfig config id).Unused x config (Wire.fresh ids app) where
  valid := hvalid
  new := ⟨id, rfl⟩
  within := within_ofConfig _ config id
  empty := rfl
  cap := fun hcap ↦ nomatch hcap
  noted := rfl

theorem Unused.octets_arrive (h : Unused x config e w) (arrival : Arrival) :
    ((w.arrive x arrival).toward x).queue.octets = arrival.octets := by
  rw [Wire.octets_arrive, h.empty]
  rfl

theorem Unused.heard (h : Unused x config e w) : Heard x config [] none e w := by
  obtain ⟨id, hnew⟩ := h.new
  exact heard_initial h.valid hnew h.within h.cap h.noted

theorem eq_of_mem_turnReadings (hclock : ∀ app, (clock app).1 = now) (fuel : Nat) :
    ∀ reading ∈ e.turnReadings (Wire.environment clock x) fuel w, reading = now := by
  induction fuel generalizing e w with
  | zero => simp [turnReadings]
  | succ fuel ih =>
    intro reading hmem
    unfold turnReadings at hmem
    split at hmem
    · simp at hmem
    · simp at hmem
    · rcases List.mem_cons.mp hmem with rfl | hlater
      · exact hclock _
      · split at hlater
        · exact ih reading hlater
        · simp at hlater

theorem eq_of_mem_readingsEach (hclock : ∀ app, (clock app).1 = now) (fuel : Nat)
    (arrivals : List Arrival) :
    ∀ reading ∈ readingsEach clock x fuel arrivals e w, reading = now := by
  induction arrivals generalizing e w with
  | nil => simp [readingsEach]
  | cons arrival arrivals ih =>
    intro reading hmem
    rcases List.mem_append.mp hmem with hfirst | hlater
    · exact eq_of_mem_turnReadings hclock fuel reading hfirst
    · exact ih reading hlater

theorem isChain_of_forall_eq {timeout : Millis} {readings : List Millis}
    (h : ∀ reading ∈ readings, reading = now) : readings.IsChain (InTime timeout) := by
  apply List.Pairwise.isChain
  apply List.pairwise_of_forall_mem_list
  intro earlier hearlier later hlater
  rw [h earlier hearlier, h later hlater]
  exact Nat.le_add_right _ _

/-- The counters of an endpoint that is not disturbed are those of the findings of a scan. -/
theorem Heard.counts (h : Heard x config octets last e w) :
    e.counters.refusals =
      ((config.scan octets).findings.count .badMarker,
        (config.scan octets).findings.count .oversize,
        (config.scan octets).findings.count .badTrailer, 0) := by
  rw [h.counters]
  simp [Counters.refusals, Counters.tally]

/-- While the clock stands still, an endpoint that polls after each of some arrivals comes to stand
where the scan of all octets ends, and its polls count the frames. -/
theorem Unused.pollEach (h : Unused x config e w) (hclock : ∀ app, (clock app).1 = now)
    {arrivals : List Arrival} (hcaps : ∀ arrival ∈ arrivals, Open arrival.cap) {fuel : Nat}
    (hfuel : (arrivals.flatMap Arrival.octets).length < fuel) :
    ∃ (counts : List Nat) (last' : Option Millis) (e' : Endpoint (Wire σ)) (w' : Wire σ),
      pollEach clock x fuel arrivals e w = (counts.map .done, e', w') ∧
      Heard x config (arrivals.flatMap Arrival.octets) last' e' w' := by
  have hpaced : Paced config.stallTimeout none (readingsEach clock x fuel arrivals e w) :=
    isChain_of_forall_eq (eq_of_mem_readingsEach hclock fuel arrivals)
  obtain ⟨counts, last', e', w', hpolled, -, hheard⟩ :=
    h.heard.pollEach h.empty hcaps hfuel hpaced
  exact ⟨counts, last', e', w', hpolled, hheard⟩

end Endpoint

end FramedLink
