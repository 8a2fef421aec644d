import FramedLink.Proofs.Handling.Deadlines
import FramedLink.Proofs.Handling.Reading

/-!
# Partial packets that stall

A partial packet whose rest is late is given up once more octets show up, and not before. In time,
up to the deadline itself, they are received as if there were no deadline; past it they are received
as if the endpoint had never held anything, and the packet is counted as stalled
(`Course.stall_recovery`).
-/

namespace FramedLink

/-- Nothing is late when it has been given up. -/
theorem Station.not_late_giveUp (s : Station) (now : Millis) : ¬ s.giveUp.1.Late now := by
  rw [not_late_iff]
  unfold giveUp
  dsimp only
  split <;> exact fun _ hset ↦ nomatch hset

namespace Endpoint

variable {ω σ : Type} {env : Environment ω} {e e' : Endpoint ω} {w w' : ω}

/-- The endpoint with no deadline for what it holds. -/
def patient (e : Endpoint ω) : Endpoint ω :=
  { e with reception := { e.reception with deadline := none } }

def abandoned (e : Endpoint ω) : Endpoint ω :=
  { e with toStation := { e.clearReception with
      counters := { e.counters with stalls := e.counters.stalls + 1 } } }

/-- In time the deadline has no part in a turn. -/
theorem turn_patient {ready : Nat} {found : ω}
    (hfound : env.channel.available w = (.ok ready, found)) (hready : ready ≠ 0)
    (htime : ¬ e.Late (env.now found).1) : e.turn env w = e.patient.turn env w := by
  have hsame : e.expire (env.now found).1 = (e.toStation, none) := if_neg htime
  have hpatient : e.patient.expire (env.now found).1 = (e.patient.toStation, none) :=
    if_neg (by rw [patient]; exact Bool.false_ne_true)
  rw [turn_of_found hfound hready, turn_of_found hfound hready, waiting, waiting, hsame, hpatient]
  rfl

theorem poll_congr (hturn : e.turn env w = e'.turn env w')
    (hidle : e.dispatching = false) (hidle' : e'.dispatching = false) (fuel : Nat) :
    e.poll env (fuel + 1) w = e'.poll env (fuel + 1) w' := by
  rw [poll_of_idle hidle, poll_of_idle hidle', pollFrom, pollFrom, hturn]

variable {clock : σ → Millis × σ} {x : End} {config : Config} {c : Conduct (Wire σ)}

section Wire

variable {e : Endpoint (Wire σ)} {w : Wire σ}

theorem wire_noteStep (step : Station × Option Event) :
    (noteStep (Wire.environment clock x) e w step).2.toward = w.toward ∧
      (noteStep (Wire.environment clock x) e w step).2.app = w.app := by
  unfold noteStep
  cases step.2 <;> exact ⟨rfl, rfl⟩

/-- A turn that comes too late begins by giving up what is held. -/
theorem turn_of_late (hready : (w.toward x).available ≠ 0) (hlate : e.Late (clock w.app).1) :
    let begun := noteStep (Wire.environment clock x) e w e.giveUp
    e.turn (Wire.environment clock x) w = begun.1.turn (Wire.environment clock x) begun.2 := by
  intro begun
  obtain ⟨htoward, happ⟩ := @wire_noteStep σ clock x e w e.giveUp
  have hexpire : e.expire (clock w.app).1 = e.giveUp := if_pos hlate
  have hsame : begun.1.expire (clock w.app).1 = (begun.1.toStation, none) :=
    if_neg (e.not_late_giveUp _)
  have hfound : (Wire.environment clock x).channel.available begun.2 =
      (.ok (w.toward x).available, begun.2) := by
    rw [available_wire, htoward]
  have hnow : (Wire.environment clock x).now w = ((clock w.app).1, w.ticked clock) := rfl
  have hnow' : (Wire.environment clock x).now begun.2 =
      ((clock w.app).1, begun.2.ticked clock) := by
    rw [← happ]
    rfl
  have hwaiting : e.waiting (Wire.environment clock x) (clock w.app).1 (w.ticked clock) =
      begun.1.waiting (Wire.environment clock x) (clock w.app).1 (begun.2.ticked clock) := by
    unfold waiting
    rw [hexpire, hsame]
    unfold begun noteStep
    cases e.giveUp.2 <;> rfl
  rw [turn_of_found (available_wire clock x w) hready, turn_of_found hfound hready, hnow, hnow']
  dsimp only
  rw [hwaiting]

/-- What has been given up is noted as stalled if there was something. -/
theorem noteStep_giveUp (hfilled : 0 < e.reception.filled) :
    noteStep (Wire.environment clock x) e w e.giveUp =
      (e.abandoned, w.note x (.stalled e.reception.filled e.reception.packetSize
        e.config.stallTimeout)) := by
  unfold Station.giveUp
  dsimp only
  rw [if_pos hfilled]
  rfl

theorem Receiving.giveUp (h : e.Receiving config) :
    (noteStep (Wire.environment clock x) e w e.giveUp).1.Receiving config := by
  have hcleared (counters : Counters) : ({ e with toStation :=
      { e.clearReception with counters } } : Endpoint (Wire σ)).Receiving config :=
    ⟨h.config_eq, h.dispatching, Reception.sound_clear h.sound.room, Reception.wanted_clear _⟩
  unfold Station.giveUp noteStep
  dsimp only
  split
  · exact hcleared _
  · exact hcleared e.counters

/-- After a turn, in time or not, an endpoint is ready to receive again. -/
theorem Receiving.turn (h : e.Receiving config) (hwithin : e.Within .free) :
    (e.turn (Wire.environment clock x) w).2.1.Receiving config := by
  have hearly {e : Endpoint (Wire σ)} {w : Wire σ} (h : e.Receiving config)
      (hwithin : e.Within .free) (hready : (w.toward x).available ≠ 0)
      (htime : ¬ e.Late (clock w.app).1) :
      (e.turn (Wire.environment clock x) w).2.1.Receiving config := by
    obtain ⟨octets, w₁, result, -, -, -, hturn, hresolved⟩ :=
      h.turn_wire hready (Station.not_late_iff.mp htime)
    rw [hturn]
    generalize config.scan (e.reception.held ++ octets) = found at hresolved
    cases hresolved with
    | quiet _ s event hjudged _ => exact h.judged hjudged
    | delivered header handled hpayload hhandled =>
      let taken := e.taking (clock w.app).1 octets
      let opened : Endpoint (Wire σ) := { taken with toStation := taken.openPacket }
      have hopened : opened.Within .free := hwithin.of_tables rfl
      obtain ⟨hundisturbed, -⟩ :=
        (@upheld_undisturbed _ (Wire.environment clock x) .free opened.toStation header).dispatch
          (w := w₁) (fun _ hkept ↦ hkept.trans ⟨rfl, rfl, rfl, rfl⟩) id hopened (.refl _)
      have hidle : handled.1.dispatching = false := hhandled ▸ dispatching_dispatch header
      rw [hhandled] at hundisturbed
      exact h.cleared hundisturbed rfl (Region.size_overwrite _ _ _) hidle
  by_cases hready : (w.toward x).available = 0
  · have hfound : (Wire.environment clock x).channel.available w = (.ok 0, w) := by
      rw [available_wire, hready]
    rw [turn_of_not_ready hfound]
    exact h
  · by_cases hlate : e.Late (clock w.app).1
    · rw [turn_of_late hready hlate]
      have hstill : ((noteStep (Wire.environment clock x) e w e.giveUp).2.toward x).available ≠
          0 := by
        rwa [(wire_noteStep e.giveUp).1]
      exact hearly h.giveUp (hwithin.of_tables rfl) hstill (e.not_late_giveUp _)
    · exact hearly h hwithin hready hlate

/-- Programs that read packets only by their readers leave an endpoint ready to receive. -/
theorem Receiving.run (h : e.Receiving config) {program : Program (Wire σ)}
    (hprogram : program.Within .reading) (hwithin : e.Within .reading) :
    (program.run (Wire.environment clock x) e w).2.1.Receiving config := by
  obtain ⟨hundisturbed, -⟩ :=
    (@upheld_undisturbed _ (Wire.environment clock x) .reading e.toStation (.plain 0 0 0)).run
      (w := w) hprogram hwithin (.refl _)
  obtain ⟨⟨cursor, hregion⟩, -⟩ :=
    (@upheld_region _ (Wire.environment clock x) (.plain 0 0 0) e.reception.region).run
      (w := w) hprogram hwithin ⟨e.reception.region.cursor, rfl⟩
  have hreception := hundisturbed.reception
  rw [hregion] at hreception
  constructor
  case config_eq => exact hundisturbed.config.trans h.config_eq
  case dispatching => exact (dispatching_run program).trans h.dispatching
  case sound =>
    rw [hreception]
    refine ⟨h.sound.room, ?_⟩
    cases h.sound.settled with
    | header h₁ h₂ h₃ => exact .header h₁ h₂ h₃
    | packet header h₁ h₂ h₃ h₄ h₅ h₆ => exact .packet header h₁ h₂ h₃ h₄ h₅ h₆
  case wanted =>
    rw [hreception]
    exact h.wanted

/-- An endpoint whose application only reads is ready to receive at all times. -/
theorem Course.receiving {polls : List (Polled (Wire σ))}
    (h : Course (Wire.environment clock x) config .reading polls e w) : e.Receiving config := by
  induction h with
  | created hcreated =>
    obtain ⟨hvalid, id, rfl, -⟩ := created_eq hcreated
    exact receiving_initial hvalid rfl
  | named id _ ih => exact ⟨ih.config_eq, ih.dispatching, ih.sound, ih.wanted⟩
  | run program hprogram h ih => exact ih.run hprogram h.within
  | @poll polls e w fuel h ih =>
    exact @poll_keeps _ (Wire.environment clock x) .free e w (fun e _ ↦ e.Receiving config)
      (fun hwithin hkept ↦ hkept.turn hwithin) fuel h.operated.ready.within ih

/-- A poll that comes to a scan of some octets: it dispatches the frames that are found, counts what
is found, and leaves what the scan leaves. -/
structure Scanned (x : End) (e : Endpoint (Wire σ)) (w : Wire σ) (found : Scan)
    (polled : PollOutcome × Endpoint (Wire σ) × Wire σ) : Prop where
  outcome : polled.1 = .done found.frames.length
  delivered : deliveries (polled.2.2.noted x) = deliveries (w.noted x) ++ found.frames
  counters : polled.2.1.counters.refusals = (e.counters.tally found.findings).refusals
  held : polled.2.1.reception.held = found.rest

/-- A poll of an endpoint that has no deadline, with turns enough and its readings of the clock in
time, comes to the scan of the octets held and those in the pipe. -/
theorem Receiving.scanned (h : e.Receiving config) (hnone : e.reception.deadline = none)
    (hwithin : e.Within (Wire.listening Open x)) (hcap : Open (w.toward x).cap) {fuel : Nat}
    (hfuel : (w.toward x).queue.octets.length < fuel)
    (hchain : (e.turnReadings (Wire.environment clock x) fuel w).IsChain
      (InTime config.stallTimeout)) :
    Scanned x e w (config.scan (e.reception.held ++ (w.toward x).queue.octets))
      (e.poll (Wire.environment clock x) fuel w) := by
  have hscan : config.scan e.reception.held = ⟨[], e.reception.held⟩ :=
    Scan.scan_of_next?_none (h.sound.next?_held h.wanted)
  have hstart : Hearing x config (deliveries (w.noted x)) e.counters e.reception.held none e w := by
    constructor
    case receiving => exact h
    case within => exact hwithin
    case cap => exact hcap
    case held => rw [hscan]
    case delivered =>
      rw [hscan]
      exact (List.append_nil _).symm
    case counters => rw [hscan, Counters.tally_nil]
    case deadline =>
      intro time hset
      exact nomatch hnone.symm.trans hset
  have hpaced : Paced config.stallTimeout none
      (e.turnReadings (Wire.environment clock x) fuel w ++ []) := by
    rw [List.append_nil]
    exact hchain
  obtain ⟨packets, last, e', w', hpoll, -, hcount, hhearing, -⟩ := hstart.poll hfuel hpaced
  have hpackets : packets =
      (config.scan (e.reception.held ++ (w.toward x).queue.octets)).frames.length := by
    rw [hcount, hscan]
    exact (Nat.zero_add _).symm
  rw [hpoll]
  exact ⟨congrArg _ hpackets, hhearing.delivered, hhearing.counters, hhearing.held⟩

/-- Polls that begin with the same turn, at the same time, read the clock in the same turns. -/
theorem turnReadings_congr {e' : Endpoint (Wire σ)} {w' : Wire σ}
    (hturn : e.turn (Wire.environment clock x) w = e'.turn (Wire.environment clock x) w')
    (htoward : w'.toward = w.toward) (happ : w'.app = w.app) (fuel : Nat) :
    e'.turnReadings (Wire.environment clock x) (fuel + 1) w' =
      e.turnReadings (Wire.environment clock x) (fuel + 1) w := by
  rw [turnReadings, turnReadings, available_wire, available_wire, hturn, htoward]
  cases (w.toward x).available with
  | zero => rfl
  | succ ready =>
    have hnow : ((Wire.environment clock x).now w').1 = ((Wire.environment clock x).now w).1 :=
      congrArg (fun app ↦ (clock app).1) happ
    dsimp only
    rw [hnow]

variable {polls : List (Polled (Wire σ))} {fuel : Nat}

/-- A poll with turns enough for all that is in the pipe, in a run whose application only reads, and
with handlers that keep away from the pipe. -/
structure Attended (clock : σ → Millis × σ) (x : End) (config : Config)
    (polls : List (Polled (Wire σ))) (fuel : Nat) (e : Endpoint (Wire σ)) (w : Wire σ) :
    Prop where
  course : Course (Wire.environment clock x) config .reading polls e w
  within : e.Within (Wire.listening Open x)
  cap : Open (w.toward x).cap
  turns : (w.toward x).queue.octets.length < fuel

/-- A poll that finds its octets in time goes on with what is held. -/
theorem Course.poll_in_time (h : Course (Wire.environment clock x) config c polls e w)
    (hready : (w.toward x).available ≠ 0) (hearly : ¬ e.Late (clock w.app).1) :
    let env := Wire.environment clock x
    let polled := e.poll env (fuel + 1) w
    polled = e.patient.poll env (fuel + 1) w ∧
      ((e.turnReadings env (fuel + 1) w).IsChain (InTime config.stallTimeout) →
        polled.2.1.counters.stalls = e.counters.stalls ∧
        (Attended clock x config polls (fuel + 1) e w →
          Scanned x e w (config.scan (e.reception.held ++ (w.toward x).queue.octets)) polled)) := by
  intro env polled
  have hstate := h.operated.ready
  have hidle := hstate.placed.idle
  have hturn := turn_patient (available_wire clock x w) hready hearly
  have hpolled : polled = e.patient.poll env (fuel + 1) w := poll_congr hturn hidle hidle fuel
  refine ⟨hpolled, fun hchain ↦ ⟨?_, fun hattended ↦ ?_⟩⟩
  · rw [← hstate.placed.config_eq] at hchain
    have hstalls := stalls_poll hidle hstate.within (available_wire clock x w) hready hchain
    rw [if_neg (fun hboth ↦ hearly hboth.1)] at hstalls
    exact hstalls
  · have hreceiving := hattended.course.receiving
    have hpatient : e.patient.Receiving config :=
      ⟨hreceiving.config_eq, hreceiving.dispatching, hreceiving.sound.of_deadline none,
        hreceiving.wanted⟩
    rw [← turnReadings_congr hturn rfl rfl] at hchain
    have hscanned := hpatient.scanned rfl (hattended.within.of_tables rfl) hattended.cap
      hattended.turns hchain
    rw [← hpolled] at hscanned
    exact ⟨hscanned.outcome, hscanned.delivered, hscanned.counters, hscanned.held⟩

/-- A poll that finds its octets too late goes on without what was held. -/
theorem Course.poll_of_late (h : Course (Wire.environment clock x) config c polls e w)
    (hready : (w.toward x).available ≠ 0) (hfilled : 0 < e.reception.filled)
    (hlate : e.Late (clock w.app).1) :
    let env := Wire.environment clock x
    let polled := e.poll env (fuel + 1) w
    polled = e.abandoned.poll env (fuel + 1)
        (w.note x (.stalled e.reception.filled e.reception.packetSize config.stallTimeout)) ∧
      ((e.turnReadings env (fuel + 1) w).IsChain (InTime config.stallTimeout) →
        polled.2.1.counters.stalls = e.counters.stalls + 1 ∧
        (Attended clock x config polls (fuel + 1) e w →
          Scanned x e.abandoned w (config.scan (w.toward x).queue.octets) polled)) := by
  intro env polled
  have hstate := h.operated.ready
  have hidle := hstate.placed.idle
  let noted := w.note x
    (.stalled e.reception.filled e.reception.packetSize config.stallTimeout)
  have hturn : e.turn env w = e.abandoned.turn env noted := by
    have hbegun := turn_of_late hready hlate
    rwa [noteStep_giveUp hfilled, hstate.placed.config_eq] at hbegun
  have hpolled : polled = e.abandoned.poll env (fuel + 1) noted :=
    poll_congr hturn hidle hidle fuel
  refine ⟨hpolled, fun hchain ↦ ⟨?_, fun hattended ↦ ?_⟩⟩
  · rw [← hstate.placed.config_eq] at hchain
    have hstalls := stalls_poll hidle hstate.within (available_wire clock x w) hready hchain
    rw [if_pos ⟨hlate, hfilled⟩] at hstalls
    exact hstalls
  · have hreceiving := hattended.course.receiving
    have habandoned : e.abandoned.Receiving config :=
      ⟨hreceiving.config_eq, hreceiving.dispatching, Reception.sound_clear hreceiving.sound.room,
        Reception.wanted_clear _⟩
    rw [← turnReadings_congr hturn rfl rfl] at hchain
    have hscanned := habandoned.scanned (w := noted) rfl (hattended.within.of_tables rfl)
      hattended.cap hattended.turns hchain
    rw [← hpolled] at hscanned
    have hheld : e.abandoned.reception.held = [] := Reception.held_clear _
    rw [hheld] at hscanned
    refine ⟨hscanned.outcome, ?_, hscanned.counters, hscanned.held⟩
    rw [hscanned.delivered, Wire.noted_note, deliveries_of_silent _ rfl]
    rfl

/-- A poll that finds nothing changes nothing, however late. One that finds octets while a packet is
held receives them as if there were no deadline, as long as its reading of the clock is at most the
stall timeout after the last reading of a turn that found octets. Past that it receives them as if
nothing had been held, and the packet is counted as stalled. Nothing is counted if nothing is
held. -/
theorem Course.stall_recovery (h : Course (Wire.environment clock x) config c polls e w) :
    let env := Wire.environment clock x
    let octets := (w.toward x).queue.octets
    ((w.toward x).available = 0 → ∀ fuel, e.poll env (fuel + 1) w = (.done 0, e, w)) ∧
    ((w.toward x).available ≠ 0 → ∀ fuel,
      let polled := e.poll env (fuel + 1) w
      let paced := (e.turnReadings env (fuel + 1) w).IsChain (InTime config.stallTimeout)
      let attended := Attended clock x config polls (fuel + 1) e w
      (e.reception.filled = 0 → paced → polled.2.1.counters.stalls = e.counters.stalls) ∧
      (0 < e.reception.filled →
        ∃ reading, (polls.flatMap (Polled.readings env)).getLast? = some reading ∧
        (InTime config.stallTimeout reading (clock w.app).1 →
          polled = e.patient.poll env (fuel + 1) w ∧
          (paced → polled.2.1.counters.stalls = e.counters.stalls ∧
            (attended →
              Scanned x e w (config.scan (e.reception.held ++ octets)) polled))) ∧
        (¬ InTime config.stallTimeout reading (clock w.app).1 →
          polled = e.abandoned.poll env (fuel + 1)
            (w.note x (.stalled e.reception.filled e.reception.packetSize
              config.stallTimeout)) ∧
          (paced → polled.2.1.counters.stalls = e.counters.stalls + 1 ∧
            (attended → Scanned x e.abandoned w (config.scan octets) polled))))) := by
  intro env octets
  have hstate := h.operated.ready
  have hidle := hstate.placed.idle
  constructor
  · intro hnone fuel
    have hfound : env.channel.available w = (.ok 0, w) := by
      rw [available_wire, hnone]
    rw [poll_of_idle hidle, pollFrom, turn_of_not_ready hfound]
  · intro hready fuel polled paced attended
    constructor
    · intro hempty hchain
      have hchain' : (e.turnReadings env (fuel + 1) w).IsChain (InTime e.config.stallTimeout) := by
        rwa [hstate.placed.config_eq]
      have hstalls := stalls_poll hidle hstate.within (available_wire clock x w) hready hchain'
      rw [if_neg (fun hboth ↦ Nat.ne_of_gt hboth.2 hempty)] at hstalls
      exact hstalls
    · intro hfilled
      obtain ⟨reading, hlast, hlate⟩ := h.dated.late_iff hfilled
      rw [hstate.placed.config_eq] at hlate
      exact ⟨reading, hlast,
        fun htime ↦ h.poll_in_time hready fun hlater ↦ (hlate _).mp hlater htime,
        fun htime ↦ h.poll_of_late hready hfilled ((hlate _).mpr htime)⟩

/-- The rest of a packet that was begun at time 100, at the deadline and just after it. -/
theorem stall_recovery_boundary :
    let env : Environment (Wire Millis) := Wire.environment (fun app ↦ (app, app)) .near
    let rest (now : Millis) : Program (Wire Millis) :=
      .outside (fun w ↦ { (Wire.pipe .near).modify (Pipe.feed [0, 0, 0, 0, 0]) w with app := now })
        fun _ ↦ .finish (.ok ())
    let w := (Wire.pipe .near).modify (Pipe.feed [0x23, 7, 1, 0, 0]) (.fresh (fun _ ↦ ⟨[], 1⟩) 100)
    ∃ e w', create env (.ofSizes 18 18) w = (.ok e, w') ∧
      let begun := (e.poll env 2 w').2
      let intime := ((rest 105).run env begun.1 begun.2).2
      let late := ((rest 106).run env begun.1 begun.2).2
      (intime.1.poll env 6 intime.2).1 = .done 1 ∧
        (intime.1.poll env 6 intime.2).2.1.counters.stalls = 0 ∧
        (late.1.poll env 6 late.2).2.1.counters.stalls = 1 := by
  intro env rest w
  let e : Endpoint (Wire Millis) := ofConfig (.ofSizes 18 18) 1
  let w' := (create env (.ofSizes 18 18) w).2
  have hcreated : create env (.ofSizes 18 18) w = (.ok e, w') := rfl
  refine ⟨e, w', hcreated, ?_⟩
  intro begun intime late
  have hbegun : Course env (.ofSizes 18 18) .reading [⟨2, e, w'⟩] begun.1 begun.2 :=
    .poll 2 (.created hcreated)
  have hintime : Course env (.ofSizes 18 18) .reading [⟨2, e, w'⟩] intime.1 intime.2 :=
    .run (rest 105) ⟨trivial, fun _ ↦ trivial⟩ hbegun
  have hlate : Course env (.ofSizes 18 18) .reading [⟨2, e, w'⟩] late.1 late.2 :=
    .run (rest 106) ⟨trivial, fun _ ↦ trivial⟩ hbegun
  have hreadings : ([⟨2, e, w'⟩].flatMap (Polled.readings env)).getLast? = some 100 := by
    decide +kernel
  have hnone : intime.1.counters.stalls = 0 ∧ late.1.counters.stalls = 0 := by decide +kernel
  have hattended : Attended (fun app ↦ (app, app)) .near (.ofSizes 18 18) [⟨2, e, w'⟩] 6
      intime.1 intime.2 := by
    have hnew : e.Within (Wire.listening Open .near) := within_ofConfig _ _ _
    have hstill (e : Endpoint (Wire Millis)) (w : Wire Millis)
        (h : e.Within (Wire.listening Open .near)) :
        ((rest 105).run env e w).2.1.Within (Wire.listening Open .near) := h
    exact ⟨hintime, hstill _ _ ((phased_true env _).poll 2 hnew trivial).2, by decide +kernel,
      by decide +kernel⟩
  have hscan : (Config.ofSizes 18 18).scan
      (intime.1.reception.held ++ (intime.2.toward .near).queue.octets) =
        ⟨[.frame ⟨.plain 7 1 0, []⟩], []⟩ := by
    have hnext : Scan.next? 10 .unchecked
        (intime.1.reception.held ++ (intime.2.toward .near).queue.octets) =
          some (.frame ⟨.plain 7 1 0, []⟩, []) := by decide +kernel
    have hlast : scan 10 .unchecked [] = ⟨[], []⟩ := Scan.scan_of_next?_none rfl
    rw [Config.scan]
    exact (Scan.scan_of_next?_some hnext).trans (by rw [hlast])
  have hsix (e : Endpoint (Wire Millis)) (w : Wire Millis) :
      e.poll (Wire.environment (fun app ↦ (app, app)) .near) (5 + 1) w = e.poll env 6 w := rfl
  obtain ⟨reading, hlast, hsoon, -⟩ :=
    (hintime.stall_recovery.2 (by decide +kernel) 5).2 (by decide +kernel)
  obtain rfl : reading = 100 := Option.some_inj.mp (hlast.symm.trans hreadings)
  obtain ⟨hkept, hscanned⟩ := (hsoon (by decide +kernel)).2 (by decide +kernel)
  have houtcome := (hscanned hattended).outcome
  obtain ⟨reading, hlast, -, hlater⟩ :=
    (hlate.stall_recovery.2 (by decide +kernel) 5).2 (by decide +kernel)
  obtain rfl : reading = 100 := Option.some_inj.mp (hlast.symm.trans hreadings)
  obtain ⟨hcounted, -⟩ := (hlater (by decide +kernel)).2 (by decide +kernel)
  rw [hsix, hscan] at houtcome
  rw [hsix, hnone.1] at hkept
  rw [hsix, hnone.2] at hcounted
  exact ⟨houtcome, hkept, hcounted⟩

end Wire

end Endpoint

end FramedLink
