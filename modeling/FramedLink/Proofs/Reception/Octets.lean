import FramedLink.Proofs.Reception.Arrivals

/-!
# Receiving octet by octet

While the clock stands still, it makes no difference how the octets toward an end are shared out
among turns. To take up several at once, as far as they are wanted, comes to taking up one after
another, since nothing is judged before the last of them (`Receiving.absorb_taking`). A poll
therefore leaves the endpoint and its surroundings exactly as if every octet had come in a turn of
its own (`HeardAt.poll_absorbed`).
-/

namespace FramedLink

namespace Wire

variable {σ : Type}

/-- The openings of an end whose clock stands still. -/
abbrev still (now : Millis) (x : End) : Environment (Wire σ) :=
  environment (fun app ↦ (now, app)) x

theorem passed_passed (x : End) (count more : Nat) (w : Wire σ) :
    (w.passed x count).passed x more = w.passed x (count + more) := by
  have hqueue : (((w.toward x).queue.pop count).2.pop more).2 =
      ((w.toward x).queue.pop (count + more)).2 := by
    apply ByteQueue.ext
    rw [ByteQueue.octets_pop_snd, ByteQueue.octets_pop_snd, ByteQueue.octets_pop_snd,
      List.drop_drop]
  have hupdate (pipe : Pipe) :
      (Wire.pipe x).set pipe (w.passed x count) = (Wire.pipe x).set pipe w :=
    congrArg (fun toward ↦ ({ w with toward } : Wire σ)) (Function.update_idem ..)
  rw [passed, hupdate, toward_passed, hqueue, passed]

theorem passed_zero (x : End) (w : Wire σ) : w.passed x 0 = w := by
  have hqueue : ((w.toward x).queue.pop 0).2 = (w.toward x).queue := ByteQueue.ext rfl
  have hpipe : Function.update w.toward x { w.toward x with queue := (w.toward x).queue } =
      w.toward := Function.update_eq_self ..
  rw [passed, hqueue]
  exact congrArg (fun toward ↦ ({ w with toward } : Wire σ)) hpipe

end Wire

namespace Endpoint

variable {ω σ : Type} {env : Environment ω} {config : Config} {now : Millis} {x : End}

section Taking

variable {e : Endpoint ω} {octets more : Bytes}

theorem taking_append (e : Endpoint ω) (now : Millis) (octets more : Bytes) :
    (e.taking now octets).taking now more = e.taking now (octets ++ more) := by
  unfold taking Station.extendDeadline Station.collect Incoming.store
  dsimp only
  rw [Region.overwrite_append, List.length_append, Nat.add_assoc]

theorem wanted_taking (e : Endpoint ω) (now : Millis) (octets : Bytes) :
    (e.taking now octets).reception.wanted = e.reception.wanted - octets.length :=
  (Nat.sub_sub ..).symm

/-- An endpoint that wants more than it takes up goes on receiving. -/
theorem Receiving.taking (h : e.Receiving config) (now : Millis)
    (hmore : octets.length < e.reception.wanted) : (e.taking now octets).Receiving config where
  config_eq := h.config_eq
  dispatching := h.dispatching
  sound := (h.sound_taking now (Nat.le_of_lt hmore)).1
  wanted := by
    rw [wanted_taking]
    omega

/-- Where more is wanted than was taken up, nothing is judged. -/
theorem Receiving.advance_taking (h : e.Receiving config) (now : Millis)
    (hmore : octets.length < e.reception.wanted) (w : ω) :
    (e.taking now octets).advance env e.reception.filled w = (0, e.taking now octets, w) := by
  have hstage := h.sound.filled_lt_header_iff h.wanted
  have hfilled : (e.taking now octets).reception.filled =
      e.reception.filled + octets.length := rfl
  have hpacket : (e.taking now octets).reception.packetSize = e.reception.packetSize := rfl
  unfold Reception.wanted at hmore
  have hheader : ¬ (e.reception.filled < headerSize ∧
      headerSize ≤ (e.taking now octets).reception.filled) := by
    rintro ⟨hbefore, hafter⟩
    rw [if_neg (by rw [hstage.mp hbefore]; exact Nat.lt_irrefl 0)] at hmore
    omega
  have hcomplete : ¬ (0 < (e.taking now octets).reception.packetSize ∧
      (e.taking now octets).reception.packetSize ≤ (e.taking now octets).reception.filled) := by
    rintro ⟨hsome, hwhole⟩
    rw [hpacket] at hsome hwhole
    rw [if_pos hsome] at hmore
    omega
  unfold advance
  rw [if_neg hheader]
  exact if_neg hcomplete

/-- Whether a header was held before does not change while more is wanted. -/
theorem Receiving.advance_before (h : e.Receiving config)
    (hmore : octets.length < e.reception.wanted) (e' : Endpoint ω) (w : ω) :
    e'.advance env (e.reception.filled + octets.length) w =
      e'.advance env e.reception.filled w := by
  have hstage := h.sound.filled_lt_header_iff h.wanted
  have hsame : e.reception.filled + octets.length < headerSize ↔
      e.reception.filled < headerSize := by
    unfold Reception.wanted at hmore
    constructor
    · omega
    · intro hbefore
      rw [if_neg (by rw [hstage.mp hbefore]; exact Nat.lt_irrefl 0)] at hmore
      omega
  unfold advance
  simp only [hsame]

end Taking

/-- What becomes of an end that takes the first octet off its pipe. -/
def absorb (now : Millis) (x : End) (state : Endpoint (Wire σ) × Wire σ) (octet : UInt8) :
    Endpoint (Wire σ) × Wire σ :=
  ((state.1.taking now [octet]).advance (Wire.still now x) state.1.reception.filled
    (state.2.passed x 1)).2

def absorbAll (now : Millis) (x : End) (octets : Bytes) (state : Endpoint (Wire σ) × Wire σ) :
    Endpoint (Wire σ) × Wire σ :=
  octets.foldl (absorb now x) state

theorem absorbAll_append (now : Millis) (x : End) (octets more : Bytes)
    (state : Endpoint (Wire σ) × Wire σ) :
    absorbAll now x (octets ++ more) state = absorbAll now x more (absorbAll now x octets state) :=
  List.foldl_append

variable {e : Endpoint (Wire σ)} {w : Wire σ} {octets taken rest : Bytes}
variable {last : Option Millis} {octet : UInt8}

/-- To take up at once what is wanted comes to taking up one octet after another. -/
theorem Receiving.absorb_taking (h : e.Receiving config) (htaken : taken ≠ [])
    (hwanted : taken.length ≤ e.reception.wanted) (w : Wire σ) :
    ((e.taking now taken).advance (Wire.still now x) e.reception.filled
      (w.passed x taken.length)).2 = absorbAll now x taken (e, w) := by
  induction taken generalizing e w with
  | nil => exact absurd rfl htaken
  | cons octet taken ih =>
    by_cases hlast : taken = []
    · rw [hlast]
      rfl
    · have hpositive := List.length_pos_iff.mpr hlast
      rw [List.length_cons] at hwanted
      have hmore : [octet].length < e.reception.wanted := by
        rw [List.length_singleton]
        omega
      have hfirst : absorb now x (e, w) octet = (e.taking now [octet], w.passed x 1) :=
        congrArg Prod.snd (h.advance_taking now hmore (w.passed x 1))
      have hlater := ih (h.taking now hmore) hlast
        (by rw [wanted_taking, List.length_singleton]; omega) (w.passed x 1)
      calc
        ((e.taking now (octet :: taken)).advance (Wire.still now x) e.reception.filled
            (w.passed x (octet :: taken).length)).2 =
            (((e.taking now [octet]).taking now taken).advance (Wire.still now x)
              (e.reception.filled + [octet].length)
              ((w.passed x 1).passed x taken.length)).2 := by
          rw [taking_append, h.advance_before hmore, Wire.passed_passed, List.length_cons,
            Nat.add_comm 1]
          rfl
        _ = absorbAll now x taken (e.taking now [octet], w.passed x 1) := hlater
        _ = absorbAll now x (octet :: taken) (e, w) := by
          rw [← hfirst]
          rfl

/-- One octet carries the scan on. -/
theorem Heard.absorbed (h : Heard x config octets last e w)
    (hqueue : (w.toward x).queue.octets = octet :: rest) :
    let absorbed := absorb now x (e, w) octet
    (absorbed.2.toward x).queue.octets = rest ∧
      Heard x config (octets ++ [octet]) (some now) absorbed.1 absorbed.2 := by
  have hdrained : Wire.Drained (fun app : σ ↦ (now, app)) x [octet] w (w.passed x 1) :=
    Wire.drained_passed _ ⟨rest, hqueue.symm⟩
  have hwanted : [octet].length ≤ e.reception.wanted := h.receiving.wanted
  obtain ⟨hleft, -, hhearing⟩ :=
    h.hearing.resolved hdrained (h.receiving.advance_resolved now hwanted _)
  refine ⟨hleft.trans ?_, heard_iff_hearing.mpr hhearing⟩
  rw [Wire.octets_passed, hqueue, List.drop_succ_cons, List.drop_zero]

/-- An endpoint that stands where a scan has come to, and whose clock has stood still. -/
def HeardAt (now : Millis) (x : End) (config : Config) (octets : Bytes) (e : Endpoint (Wire σ))
    (w : Wire σ) : Prop :=
  ∃ last, (∀ reading ∈ last, reading = now) ∧ Heard x config octets last e w

theorem HeardAt.receiving (h : HeardAt now x config octets e w) : e.Receiving config := by
  obtain ⟨_, -, hheard⟩ := h
  exact hheard.receiving

theorem HeardAt.cap (h : HeardAt now x config octets e w) : Open (w.toward x).cap := by
  obtain ⟨_, -, hheard⟩ := h
  exact hheard.cap

/-- A partial packet is never late. -/
theorem HeardAt.le_deadline (h : HeardAt now x config octets e w) :
    ∀ time, e.reception.deadline = some time → now ≤ time := by
  obtain ⟨last, hlast, hheard⟩ := h
  apply hheard.hearing.le_deadline
  intro reading hmem
  rw [hlast reading hmem]
  exact Nat.le_add_right _ _

/-- Octets carry the scan on one after another. -/
theorem HeardAt.absorbed (h : HeardAt now x config octets e w)
    (hqueue : (w.toward x).queue.octets = taken ++ rest) :
    let absorbed := absorbAll now x taken (e, w)
    (absorbed.2.toward x).queue.octets = rest ∧
      HeardAt now x config (octets ++ taken) absorbed.1 absorbed.2 := by
  induction taken generalizing octets e w with
  | nil => exact ⟨hqueue, by rwa [List.append_nil]⟩
  | cons octet taken ih =>
    obtain ⟨last, hlast, hheard⟩ := h
    obtain ⟨hleft, hkept⟩ := hheard.absorbed hqueue
    have hstill : HeardAt now x config (octets ++ [octet]) (absorb now x (e, w) octet).1
        (absorb now x (e, w) octet).2 :=
      ⟨some now, fun _ hmem ↦ (Option.mem_some_iff.mp hmem).symm, hkept⟩
    obtain ⟨hrest, hall⟩ := ih hstill hleft
    rw [List.append_assoc] at hall
    exact ⟨hrest, hall⟩

/-- What is dispatched for octets, and what is held when they are taken, is found in those held
before and these. -/
theorem HeardAt.scan_absorbed (h : HeardAt now x config octets e w)
    (hqueue : (w.toward x).queue.octets = taken ++ rest) :
    let absorbed := absorbAll now x taken (e, w)
    let found := config.scan (e.reception.held ++ taken)
    absorbed.1.reception.held = found.rest ∧
      deliveries (absorbed.2.noted x) = deliveries (w.noted x) ++ found.frames := by
  obtain ⟨-, _, -, hlater⟩ := h.absorbed hqueue
  obtain ⟨_, -, hheard⟩ := h
  have hheld : (config.scan (octets ++ taken)).rest =
      (config.scan (e.reception.held ++ taken)).rest := by
    rw [hheard.hearing.scan_append]
  have hframes : (config.scan (octets ++ taken)).frames =
      deliveries (w.noted x) ++ (config.scan (e.reception.held ++ taken)).frames := by
    rw [hheard.hearing.scan_append, Scan.frames_append, hheard.delivered]
    rfl
  exact ⟨hlater.held.trans hheld, hlater.delivered.trans hframes⟩

theorem HeardAt.stalls (h : HeardAt now x config octets e w) : e.counters.stalls = 0 := by
  obtain ⟨_, -, hheard⟩ := h
  have hcounts := hheard.counts
  simp only [Counters.refusals, Prod.mk.injEq] at hcounts
  exact hcounts.2.2.2

/-- A turn that finds octets takes some of them. -/
theorem HeardAt.turn_absorbed (h : HeardAt now x config octets e w)
    (hready : (w.toward x).available ≠ 0) :
    ∃ packets taken, taken ≠ [] ∧ taken <+: (w.toward x).queue.octets ∧
      e.turn (Wire.still now x) w = (.received packets, absorbAll now x taken (e, w)) := by
  have htime : ∀ time, e.reception.deadline = some time →
      ((fun app : σ ↦ (now, app)) w.app).1 ≤ time := h.le_deadline
  obtain ⟨taken, hsome, hwanted, hfront, hturn⟩ := h.receiving.turn_passed hready htime
  let advanced := (e.taking now taken).advance (Wire.still now x) e.reception.filled
    (w.passed x taken.length)
  have habsorbed : advanced.2 = absorbAll now x taken (e, w) :=
    h.receiving.absorb_taking hsome hwanted w
  exact ⟨advanced.1, taken, hsome, hfront, habsorbed ▸ hturn⟩

/-- A poll leaves an endpoint and its surroundings as if each octet had come in a turn of its
own. -/
theorem HeardAt.poll_absorbed (h : HeardAt now x config octets e w) {fuel : Nat}
    (hfuel : (w.toward x).queue.octets.length < fuel) :
    ∃ packets, e.poll (Wire.still now x) fuel w =
      (.done packets, absorbAll now x (w.toward x).queue.octets (e, w)) := by
  -- after any number of turns, some octets have been taken one after another
  let I (_ _ : Nat) (e' : Endpoint (Wire σ)) (w' : Wire σ) : Prop :=
    ∃ taken, taken ++ (w'.toward x).queue.octets = (w.toward x).queue.octets ∧
      absorbAll now x taken (e, w) = (e', w')
  have hturn {fuel packets : Nat} {e₁ : Endpoint (Wire σ)} {w₁ : Wire σ}
      (hready : (w₁.toward x).available ≠ 0) (hI : I (fuel + 1) packets e₁ w₁) :
      ∃ result : Nat × Endpoint (Wire σ) × Wire σ,
        e₁.turn (Wire.still now x) w₁ = (.received result.1, result.2) ∧
        (result.2.2.toward x).queue.octets.length < (w₁.toward x).queue.octets.length ∧
        I fuel (packets + result.1) result.2.1 result.2.2 := by
    obtain ⟨taken, htaken, habsorbed⟩ := hI
    obtain ⟨-, hstill⟩ := h.absorbed htaken.symm
    rw [habsorbed] at hstill
    obtain ⟨more, later, hlater, ⟨rest, hrest⟩, hturn⟩ := hstill.turn_absorbed hready
    obtain ⟨hleft, -⟩ := hstill.absorbed hrest.symm
    refine ⟨(more, absorbAll now x later (e₁, w₁)), hturn, ?_, taken ++ later, ?_, ?_⟩
    · rw [hleft, ← hrest, List.length_append]
      have hpositive := List.length_pos_iff.mpr hlater
      omega
    · rw [hleft, List.append_assoc, hrest, htaken]
    · rw [absorbAll_append, habsorbed]
  have hstart : I fuel 0 e w := ⟨[], rfl, rfl⟩
  obtain ⟨_, packets, e', w', hpoll, hidle, taken, htaken, habsorbed⟩ :=
    h.receiving.poll_wire hturn hfuel hstart
  obtain ⟨-, hstill⟩ := h.absorbed htaken.symm
  rw [habsorbed] at hstill
  have hempty : (w'.toward x).queue.octets = [] :=
    ((w'.toward x).available_eq_zero_iff.mp hidle).resolve_right hstill.cap
  rw [hempty, List.append_nil] at htaken
  rw [← htaken, habsorbed]
  exact ⟨packets, hpoll⟩

end Endpoint

end FramedLink
