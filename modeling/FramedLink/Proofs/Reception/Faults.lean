import FramedLink.Proofs.Handling.Beside
import FramedLink.Proofs.Handling.Poll
import FramedLink.Proofs.Reception.Octets

/-!
# Faults of a channel that lose nothing

A channel may be beset by faults: it answers as it likes how many octets are ready, and a read fails
before it has taken anything, or takes fewer octets than it could. While the clock stands still, an
endpoint that goes on polling comes through this unharmed. After every turn it stands where it would
without faults if the octets taken so far had come one after another, apart from its deadline
(`Attending.turn_beset`). So no failure costs anything of a partial packet, and once all octets are
taken everything is as it is after a single poll without faults (`faults_lose_nothing`).
-/

namespace FramedLink

variable {ω φ σ : Type}

/-- Faults to come, with a memory `φ` of their own. They may depend on everything. -/
structure Faults (ω φ : Type) where
  /-- What a question how many octets are ready is answered with, true or not. -/
  available : ω → φ → Except ChannelError Nat × φ
  /-- Whether a read into a buffer of a given size fails, or else how many octets it takes at
  most. -/
  read : Nat → ω → φ → Except ChannelError Nat × φ

/-- An environment whose channel is beset by faults. A read that fails takes nothing, and one that
does not reports what it takes. -/
def Environment.beset (env : Environment ω) (faults : Faults ω φ) : Environment (ω × φ) where
  channel :=
    { available := fun (w, f) ↦
        let (answer, f) := faults.available w f
        (answer, (w, f))
      read := fun size (w, f) ↦
        match faults.read size w f with
        | (.error error, f) => (⟨[], .error error⟩, (w, f))
        | (.ok most, f) =>
          let (reading, w) := env.channel.read (min most size) w
          (reading, (w, f))
      write := fun octets (w, f) ↦
        let (answer, w) := env.channel.write octets w
        (answer, (w, f)) }
  now := fun (w, f) ↦
    let (now, w) := env.now w
    (now, (w, f))
  ids := { get := fun (w, _) ↦ env.ids.get w, set := fun supply (w, f) ↦ (env.ids.set supply w, f) }
  note := fun event (w, f) ↦ (env.note event w, f)

def Faults.none (env : Environment ω) : Faults ω φ where
  available w f := ((env.channel.available w).1, f)
  read size _ f := (.ok size, f)

/-- Faults concern reading only. -/
theorem Environment.beside_beset (env : Environment ω) (faults : Faults ω φ) :
    env.Beside (env.beset faults) where
  now _ _ := rfl
  draw _ _ _ := rfl
  note _ _ _ := rfl
  write _ _ _ := rfl

/-- A wire without faults does what it does by itself. -/
theorem Wire.besideThroughout_beset (now : Millis) (x : End) :
    (Wire.still now x : Environment (Wire σ)).BesideThroughout
      ((Wire.still now x).beset (.none (Wire.still now x) : Faults (Wire σ) φ)) where
  toBeside := (Wire.still now x).beside_beset _
  available _ _ := rfl
  read size w f := by
    have hread : ((Wire.still now x).beset (.none (Wire.still now x))).channel.read size (w, f) =
        let (reading, w) := (Wire.still now x).channel.read (min size size) w
        (reading, (w, f)) := rfl
    rw [hread, Nat.min_self]

namespace Endpoint

/-- Polls again and again, whatever each poll comes to, with a bound on the turns of each: how the
polls ended, and what the endpoint and its surroundings are then. -/
def pollTimes (env : Environment ω) :
    List Nat → Endpoint ω → ω → List PollOutcome × Endpoint ω × ω
  | [], e, w => ([], e, w)
  | fuel :: rest, e, w =>
    let polled := e.poll env fuel w
    let later := pollTimes env rest polled.2.1 polled.2.2
    (polled.1 :: later.1, later.2)

def timed (e : Endpoint ω) (deadline : Option Millis) : Endpoint ω :=
  { e with reception := { e.reception with deadline } }

/-- A deadline that has not passed. -/
def Timely (now : Millis) (deadline : Option Millis) : Prop :=
  ∀ time, deadline = some time → now ≤ time

variable {now : Millis} {x : End} {config : Config} {octets taken : Bytes}
variable {e : Endpoint (Wire σ)} {w : Wire σ} {f : φ} {deadline : Option Millis}

theorem timely_after (now timeout : Millis) : Timely now (some (now.after timeout)) := by
  intro time htime
  cases htime
  exact InTime.le_after (Nat.le_add_right _ _)

/-! ## What faults leave unharmed -/

theorem within_absorbAll {c : Conduct (Wire σ)} (now : Millis) (x : End) (taken : Bytes)
    (h : e.Within c) (w : Wire σ) : (absorbAll now x taken (e, w)).1.Within c := by
  induction taken generalizing e w with
  | nil => exact h
  | cons octet taken ih =>
    have htaking : (e.taking now [octet]).Within c := h.of_tables rfl
    exact ih (within_advance e.reception.filled htaking (w.passed x 1)) _

/-- An end stands where a scan has come to, and its application leaves reading to it. -/
structure Attending (now : Millis) (x : End) (config : Config) (octets : Bytes)
    (e : Endpoint (Wire σ)) (w : Wire σ) : Prop where
  heard : HeardAt now x config octets e w
  sheltered : e.Within (Wire.listening Open x).sheltered

theorem Attending.absorbed (h : Attending now x config octets e w) {rest : Bytes}
    (hqueue : (w.toward x).queue.octets = taken ++ rest) :
    let absorbed := absorbAll now x taken (e, w)
    (absorbed.2.toward x).queue.octets = rest ∧
      Attending now x config (octets ++ taken) absorbed.1 absorbed.2 := by
  obtain ⟨hrest, hheard⟩ := h.heard.absorbed hqueue
  exact ⟨hrest, hheard, within_absorbAll now x taken h.sheltered w⟩

/-- A poll without faults takes all octets, whatever the deadline is, as long as it has not
passed. -/
theorem HeardAt.poll_timed (h : HeardAt now x config octets e w) (htimely : Timely now deadline)
    {fuel : Nat} (hfuel : (w.toward x).queue.octets.length < fuel) :
    ∃ packets deadline', (e.timed deadline).poll (Wire.still now x) fuel w =
      (.done packets, (absorbAll now x (w.toward x).queue.octets (e, w)).1.timed deadline',
        (absorbAll now x (w.toward x).queue.octets (e, w)).2) := by
  have hreceiving : (e.timed deadline).Receiving config :=
    ⟨h.receiving.config_eq, h.receiving.dispatching, h.receiving.sound.of_deadline deadline,
      h.receiving.wanted⟩
  obtain ⟨fuel, rfl⟩ := Nat.exists_eq_add_one_of_ne_zero (Nat.ne_zero_of_lt hfuel)
  have hready : (Wire.still now x).channel.available w = (.ok (w.toward x).available, w) := rfl
  rcases Nat.eq_zero_or_pos (w.toward x).available with hidle | hsome
  · have hempty : (w.toward x).queue.octets = [] :=
      ((w.toward x).available_eq_zero_iff.mp hidle).resolve_right h.cap
    rw [hidle] at hready
    rw [hempty, hreceiving.poll_eq, pollFrom, turn_of_not_ready hready]
    exact ⟨0, deadline, rfl⟩
  · have hnow : (Wire.still now x).now w = (now, w) := rfl
    have hsame : (e.timed deadline).turn (Wire.still now x) w = e.turn (Wire.still now x) w := by
      rw [hreceiving.turn_of_ready hready hsome hnow htimely,
        h.receiving.turn_of_ready hready hsome hnow h.le_deadline]
      rfl
    obtain ⟨packets, hpoll⟩ := h.poll_absorbed hfuel
    rw [h.receiving.poll_eq] at hpoll
    rw [hreceiving.poll_eq, pollFrom, hsame]
    exact ⟨packets, _, hpoll⟩

/-- An end beset by faults stands where it would without them if some of the octets toward it had
come one after another, apart from its deadline, which has not passed. -/
def Unharmed (now : Millis) (x : End) (start : Endpoint (Wire σ) × Wire σ)
    (state : Endpoint (Wire σ × φ) × (Wire σ × φ)) : Prop :=
  ∃ taken deadline f, taken <+: (start.2.toward x).queue.octets ∧ Timely now deadline ∧
    state = (((absorbAll now x taken start).1.timed deadline).beside φ,
      ((absorbAll now x taken start).2, f))

/-- An endpoint is ready to receive whatever its deadline is and whatever stands beside its
surroundings. -/
theorem Receiving.timed_beside {e : Endpoint ω} (h : e.Receiving config)
    (deadline : Option Millis) : ((e.timed deadline).beside φ).Receiving config where
  config_eq := h.config_eq
  dispatching := h.dispatching
  sound := h.sound.of_deadline deadline
  wanted := h.wanted

theorem unharmed_self (f : φ) (h : Timely now deadline) :
    Unharmed now x (e, w) ((e.timed deadline).beside φ, (w, f)) :=
  ⟨[], deadline, f, List.nil_prefix, h, rfl⟩

/-- Taking octets does no harm, and what does no harm then has done none. -/
theorem Attending.unharmed (h : Attending now x config octets e w)
    (hfront : taken <+: (w.toward x).queue.octets)
    {state : Endpoint (Wire σ × φ) × (Wire σ × φ)}
    (hstate : Unharmed now x (absorbAll now x taken (e, w)) state) :
    Unharmed now x (e, w) state := by
  obtain ⟨rest, hrest⟩ := hfront
  obtain ⟨hleft, -⟩ := h.absorbed hrest.symm
  obtain ⟨later, deadline, f, ⟨rest', hrest'⟩, htimely, rfl⟩ := hstate
  refine ⟨taken ++ later, deadline, f, ⟨rest', ?_⟩, htimely, ?_⟩
  · rw [List.append_assoc, hrest', hleft, hrest]
  · rw [absorbAll_append]

/-- A read beset by faults fails, or takes some octets off the front of the pipe. -/
theorem read_beset (faults : Faults (Wire σ) φ) (now : Millis) (x : End) (size : Nat) (w : Wire σ)
    (f : φ) :
    (∃ error f', ((Wire.still now x).beset faults).channel.read size (w, f) =
      (⟨[], .error error⟩, (w, f'))) ∨
    ∃ taken f', taken <+: (w.toward x).queue.octets ∧ taken.length ≤ size ∧
      ((Wire.still now x).beset faults).channel.read size (w, f) =
        (⟨taken, .ok taken.length⟩, (w.passed x taken.length, f')) := by
  unfold Environment.beset
  dsimp only
  rcases faults.read size w f with ⟨error | most, f'⟩
  · exact .inl ⟨error, f', rfl⟩
  · have hread := Wire.read_environment (fun app : σ ↦ (now, app)) x (min most size) w
    have hcapped := (w.toward x).capped_le (min most size)
    refine .inr ⟨_, f', List.take_prefix ((w.toward x).capped (min most size)) _, ?_, ?_⟩
    · rw [List.length_take]
      omega
    · exact congrArg (fun read : Reading × Wire σ ↦ (read.1, (read.2, f'))) hread

/-- A read beset by faults does no harm, and takes octets if it yields any. -/
theorem Attending.readPortion_beset (h : Attending now x config octets e w)
    (faults : Faults (Wire σ) φ) {size : Nat} (hsize : size ≤ e.reception.wanted) (f : φ) :
    let waiting := e.timed (some (now.after e.config.stallTimeout))
    let read := (waiting.beside φ).readPortion ((Wire.still now x).beset faults) size (w, f)
    Unharmed now x (e, w) read.2 ∧
      ∀ packets, read.1 = .received packets →
        (read.2.2.1.toward x).queue.octets.length < (w.toward x).queue.octets.length := by
  intro waiting
  have htimely : Timely now (some (now.after e.config.stallTimeout)) := timely_after now _
  have hslot : (waiting.beside φ).reception.region.checkSlot
      (waiting.beside φ).reception.filled size = .ok () := h.heard.receiving.checkSlot hsize
  rcases read_beset faults now x size w f with
    ⟨error, f', hread⟩ | ⟨taken, f', hfront, hlength, hread⟩
  · rw [readPortion_of_error hslot hread]
    exact ⟨unharmed_self f' htimely, fun _ h ↦ nomatch h⟩
  · by_cases hnone : taken = []
    · rw [hnone, List.length_nil, Wire.passed_zero] at hread
      rw [readPortion_of_none hslot hread]
      exact ⟨unharmed_self f' htimely, fun _ h ↦ nomatch h⟩
    · have hwithin : (e.taking now taken).Within (Wire.listening Open x).sheltered :=
        h.sheltered.of_tables rfl
      have habsorbed : ((e.taking now taken).advance (Wire.still now x) e.reception.filled
          (w.passed x taken.length)).2 = absorbAll now x taken (e, w) :=
        h.heard.receiving.absorb_taking hnone (Nat.le_trans hlength hsize) w
      have hstate : (((e.taking now taken).beside φ).advance ((Wire.still now x).beset faults)
          e.reception.filled (w.passed x taken.length, f')).2 =
          ((absorbAll now x taken (e, w)).1.beside φ, ((absorbAll now x taken (e, w)).2, f')) := by
        rw [advance_beside ((Wire.still now x).beside_beset faults) _ hwithin, ← habsorbed]
        rfl
      obtain ⟨rest, hrest⟩ := hfront
      obtain ⟨hleft, hlater⟩ := h.absorbed hrest.symm
      have hunharmed : Unharmed now x (e, w)
          ((absorbAll now x taken (e, w)).1.beside φ, ((absorbAll now x taken (e, w)).2, f')) :=
        h.unharmed ⟨rest, hrest⟩ (unharmed_self f' hlater.heard.le_deadline)
      have hless : ((absorbAll now x taken (e, w)).2.toward x).queue.octets.length <
          (w.toward x).queue.octets.length := by
        have hpositive := List.length_pos_iff.mpr hnone
        rw [hleft, ← hrest, List.length_append]
        omega
      rw [readPortion_of_some hslot hread hnone hlength]
      constructor
      · exact hstate ▸ hunharmed
      · intro packets _
        have hqueue := congrArg (fun state : Endpoint (Wire σ × φ) × (Wire σ × φ) ↦
          (state.2.1.toward x).queue.octets.length) hstate
        exact hqueue.trans_lt hless

/-- A turn beset by faults does no harm, and takes octets if it finds any. -/
theorem Attending.turn_beset (h : Attending now x config octets e w)
    (htimely : Timely now deadline) (faults : Faults (Wire σ) φ) (f : φ) :
    let turned := ((e.timed deadline).beside φ).turn ((Wire.still now x).beset faults) (w, f)
    Unharmed now x (e, w) turned.2 ∧
      ∀ packets, turned.1 = .received packets →
        (turned.2.2.1.toward x).queue.octets.length < (w.toward x).queue.octets.length := by
  have hready : ((Wire.still now x).beset faults).channel.available (w, f) =
      ((faults.available w f).1, (w, (faults.available w f).2)) := rfl
  rcases hanswer : faults.available w f with ⟨error | ready, f'⟩
  · rw [hanswer] at hready
    rw [turn_of_error hready]
    refine ⟨unharmed_self f' htimely, ?_⟩
    intro packets hreceived
    split at hreceived <;> cases hreceived
  · rw [hanswer] at hready
    rcases Nat.eq_zero_or_pos ready with hnone | hsome
    · rw [hnone] at hready
      rw [turn_of_not_ready hready]
      exact ⟨unharmed_self f' htimely, fun _ h ↦ nomatch h⟩
    · have hreceiving : ((e.timed deadline).beside φ).Receiving config :=
        h.heard.receiving.timed_beside deadline
      have hnow : ((Wire.still now x).beset faults).now (w, f') = (now, (w, f')) := rfl
      rw [hreceiving.turn_of_ready hready hsome hnow htimely]
      exact h.readPortion_beset faults (Reception.portion_le_wanted e.reception ready) f'

/-- A poll beset by faults ends, and does no harm. -/
theorem Attending.pollFrom_beset (h : Attending now x config octets e w)
    (htimely : Timely now deadline) (faults : Faults (Wire σ) φ) {fuel : Nat}
    (hfuel : (w.toward x).queue.octets.length < fuel) (packets : Nat) (f : φ) :
    let polled := pollFrom ((Wire.still now x).beset faults) fuel packets
      ((e.timed deadline).beside φ) (w, f)
    (∀ count, polled.1 ≠ .unfinished count) ∧ Unharmed now x (e, w) polled.2 := by
  induction fuel generalizing octets e w deadline packets f with
  | zero => omega
  | succ fuel ih =>
    obtain ⟨hunharmed, hless⟩ := h.turn_beset htimely faults f
    unfold pollFrom
    rcases hturn : ((e.timed deadline).beside φ).turn ((Wire.still now x).beset faults) (w, f) with
      ⟨outcome, e', w'⟩
    rw [hturn] at hunharmed hless
    cases outcome with
    | idle =>
      refine ⟨?_, hunharmed⟩
      intro count hcount
      cases hcount
    | closed =>
      refine ⟨?_, hunharmed⟩
      intro count hcount
      dsimp only at hcount
      split at hcount <;> cases hcount
    | failed error =>
      refine ⟨?_, hunharmed⟩
      intro count hcount
      cases hcount
    | received more =>
      -- the next turn starts from the stage at which this one has arrived
      obtain ⟨taken, deadline', f', hfront, htimely', hstate⟩ := hunharmed
      cases hstate
      have hroom := Nat.lt_of_lt_of_le (hless more rfl) (Nat.lt_succ_iff.mp hfuel)
      obtain ⟨rest, hrest⟩ := hfront
      obtain ⟨-, hlater⟩ := h.absorbed hrest.symm
      obtain ⟨hends, hunharmed'⟩ := ih hlater htimely' hroom (packets + more) f'
      exact ⟨hends, h.unharmed ⟨rest, hrest⟩ hunharmed'⟩

theorem Attending.poll_beset (h : Attending now x config octets e w)
    (htimely : Timely now deadline) (faults : Faults (Wire σ) φ) {fuel : Nat}
    (hfuel : (w.toward x).queue.octets.length < fuel) (f : φ) :
    let polled := ((e.timed deadline).beside φ).poll ((Wire.still now x).beset faults) fuel (w, f)
    (∀ count, polled.1 ≠ .unfinished count) ∧ Unharmed now x (e, w) polled.2 := by
  have hreceiving : ((e.timed deadline).beside φ).Receiving config :=
    h.heard.receiving.timed_beside deadline
  intro polled
  have hpolled : polled = _ := hreceiving.poll_eq fuel
  rw [hpolled]
  exact h.pollFrom_beset htimely faults hfuel 0 f

/-- Any number of polls beset by faults end, and do no harm. -/
theorem Attending.pollTimes_beset (h : Attending now x config octets e w)
    (htimely : Timely now deadline) (faults : Faults (Wire σ) φ) {fuels : List Nat}
    (hfuels : ∀ fuel ∈ fuels, (w.toward x).queue.octets.length < fuel) (f : φ) :
    let polled := pollTimes ((Wire.still now x).beset faults) fuels ((e.timed deadline).beside φ)
      (w, f)
    (∀ outcome ∈ polled.1, ∀ count, outcome ≠ .unfinished count) ∧
      Unharmed now x (e, w) polled.2 := by
  induction fuels generalizing octets e w deadline f with
  | nil => exact ⟨fun _ h ↦ (nomatch h), unharmed_self f htimely⟩
  | cons fuel fuels ih =>
    rw [List.forall_mem_cons] at hfuels
    obtain ⟨hends, hunharmed⟩ := h.poll_beset htimely faults hfuels.1 f
    unfold pollTimes
    rcases hpolled : ((e.timed deadline).beside φ).poll ((Wire.still now x).beset faults) fuel
      (w, f) with ⟨outcome, e', w'⟩
    rw [hpolled] at hends hunharmed
    obtain ⟨taken, deadline', f', ⟨rest, hrest⟩, htimely', hstate⟩ := hunharmed
    cases hstate
    obtain ⟨hleft, hlater⟩ := h.absorbed hrest.symm
    have hless : rest.length ≤ (w.toward x).queue.octets.length := by
      rw [← hrest, List.length_append]
      omega
    rw [← hleft] at hless
    obtain ⟨hends', hunharmed'⟩ := ih hlater htimely'
      (fun bound hmem ↦ Nat.lt_of_le_of_lt hless (hfuels.2 bound hmem)) f'
    exact ⟨List.forall_mem_cons.mpr ⟨hends, hends'⟩, h.unharmed ⟨rest, hrest⟩ hunharmed'⟩

/-- A poll beset by faults goes on from the partial packet held before it: with the octets it takes
off the pipe, it dispatches and keeps what a scan finds and leaves. -/
theorem Attending.poll_resumes (h : Attending now x config octets e w)
    (htimely : Timely now deadline) (faults : Faults (Wire σ) φ) {fuel : Nat}
    (hfuel : (w.toward x).queue.octets.length < fuel) (f : φ) :
    let polled := ((e.timed deadline).beside φ).poll ((Wire.still now x).beset faults) fuel (w, f)
    ∃ taken, (w.toward x).queue.octets = taken ++ (polled.2.2.1.toward x).queue.octets ∧
      let found := config.scan (e.reception.held ++ taken)
      polled.2.1.reception.held = found.rest ∧
        deliveries (polled.2.2.1.noted x) = deliveries (w.noted x) ++ found.frames := by
  intro polled
  obtain ⟨-, taken, deadline', f', ⟨rest, hrest⟩, -, hstate⟩ :=
    h.poll_beset htimely faults hfuel f
  have hstate : polled.2 = _ := hstate
  obtain ⟨hleft, -⟩ := h.absorbed hrest.symm
  refine ⟨taken, ?_, ?_⟩
  · rw [hstate, hleft, hrest]
  · rw [hstate]
    exact h.heard.scan_absorbed hrest.symm

/-- A poll once the faults are over takes all octets that are left. -/
theorem Attending.poll_recovers (h : Attending now x config octets e w)
    (htimely : Timely now deadline) {fuel : Nat}
    (hfuel : (w.toward x).queue.octets.length < fuel) (f : φ) :
    let absorbed := absorbAll now x (w.toward x).queue.octets (e, w)
    ∃ packets deadline', ((e.timed deadline).beside φ).poll
        ((Wire.still now x).beset (.none (Wire.still now x))) fuel (w, f) =
      (.done packets, (absorbed.1.timed deadline').beside φ, (absorbed.2, f)) := by
  have hwithin : (e.timed deadline).Within (Wire.listening Open x).sheltered :=
    h.sheltered.of_tables rfl
  obtain ⟨packets, deadline', hpolled⟩ := h.heard.poll_timed htimely hfuel
  refine ⟨packets, deadline', ?_⟩
  rw [poll_beside (Wire.besideThroughout_beset now x) fuel hwithin w f, hpolled]
  rfl

/-- An end beset by faults has come to what it comes to without them: its surroundings, with all
that was dispatched and sent, all its counters, and the octets held. -/
structure Matches (state : Endpoint (Wire σ × φ) × (Wire σ × φ))
    (sound : Endpoint (Wire σ) × Wire σ) : Prop where
  surroundings : state.2.1 = sound.2
  counters : state.1.counters = sound.1.counters
  held : state.1.reception.held = sound.1.reception.held

/-- An unharmed end that has taken all octets has come to what it comes to without faults. -/
theorem Attending.matches_of_drained (h : Attending now x config octets e w)
    {state : Endpoint (Wire σ × φ) × (Wire σ × φ)} (hstate : Unharmed now x (e, w) state)
    (hdrained : (state.2.1.toward x).queue.octets = []) :
    Matches state (absorbAll now x (w.toward x).queue.octets (e, w)) := by
  obtain ⟨taken, deadline, f, ⟨rest, hrest⟩, -, rfl⟩ := hstate
  obtain ⟨hleft, -⟩ := h.absorbed hrest.symm
  have hnone : rest = [] := hleft.symm.trans hdrained
  have hall : taken = (w.toward x).queue.octets := by
    rw [← hrest, hnone, List.append_nil]
  rw [← hall]
  exact ⟨rfl, rfl, rfl⟩

/-- Faults of a channel that cost no octets lose nothing while the clock stands still, however often
a question or a read fails, whatever is answered and however little is read. Every poll ends; no
packet stalls; and each poll, failed or not, goes on from the partial packet held before it, so that
with the octets it takes off the pipe it dispatches and keeps what a scan finds and leaves. Once all
octets are taken, everything is as it is after a single poll without faults; and one poll after the
faults are over is enough for that. -/
theorem faults_lose_nothing {arrival : Arrival} {fuel : Nat} {fuels : List Nat}
    (hunused : e.Unused x config w) (hsheltered : e.Within (Wire.listening Open x).sheltered)
    (hcap : Open arrival.cap) (faults : Faults (Wire σ) φ) (f : φ)
    (hfuel : arrival.octets.length < fuel)
    (hfuels : ∀ bound ∈ fuels, arrival.octets.length < bound) :
    let env := (Wire.still now x).beset faults
    let sound := e.poll (Wire.still now x) fuel (w.arrive x arrival)
    let beset := pollTimes env fuels (e.beside φ) (w.arrive x arrival, f)
    let next := beset.2.1.poll env fuel beset.2.2
    let last := beset.2.1.poll ((Wire.still now x).beset (.none (Wire.still now x))) fuel beset.2.2
    (∃ packets, sound.1 = .done packets) ∧ (sound.2.2.toward x).queue.octets = [] ∧
      (∀ outcome ∈ beset.1, ∀ packets, outcome ≠ .unfinished packets) ∧
      beset.2.1.counters.stalls = 0 ∧
      (∃ taken, (beset.2.2.1.toward x).queue.octets =
          taken ++ (next.2.2.1.toward x).queue.octets ∧
        let found := config.scan (beset.2.1.reception.held ++ taken)
        next.2.1.reception.held = found.rest ∧
          deliveries (next.2.2.1.noted x) = deliveries (beset.2.2.1.noted x) ++ found.frames) ∧
      ((beset.2.2.1.toward x).queue.octets = [] → Matches beset.2 sound.2) ∧
      (∃ packets, last.1 = .done packets) ∧ Matches last.2 sound.2 := by
  intro env sound beset next last
  have hqueue := hunused.octets_arrive arrival
  have hattending : Attending now x config [] e (w.arrive x arrival) :=
    ⟨⟨none, fun _ h ↦ (nomatch h), hunused.heard.arrive hcap⟩, hsheltered⟩
  rw [← hqueue] at hfuel hfuels
  obtain ⟨packets, hsound⟩ := hattending.heard.poll_absorbed hfuel
  have hsound' : sound.2 = absorbAll now x ((w.arrive x arrival).toward x).queue.octets
      (e, w.arrive x arrival) := congrArg Prod.snd hsound
  obtain ⟨hdrained, -⟩ := hattending.absorbed (List.append_nil _).symm
  obtain ⟨hends, hunharmed⟩ :=
    hattending.pollTimes_beset hattending.heard.le_deadline faults hfuels f
  have ⟨taken, deadline, f₁, ⟨rest, hrest⟩, htimely, hbeset⟩ := hunharmed
  -- the polls have come to a stage from which the next one goes on, with faults or without
  obtain ⟨hleft, hlater⟩ := hattending.absorbed hrest.symm
  let stage := absorbAll now x taken (e, w.arrive x arrival)
  have hbeset : beset.2 = ((stage.1.timed deadline).beside φ, (stage.2, f₁)) := hbeset
  have hpolled (env : Environment (Wire σ × φ)) : beset.2.1.poll env fuel beset.2.2 =
      ((stage.1.timed deadline).beside φ).poll env fuel (stage.2, f₁) :=
    congrArg (fun state : Endpoint (Wire σ × φ) × (Wire σ × φ) ↦
      state.1.poll env fuel state.2) hbeset
  have hroom : (stage.2.toward x).queue.octets.length < fuel := by
    rw [← hrest, List.length_append] at hfuel
    rw [hleft]
    omega
  have hend : absorbAll now x (stage.2.toward x).queue.octets stage = sound.2 := by
    rw [hleft, hsound', ← hrest, absorbAll_append]
  obtain ⟨more, deadline', hlast⟩ := hlater.poll_recovers htimely hroom f₁
  have hlast : last = (.done more, (sound.2.1.timed deadline').beside φ, (sound.2.2, f₁)) := by
    rw [← hend]
    exact (hpolled _).trans hlast
  refine ⟨⟨packets, congrArg Prod.fst hsound⟩, ?_, hends, ?_, ?_, ?_,
    ⟨more, congrArg Prod.fst hlast⟩, ?_⟩
  · rw [hsound']
    exact hdrained
  · rw [hbeset]
    exact hlater.heard.stalls
  · have hnext : next = _ := hpolled env
    rw [hnext, hbeset]
    exact hlater.poll_resumes htimely faults hroom f₁
  · rw [hsound']
    exact hattending.matches_of_drained hunharmed
  · rw [hlast]
    exact ⟨rfl, rfl, rfl⟩

/-- A frame that comes through a channel that is interrupted now and then, hands out two octets at a
time, and boasts of more than there is. -/
theorem faults_lose_nothing_interrupted :
    let interruption : ChannelError := .device (.ofKind .interrupted)
    let faults : Faults (Wire Unit) Nat :=
      { available := fun _ calls ↦
          (if calls % 3 = 1 then .error interruption else .ok 40, calls + 1)
        read := fun _ _ calls ↦
          (if calls % 4 = 2 then .error interruption else .ok 2, calls + 1) }
    let arrival : Arrival := ⟨[0x23, 7, 1, 0, 0, 0, 0, 0, 0, 0], none⟩
    let e : Endpoint (Wire Unit) := .ofConfig (.ofSizes 18 18) 7
    let w : Wire Unit := .fresh (fun _ ↦ ⟨[], 1⟩) ()
    let env := (Wire.still 0 .near).beset faults
    let sound := e.poll (Wire.still 0 .near) 11 (w.arrive .near arrival)
    let beset := pollTimes env (List.replicate 6 11) (e.beside Nat) (w.arrive .near arrival, 0)
    (beset.2.2.1.toward .near).queue.octets = [] ∧ beset.2.2.1 = sound.2.2 ∧
      beset.2.1.counters = sound.2.1.counters ∧
      deliveries (beset.2.2.1.noted .near) = [⟨.plain 7 1 0, []⟩] := by
  intro interruption faults arrival e w env sound beset
  have hdrained : (beset.2.2.1.toward .near).queue.octets = [] := by decide +kernel
  have hdelivered : deliveries (beset.2.2.1.noted .near) = [⟨.plain 7 1 0, []⟩] := by
    decide +kernel
  have hunused : e.Unused .near (.ofSizes 18 18) w := unused_ofConfig rfl 7 _ ()
  have hlost :=
    @faults_lose_nothing Nat Unit 0 .near (.ofSizes 18 18) e w arrival 11 (List.replicate 6 11)
      hunused (within_ofConfig _ _ _) (by decide) faults 0 (by decide) (by decide)
  extract_lets next last at hlost
  obtain ⟨-, -, -, -, -, hsame, -⟩ := hlost
  obtain ⟨hsurroundings, hcounters, -⟩ := hsame hdrained
  exact ⟨hdrained, hsurroundings, hcounters, hdelivered⟩

end Endpoint

end FramedLink
