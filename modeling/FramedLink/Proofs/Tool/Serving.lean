import FramedLink.Proofs.Handling.Reading
import FramedLink.Proofs.Handling.Undisturbed
import FramedLink.Proofs.Reception.Arrivals
import FramedLink.Proofs.Reception.Stages
import FramedLink.Proofs.Tool.Ports

/-!
# Receiving through a port

An endpoint that polls a port takes in all that is left there, and what it makes of this is the scan
of these octets, one finding after another. What is of interest about a run is told by an invariant
of the findings so far, what was written, the journal and the endpoint; it has to survive what
receiving does by itself, and each dispatch (`Endpoint.Sustained`). It then holds of all findings
when the poll is over (`Endpoint.Serving.poll`).

The readings of the clock in the turns of the poll have to be in time of each other, so that no
packet is ever late. Where the clock is known to show certain times only, it is enough that those
are.
-/

namespace FramedLink

/-- How a poll ends that leaves nothing and dispatched some packets. -/
def Port.outcome {σ ι : Type} (port : Port σ ι) (packets : Nat) : PollOutcome :=
  if port.closes ∧ packets = 0 then .failed (.channel .closed) else .done packets

/-- A payload that was opened is shown to readers from its beginning. -/
theorem Incoming.shows_opened {inc : Incoming} (h : headerSize ≤ inc.capacity) (size : Nat) :
    (inc.openPayload size).Shows (inc.openPayload size).payload 0 where
  payload_eq := rfl
  limit := by
    have hbounds : headerSize ≤ (inc.openPayload size).limit ∧
        (inc.openPayload size).limit ≤ inc.capacity := by
      dsimp only [openPayload]
      omega
    rw [payload, Region.length_slice, openPayload]
    unfold capacity at hbounds
    dsimp only [openPayload, capacity] at hbounds ⊢
    omega
  cursor := rfl
  position_le := Nat.zero_le _

/-- A clock of which any two readings are in time of each other. -/
def Punctual (timeout : Millis) (times : Millis → Prop) : Prop :=
  ∀ earlier later, times earlier → times later → Endpoint.InTime timeout earlier later

theorem punctual_eq (timeout time : Millis) : Punctual timeout (· = time) := by
  rintro _ _ rfl rfl
  exact Nat.le_add_right _ _

namespace Endpoint

variable {σ ι : Type} {port : Port σ ι} {config : Config} {times : Millis → Prop}
variable {J : List Finding → Bytes → List ι → Endpoint (Bench σ ι) → Prop}
variable {e : Endpoint (Bench σ ι)} {w w₁ : Bench σ ι} {all taken octets : Bytes}
variable {others : List Bytes} {now : Millis}

/-- What an invariant has to survive while `all` octets are received through a port. It is told the
findings so far, what was written, the journal and the endpoint. -/
structure Sustained (port : Port σ ι) (config : Config) (times : Millis → Prop) (all : Bytes)
    (J : List Finding → Bytes → List ι → Endpoint (Bench σ ι) → Prop) : Prop where
  /-- Receiving concerns the reception and the writing cursor. -/
  aside {found : List Finding} {written : Bytes} {journal : List ι} {e : Endpoint (Bench σ ι)}
    (s : Station) : J found written journal e → s.config = e.config → s.link = e.link →
    s.counters = e.counters → s.outgoing.region = e.outgoing.region →
    J found written journal { e with toStation := s }
  /-- What is refused is counted. -/
  refused {found more : List Finding} {written : Bytes} {journal : List ι}
    {e : Endpoint (Bench σ ι)} : J found written journal e →
    more.filterMap Finding.frame? = [] →
    J (found ++ more) written journal { e with counters := e.counters.tally more }
  /-- Frames are dispatched. -/
  deliver {found : List Finding} (traffic : Traffic) {header : Header}
    {e : Endpoint (Bench σ ι)} {w : Bench σ ι} :
    let frame : Frame := ⟨header, e.reception.region.payload⟩
    let handled := e.dispatch port.environment header w
    J found traffic.written w.journal e →
    found ++ [.frame frame] <+: (config.scan all).findings →
    frame.payload.length = header.payloadSize → e.reception.region.Shows frame.payload 0 →
    port.AtHand traffic w.lines → w.Shows times →
    ∃ written, port.AtHand { traffic with written } handled.2.lines ∧ handled.2.Shows times ∧
      J (found ++ [.frame frame]) written handled.2.journal handled.1

/-- An endpoint has taken some of all octets from a port, and stands where their scan has come
to. -/
structure Serving (lines : Traffic → Lines σ → Prop) (config : Config)
    (times paced : Millis → Prop) (J : List Finding → Bytes → List ι → Endpoint (Bench σ ι) → Prop)
    (all : Bytes) (others : List Bytes) (taken : Bytes) (e : Endpoint (Bench σ ι))
    (w : Bench σ ι) : Prop where
  receiving : e.Receiving config
  within : e.Within .free
  held : e.reception.held = (config.scan taken).rest
  deadline {time : Millis} : e.reception.deadline = some time →
    ∃ reading, paced reading ∧ time = reading.after config.stallTimeout
  shows : w.Shows times
  kept : ∃ traffic, lines traffic w.lines ∧ taken ++ traffic.left = all ∧
    traffic.others = others ∧ J (config.scan taken).findings traffic.written w.journal e

/-- The clock is read in a turn that finds octets. -/
theorem mem_turnReadings {ω : Type} {env : Environment ω} {e : Endpoint ω} {w found : ω}
    {ready : Nat} (havailable : env.channel.available w = (.ok ready, found)) (hready : 0 < ready)
    (fuel : Nat) : (env.now found).1 ∈ e.turnReadings env (fuel + 1) w := by
  obtain ⟨ready, rfl⟩ := Nat.exists_eq_succ_of_ne_zero (Nat.ne_of_gt hready)
  rw [turnReadings, havailable]
  exact List.mem_cons_self

/-- The readings of a turn that receives octets, and of those after it. -/
theorem turnReadings_received {ω : Type} {env : Environment ω} {e e' : Endpoint ω} {w w' found : ω}
    {ready packets : Nat} (havailable : env.channel.available w = (.ok ready, found))
    (hready : 0 < ready) (hturn : e.turn env w = (.received packets, e', w')) (fuel : Nat) :
    e.turnReadings env (fuel + 1) w = (env.now found).1 :: e'.turnReadings env fuel w' := by
  obtain ⟨ready, rfl⟩ := Nat.exists_eq_succ_of_ne_zero (Nat.ne_of_gt hready)
  simp only [turnReadings, havailable, hturn]

/-- The octets that a turn takes, the bench afterwards, and what is left then. -/
structure Taking (port : Port σ ι) (e : Endpoint (Bench σ ι)) (traffic : Traffic)
    (times paced : Millis → Prop) (octets : Bytes) (now : Millis) (w w₁ : Bench σ ι) : Prop where
  some : octets ≠ []
  wanted : octets.length ≤ e.reception.wanted
  left : traffic.left = octets ++ traffic.left.drop octets.length
  time : paced now
  atHand : port.AtHand { traffic with left := traffic.left.drop octets.length } w₁.lines
  journal : w₁.journal = w.journal
  shows : w₁.Shows times

/-- A turn that finds octets in time takes some of them up and judges them. -/
theorem Receiving.turn_port (h : e.Receiving config) {traffic : Traffic}
    (hsound : port.Sound traffic w.lines) (hsome : traffic.left ≠ []) (hshows : w.Shows times)
    {fuel : Nat}
    (hpaced : ∀ reading ∈ e.turnReadings port.environment (fuel + 1) w,
      times reading → paced reading)
    (htime : ∀ now, paced now → ∀ time, e.reception.deadline = some time → now ≤ time) :
    ∃ octets now w₁, Taking port e traffic times paced octets now w w₁ ∧
      let advanced := (e.taking now octets).advance port.environment e.reception.filled w₁
      e.turn port.environment w = (.received advanced.1, advanced.2) ∧
      e.turnReadings port.environment (fuel + 1) w =
        now :: advanced.2.1.turnReadings port.environment fuel advanced.2.2 := by
  obtain ⟨lines, events, hhand, havailable⟩ := port.available hsound
  rw [if_neg (fun hempty ↦ hsome hempty.1)] at havailable
  let found : Bench σ ι := { w.withLines lines with events }
  have hfound : found.Shows times := ⟨hshows.standing, hshows.set⟩
  have hlength : 0 < traffic.left.length := List.length_pos_iff.mpr hsome
  have hstill := found.still_now
  have hread : port.AtHand traffic found.now.2.lines := hstill.lines ▸ hhand
  let size := e.reception.portion traffic.left.length
  have hsize : size ≤ traffic.left.length := Reception.portion_le_ready _ _
  have hpositive : 0 < size := h.sound.portion_pos h.wanted hlength
  obtain ⟨lines₁, hdrawn, hreading⟩ := port.read size hread
  have hoctets : (traffic.left.take size).length = size := by
    rw [List.length_take, Nat.min_eq_left hsize]
  have hnow : paced found.now.1 :=
    hpaced _ (@mem_turnReadings _ port.environment _ _ _ _ havailable hlength fuel) hfound.now
  let advanced := (e.taking found.now.1 (traffic.left.take size)).advance port.environment
    e.reception.filled (found.now.2.withLines lines₁)
  have hturn : e.turn port.environment w = (.received advanced.1, advanced.2) :=
    h.turn_taking havailable hlength rfl (htime _ hnow) hreading
      (List.length_pos_iff.mp (hoctets.symm ▸ hpositive)) (Nat.le_of_eq hoctets)
  refine ⟨traffic.left.take size, found.now.1, found.now.2.withLines lines₁, ?_, hturn, ?_⟩
  · constructor
    case some => exact List.length_pos_iff.mp (hoctets.symm ▸ hpositive)
    case wanted =>
      rw [hoctets]
      exact Reception.portion_le_wanted _ _
    case left => rw [hoctets, List.take_append_drop]
    case time => exact hnow
    case atHand =>
      rw [hoctets]
      exact hdrawn
    case journal => exact hstill.journal
    case shows => exact (hstill.shows hfound).withLines lines₁
  · exact turnReadings_received havailable hlength hturn fuel

variable {traffic : Traffic}

/-- The invariant after a turn in which no frame was found. -/
theorem Serving.quiet (h : Serving port.Sound config times paced J all others taken e w)
    (hJ : Sustained port config times all J)
    (htraffic : taken ++ traffic.left = all ∧ traffic.others = others ∧
      J (config.scan taken).findings traffic.written w.journal e)
    (htaking : Taking port e traffic times paced octets now w w₁) {s : Station}
    {event : Option Event}
    (hjudged : (e.taking now octets).Judged (config.scan (e.reception.held ++ octets)) s) :
    let noted := noteStep port.environment (e.taking now octets) w₁ (s, event)
    Serving port.AtHand config times paced J all others (taken ++ octets) noted.1 noted.2 := by
  obtain ⟨hall, hothers, hkept⟩ := htraffic
  let later : Traffic := { traffic with left := traffic.left.drop octets.length }
  have hscan := Config.scan_append config taken octets
  rw [← h.held] at hscan
  have hstill : w₁.Still (noteStep port.environment (e.taking now octets) w₁ (s, event)).2 := by
    cases event with
    | none => exact .refl w₁
    | some event => exact w₁.still_note event
  constructor
  case receiving => exact h.receiving.judged hjudged
  case within => exact h.within.of_tables rfl
  case held => rw [hscan]; exact hjudged.held
  case deadline =>
    intro time htime
    rw [← h.receiving.config_eq]
    exact ⟨now, htaking.time, (Option.some_inj.mp (hjudged.deadline htime)).symm⟩
  case shows => exact hstill.shows htaking.shows
  case kept =>
    have hcounted := hJ.aside s (hJ.refused hkept hjudged.frames) hjudged.config hjudged.link
      hjudged.counters hjudged.outgoing
    refine ⟨later, hstill.lines ▸ htaking.atHand, ?_, hothers, ?_⟩
    · rw [List.append_assoc, ← htaking.left, hall]
    · rw [hstill.journal, htaking.journal, hscan]
      exact hcounted

/-- The invariant after a turn in which a frame was found and dispatched. -/
theorem Serving.deliver (h : Serving port.Sound config times paced J all others taken e w)
    (hJ : Sustained port config times all J)
    (htraffic : taken ++ traffic.left = all ∧ traffic.others = others ∧
      J (config.scan taken).findings traffic.written w.journal e)
    (htaking : Taking port e traffic times paced octets now w w₁) {header : Header}
    {handled : Endpoint (Bench σ ι) × Bench σ ι}
    (hfound : config.scan (e.reception.held ++ octets) =
      ⟨[.frame ⟨header, (e.taking now octets).openPacket.reception.region.payload⟩], []⟩)
    (hpayload : (e.taking now octets).openPacket.reception.region.payload.length =
      header.payloadSize)
    (hhandled : { e.taking now octets with
      toStation := (e.taking now octets).openPacket }.dispatch port.environment header w₁ =
        handled) :
    Serving port.AtHand config times paced J all others (taken ++ octets)
      { handled.1 with toStation := handled.1.clearReception } handled.2 := by
  obtain ⟨hall, hothers, hkept⟩ := htraffic
  let opened : Endpoint (Bench σ ι) :=
    { e.taking now octets with toStation := (e.taking now octets).openPacket }
  have hscan := Config.scan_append config taken octets
  rw [← h.held, hfound] at hscan
  have hprefix : (config.scan taken).findings ++
      [.frame ⟨header, opened.reception.region.payload⟩] <+: (config.scan all).findings := by
    rw [← hall, htaking.left, ← List.append_assoc, Config.scan_append, hscan]
    exact List.prefix_append _ _
  have hopened : J (config.scan taken).findings traffic.written w₁.journal opened := by
    have haside := hJ.aside opened.toStation hkept rfl rfl rfl rfl
    rw [htaking.journal]
    exact haside
  let later : Traffic := { traffic with left := traffic.left.drop octets.length }
  have hcapacity : headerSize ≤ (e.taking now octets).reception.region.capacity := by
    rw [(h.receiving.sound_taking now htaking.wanted).1.room]
    exact Nat.le_trans (Nat.le_add_right _ trailerSize) (Nat.le_add_left _ _)
  obtain ⟨written, hhand, hshows, hdelivered⟩ := hJ.deliver later hopened hprefix hpayload
    (Incoming.shows_opened hcapacity _) htaking.atHand htaking.shows
  rw [hhandled] at hhand hshows hdelivered
  have hdispatch := (@upheld_undisturbed _ port.environment .free opened.toStation header).dispatch
    (w := w₁) (fun _ h ↦ h.trans ⟨rfl, rfl, rfl, rfl⟩) id (e := opened) (h.within.of_tables rfl)
    (.refl _)
  have hidle : handled.1.dispatching = false := hhandled ▸ dispatching_dispatch header
  rw [hhandled] at hdispatch
  constructor
  case receiving =>
    exact h.receiving.cleared hdispatch.1 rfl (Region.size_overwrite _ _ _) hidle
  case within => exact hdispatch.2.of_tables rfl
  case held => rw [hscan]; exact Reception.held_clear _
  case deadline => exact fun hset ↦ nomatch hset
  case shows => exact hshows
  case kept =>
    have hcleared := hJ.aside handled.1.clearReception hdelivered rfl rfl rfl rfl
    refine ⟨{ later with written }, hhand, ?_, hothers, ?_⟩
    · rw [List.append_assoc, ← htaking.left, hall]
    · rw [hscan]
      exact hcleared

/-- A turn that finds octets carries the scan on by some of them. -/
theorem Serving.turn (h : Serving port.Sound config times paced J all others taken e w)
    (hJ : Sustained port config times all J) (hpunctual : Punctual config.stallTimeout paced)
    {fuel : Nat}
    (hpaced : ∀ reading ∈ e.turnReadings port.environment (fuel + 1) w,
      times reading → paced reading)
    (hmore : taken ≠ all) :
    ∃ (octets : Bytes) (result : Nat × Endpoint (Bench σ ι) × Bench σ ι),
      e.turn port.environment w = (.received result.1, result.2) ∧ octets ≠ [] ∧
      (∀ reading ∈ result.2.1.turnReadings port.environment fuel result.2.2,
        times reading → paced reading) ∧
      (config.scan (taken ++ octets)).frames.length =
        (config.scan taken).frames.length + result.1 ∧
      Serving port.AtHand config times paced J all others (taken ++ octets) result.2.1
        result.2.2 := by
  obtain ⟨traffic, hsound, htraffic⟩ := h.kept
  have hsome : traffic.left ≠ [] := by
    intro hempty
    rw [hempty, List.append_nil] at htraffic
    exact hmore htraffic.1
  have htime (now : Millis) (hnow : paced now) :
      ∀ time, e.reception.deadline = some time → now ≤ time := by
    intro time hset
    obtain ⟨reading, hreading, rfl⟩ := h.deadline hset
    exact (hpunctual reading now hreading hnow).le_after
  obtain ⟨octets, now, w₁, htaking, hturn, hreadings⟩ :=
    h.receiving.turn_port hsound hsome h.shows hpaced htime
  have hlater := (List.forall_mem_cons.mp (hreadings ▸ hpaced)).2
  have hresolved : Resolved port.environment (e.taking now octets) w₁
      (config.scan (e.reception.held ++ octets)) _ :=
    h.receiving.advance_resolved now htaking.wanted w₁
  have hframes : (config.scan (taken ++ octets)).frames =
      (config.scan taken).frames ++ (config.scan (e.reception.held ++ octets)).frames := by
    rw [Config.scan_append, ← h.held]
    exact List.filterMap_append
  refine ⟨octets, _, hturn, htaking.some, hlater, ?_⟩
  rw [hframes, List.length_append]
  generalize hfound : config.scan (e.reception.held ++ octets) = found at hresolved ⊢
  generalize (e.taking now octets).advance port.environment e.reception.filled w₁ = result
    at hresolved ⊢
  cases hresolved with
  | quiet _ s event hjudged _ =>
    rw [← hfound] at hjudged
    exact ⟨congrArg _ (congrArg List.length (hfound ▸ hjudged.frames)),
      h.quiet hJ htraffic htaking hjudged⟩
  | delivered header handled hpayload hhandled =>
    exact ⟨rfl, h.deliver hJ htraffic htaking hfound hpayload hhandled⟩

theorem Serving.sound (h : Serving port.AtHand config times paced J all others taken e w) :
    Serving port.Sound config times paced J all others taken e w := by
  obtain ⟨traffic, hhand, htraffic⟩ := h.kept
  exact ⟨h.receiving, h.within, h.held, h.deadline, h.shows, traffic, port.sound hhand, htraffic⟩

theorem turn_empty (hsound : port.Sound traffic w.lines) (hempty : traffic.left = []) :
    ∃ w', e.turn port.environment w = (if port.closes then .closed else .idle, e, w') ∧
      port.AtHand traffic w'.lines ∧ w'.journal = w.journal ∧ (w.Shows times → w'.Shows times) := by
  obtain ⟨lines, events, hhand, havailable⟩ := port.available hsound
  let asked : Bench σ ι := { w.withLines lines with events }
  refine ⟨asked, ?_, hhand, rfl, fun hshows ↦ ⟨hshows.standing, hshows.set⟩⟩
  cases hcloses : port.closes with
  | true =>
    have hclosed : port.environment.channel.available w = (.error .closed, asked) := by
      rw [hcloses, if_pos ⟨hempty, rfl⟩] at havailable
      exact havailable
    exact turn_of_error hclosed
  | false =>
    have hidle : port.environment.channel.available w = (.ok 0, asked) := by
      rw [hcloses, if_neg (fun h ↦ Bool.noConfusion h.2), hempty] at havailable
      exact havailable
    exact turn_of_not_ready hidle

/-- A poll of a port that closes and where nothing is left finds it closed. -/
theorem Receiving.poll_closed (h : e.Receiving config) (hsound : port.Sound traffic w.lines)
    (hempty : traffic.left = []) (hcloses : port.closes = true) (fuel : Nat) :
    ∃ w', e.poll port.environment (fuel + 1) w = (.failed (.channel .closed), e, w') ∧
      port.AtHand traffic w'.lines := by
  obtain ⟨w', hturn, hhand, -⟩ := @turn_empty _ _ _ (fun _ ↦ True) e _ _ hsound hempty
  refine ⟨w', ?_, hhand⟩
  rw [h.poll_eq, Endpoint.pollFrom, hturn, hcloses]
  rfl

/-- Nothing is done when everything was taken. -/
theorem Serving.turn_over (h : Serving port.Sound config times paced J all others all e w) :
    ∃ w', e.turn port.environment w = (if port.closes then .closed else .idle, e, w') ∧
      Serving port.AtHand config times paced J all others all e w' := by
  obtain ⟨traffic, hsound, hall, hothers, hkept⟩ := h.kept
  obtain ⟨w', hturn, hhand, hjournal, hshows⟩ :=
    turn_empty hsound (List.append_right_eq_self.mp hall)
  exact ⟨w', hturn, h.receiving, h.within, h.held, h.deadline, hshows h.shows, traffic, hhand, hall,
    hothers, hjournal ▸ hkept⟩

/-- A poll that is given turns enough takes in everything. -/
theorem Serving.pollFrom (h : Serving port.Sound config times paced J all others taken e w)
    (hJ : Sustained port config times all J) (hpunctual : Punctual config.stallTimeout paced)
    {fuel : Nat}
    (hpaced : ∀ reading ∈ e.turnReadings port.environment fuel w, times reading → paced reading)
    (hfuel : all.length < taken.length + fuel) :
    ∃ e' w', Endpoint.pollFrom port.environment fuel (config.scan taken).frames.length e w =
        (port.outcome (config.scan all).frames.length, e', w') ∧
      Serving port.AtHand config times paced J all others all e' w' := by
  have hlength : taken.length ≤ all.length := by
    obtain ⟨traffic, -, rfl, -⟩ := h.kept
    rw [List.length_append]
    exact Nat.le_add_right _ _
  -- each turn takes at least one octet
  induction fuel generalizing taken e w with
  | zero => omega
  | succ fuel ih =>
    unfold Endpoint.pollFrom
    by_cases hmore : taken = all
    · subst hmore
      obtain ⟨w', hturn, hover⟩ := h.turn_over
      refine ⟨e, w', ?_, hover⟩
      rw [hturn]
      unfold Port.outcome
      cases port.closes with
      | false => rfl
      | true => cases (config.scan taken).frames.length <;> rfl
    · obtain ⟨octets, result, hturn, hsome, hlater, hframes, hnext⟩ :=
        h.turn hJ hpunctual hpaced hmore
      have hpositive : 0 < octets.length := List.length_pos_iff.mpr hsome
      have hnext_length : (taken ++ octets).length ≤ all.length := by
        obtain ⟨traffic, -, hall, -⟩ := hnext.kept
        rw [← hall, @List.length_append _ (taken ++ octets)]
        exact Nat.le_add_right _ _
      rw [hturn]
      dsimp only
      rw [← hframes]
      refine ih hnext.sound hlater ?_ hnext_length
      rw [List.length_append]
      omega

/-- A poll of a port that was not read before takes in everything that is there. -/
theorem Serving.poll (h : Serving port.Sound config times paced J all others [] e w)
    (hJ : Sustained port config times all J) (hpunctual : Punctual config.stallTimeout paced)
    {fuel : Nat}
    (hpaced : ∀ reading ∈ e.turnReadings port.environment fuel w, times reading → paced reading)
    (hfuel : all.length < fuel) :
    ∃ e' w', e.poll port.environment fuel w =
        (port.outcome (config.scan all).frames.length, e', w') ∧
      Serving port.AtHand config times paced J all others all e' w' := by
  rw [h.receiving.poll_eq]
  have hnone : (config.scan []).frames.length = 0 := by
    have hshort : ([] : Bytes).length < headerSize := by decide
    rw [Config.scan, Scan.scan_of_next?_none (Scan.next?_of_length_lt hshort)]
    rfl
  have hturns : all.length < ([] : Bytes).length + fuel := by rwa [List.length_nil, Nat.zero_add]
  obtain ⟨e', w', hpoll, hserved⟩ := h.pollFrom hJ hpunctual hpaced hturns
  rw [hnone] at hpoll
  exact ⟨e', w', hpoll, hserved⟩

end Endpoint

end FramedLink
