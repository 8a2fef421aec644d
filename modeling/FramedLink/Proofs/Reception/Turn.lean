import FramedLink.Endpoint.Receive
import FramedLink.Proofs.Reception.Collected

/-!
# Turns of receiving

A turn that finds octets in the channel takes some of them up and judges what it then holds.
Whatever the channel is made of, this comes to a scan of the octets held and those read: `Resolved`
says how the endpoint and its surroundings come out of it, and whether a packet was handed to the
handlers on the way (`Receiving.turn_taking`, `Receiving.advance_resolved`).

A poll goes on turning until nothing is ready. An invariant of turns that find octets, together with
something that each of them uses up, carries over to the whole poll (`pollFrom_done`).
-/

namespace FramedLink

/-- Events that only tell of octets thrown away. -/
def Event.IsRefusal : Event → Prop
  | .noiseDiscarded _ | .oversize .. | .badTrailer _ => True
  | _ => False

namespace Endpoint

variable {ω : Type} {env : Environment ω} {e : Endpoint ω} {w : ω}

/-- How an endpoint comes out of judging the octets it holds, with the number of packets dispatched:
either no handler was called, or the octets were one frame and its payload was dispatched. -/
inductive Resolved (env : Environment ω) (e : Endpoint ω) (w : ω) :
    Scan → Nat × Endpoint ω × ω → Prop where
  | quiet (found : Scan) (s : Station) (event : Option Event) (hjudged : e.Judged found s)
      (hevent : ∀ refusal ∈ event, refusal.IsRefusal) :
      Resolved env e w found (0, noteStep env e w (s, event))
  | delivered (header : Header) (handled : Endpoint ω × ω)
      (hpayload : e.openPacket.reception.region.payload.length = header.payloadSize)
      (hhandled : { e with toStation := e.openPacket }.dispatch env header w = handled) :
      Resolved env e w ⟨[.frame ⟨header, e.openPacket.reception.region.payload⟩], []⟩
        (1, { handled.1 with toStation := handled.1.clearReception }, handled.2)

/-- The event of a judged header tells of a rejection. -/
theorem isRefusal_of_mem_judgeHeader {s : Station} {event : Event}
    (h : event ∈ s.judgeHeader.2) : event.IsRefusal := by
  unfold Station.judgeHeader at h
  split at h
  · split at h
    · cases h
    · cases h
      trivial
  · cases h
    trivial

/-- A complete packet is dispatched or its trailer is refused. -/
theorem resolved_completePacket (hsound : e.reception.Sound e.config.maxDeclared)
    (hpacket : 0 < e.reception.packetSize)
    (hcomplete : e.reception.packetSize ≤ e.reception.filled) :
    Resolved env e w (e.config.scan e.reception.held) (e.completePacket env w) := by
  rcases Station.judgePacket_cases hsound hpacket hcomplete with
    ⟨header, hverdict, hpayload, hscan⟩ | ⟨error, hverdict, hscan⟩
  · rw [hscan]
    unfold completePacket
    rw [hverdict]
    exact .delivered header _ hpayload rfl
  · rw [hscan]
    unfold completePacket
    rw [hverdict]
    exact .quiet _ _ (some (.badTrailer error)) (Station.judged_badTrailer hsound)
      (fun refusal h ↦ by cases h; trivial)

/-- Octets were taken up: their judgement comes to a scan of all that is held. -/
theorem resolved_advance {before : Nat} (hsound : e.reception.Sound e.config.maxDeclared)
    (hstage : before < headerSize ↔ e.reception.packetSize = 0) :
    Resolved env e w (e.config.scan e.reception.held) (e.advance env before w) := by
  have hframe (header : Header) : headerSize < header.frameSize := by
    unfold Header.frameSize frameOverhead trailerSize
    omega
  unfold advance
  by_cases hcomplete : 0 < e.reception.packetSize ∧ e.reception.packetSize ≤ e.reception.filled
  case pos =>
    have hlater : ¬ before < headerSize := fun h ↦ by
      have hnone := hstage.mp h
      omega
    simp only [hlater, false_and, if_false, hcomplete, true_and, if_true]
    exact resolved_completePacket hsound hcomplete.1 hcomplete.2
  case neg =>
    by_cases hjudge : before < headerSize ∧ headerSize ≤ e.reception.filled
    case neg =>
      simp only [hjudge, if_false, hcomplete]
      apply Resolved.quiet _ _ none (Station.judged_self hsound ?_) (fun refusal h ↦ nomatch h)
      unfold Reception.wanted
      cases hsound.settled with
      | header hpacket _ _ =>
        have hbefore := hstage.mpr hpacket
        rw [if_neg (by omega)]
        omega
      | packet header _ _ _ hpacket _ _ =>
        rw [hpacket, if_pos (by have := hframe header; omega)]
        have := hframe header
        omega
    case pos =>
      have hpacket := hstage.mp hjudge.1
      have hfilled : e.reception.filled = headerSize := by
        cases hsound.settled with
        | header _ _ hfilled => omega
        | packet header _ _ _ hsize _ _ =>
          have := hframe header
          omega
      have hjudged := Station.judged_judgeHeader hsound hfilled
      have hunfinished : ¬ (0 < e.judgeHeader.1.reception.packetSize ∧
          e.judgeHeader.1.reception.packetSize ≤ e.judgeHeader.1.reception.filled) := by
        intro h
        have hwanted := hjudged.wanted
        rw [Reception.wanted, if_pos h.1] at hwanted
        omega
      simp only [hjudge, true_and, if_true, noteStep, hunfinished, if_false]
      exact .quiet _ _ _ hjudged (fun refusal h ↦ isRefusal_of_mem_judgeHeader h)

/-- An endpoint with given settings that is ready to receive: it handles no packet, and it has
collected the beginning of one at most. -/
structure Receiving (config : Config) (e : Endpoint ω) : Prop where
  config_eq : e.config = config
  dispatching : e.dispatching = false
  sound : e.reception.Sound config.maxDeclared
  wanted : 0 < e.reception.wanted

/-- The endpoint with the octets of a reading, and a deadline that counts from a time. -/
def taking (e : Endpoint ω) (now : Millis) (octets : Bytes) : Endpoint ω :=
  { e with toStation := (e.toStation.extendDeadline now).collect octets octets.length }

theorem turn_of_not_ready {w₁ : ω} (h : env.channel.available w = (.ok 0, w₁)) :
    e.turn env w = (.idle, e, w₁) := by
  unfold turn
  rw [h]
  rfl

theorem turn_of_error {w₁ : ω} {error : ChannelError}
    (h : env.channel.available w = (.error error, w₁)) :
    e.turn env w = (if error = .closed then .closed else .failed (.channel error), e, w₁) := by
  unfold turn
  rw [h]
  cases error <;> rfl

theorem expire_of_in_time {s : Station} {now : Millis}
    (h : ∀ time, s.reception.deadline = some time → now ≤ time) : s.expire now = (s, none) := by
  unfold Station.expire
  cases hdeadline : s.reception.deadline with
  | none => rfl
  | some time =>
    have hle := h time hdeadline
    rw [Option.any_some, if_neg (by simpa using hle)]

variable {ready : Nat} {now : Millis} {octets : Bytes} {w₁ w₂ w₃ : ω}

variable {config : Config}

/-- A turn that finds octets in time reads some of them. -/
theorem Receiving.turn_of_ready (h : e.Receiving config)
    (hready : env.channel.available w = (.ok ready, w₁)) (hsome : 0 < ready)
    (hnow : env.now w₁ = (now, w₂))
    (htime : ∀ time, e.reception.deadline = some time → now ≤ time) :
    e.turn env w =
      ({ e with toStation := e.toStation.extendDeadline now } : Endpoint ω).readPortion env
        (e.reception.portion ready) w₂ := by
  have hportion : 0 < e.reception.portion ready := h.sound.portion_pos h.wanted hsome
  have hnot : ¬ ready = 0 := by omega
  unfold turn
  simp only [hready, hnow, expire_of_in_time htime, noteStep, Option.elim]
  rw [if_neg hnot]
  exact if_neg (Nat.pos_iff_ne_zero.mp hportion)

theorem Receiving.checkSlot (h : e.Receiving config) {size : Nat}
    (hsize : size ≤ e.reception.wanted) :
    e.reception.region.checkSlot e.reception.filled size = .ok () :=
  if_pos (Nat.le_trans (Nat.add_le_add_left hsize _) h.sound.wanted_le)

section Reading

variable {size : Nat}

theorem readPortion_of_error {error : ChannelError}
    (hslot : e.reception.region.checkSlot e.reception.filled size = .ok ())
    (hread : env.channel.read size w = (⟨[], .error error⟩, w₁)) :
    e.readPortion env size w = (.failed (.channel error), e, w₁) := by
  unfold readPortion
  simp only [hslot, hread, List.take_nil]
  rfl

theorem readPortion_of_none
    (hslot : e.reception.region.checkSlot e.reception.filled size = .ok ())
    (hread : env.channel.read size w = (⟨[], .ok 0⟩, w₁)) :
    e.readPortion env size w = (.idle, e, w₁) := by
  unfold readPortion
  simp only [hslot, hread, List.take_nil, Nat.zero_min]
  rfl

/-- What a read yields is taken up and judged. -/
theorem readPortion_of_some
    (hslot : e.reception.region.checkSlot e.reception.filled size = .ok ())
    (hread : env.channel.read size w = (⟨octets, .ok octets.length⟩, w₁))
    (hoctets : octets ≠ []) (hlength : octets.length ≤ size) :
    e.readPortion env size w =
      let advanced := ({ e with
        toStation := e.toStation.collect octets octets.length } : Endpoint ω).advance env
          e.reception.filled w₁
      (.received advanced.1, advanced.2) := by
  have hcount : octets.length ≠ 0 := fun h ↦ hoctets (List.eq_nil_of_length_eq_zero h)
  unfold readPortion
  simp only [hslot, hread, List.take_of_length_le hlength, Nat.min_eq_left hlength, if_neg hcount]

end Reading

/-- A turn that finds octets in time takes up what it reads. -/
theorem Receiving.turn_taking (h : e.Receiving config)
    (hready : env.channel.available w = (.ok ready, w₁)) (hsome : 0 < ready)
    (hnow : env.now w₁ = (now, w₂))
    (htime : ∀ time, e.reception.deadline = some time → now ≤ time)
    (hread : env.channel.read (e.reception.portion ready) w₂ =
      (⟨octets, .ok octets.length⟩, w₃))
    (hoctets : octets ≠ []) (hlength : octets.length ≤ e.reception.portion ready) :
    e.turn env w =
      let advanced := (e.taking now octets).advance env e.reception.filled w₃
      (.received advanced.1, advanced.2) := by
  have hslot := h.checkSlot (Reception.portion_le_wanted e.reception ready)
  let waiting : Endpoint ω := { e with toStation := e.toStation.extendDeadline now }
  have hslot' : waiting.reception.region.checkSlot waiting.reception.filled
      (e.reception.portion ready) = .ok () := hslot
  rw [h.turn_of_ready hready hsome hnow htime, readPortion_of_some hslot' hread hoctets hlength]
  rfl

/-- Octets that are wanted are taken up behind those held. -/
theorem Receiving.sound_taking (h : e.Receiving config) (now : Millis)
    (hfits : octets.length ≤ e.reception.wanted) :
    (e.taking now octets).reception.Sound config.maxDeclared ∧
      (e.taking now octets).reception.held = e.reception.held ++ octets := by
  have hwaiting : (e.toStation.extendDeadline now).reception.Sound config.maxDeclared :=
    h.sound.of_deadline _
  exact ⟨Station.sound_collect hwaiting hfits, Station.held_collect hwaiting hfits⟩

/-- The judgement of octets that were taken up comes to a scan of those held and these. -/
theorem Receiving.advance_resolved (h : e.Receiving config) (now : Millis)
    (hfits : octets.length ≤ e.reception.wanted) (w : ω) :
    Resolved env (e.taking now octets) w (config.scan (e.reception.held ++ octets))
      ((e.taking now octets).advance env e.reception.filled w) := by
  obtain ⟨hsound, hheld⟩ := h.sound_taking now hfits
  have hstage : e.reception.filled < headerSize ↔
      (e.taking now octets).reception.packetSize = 0 :=
    h.sound.filled_lt_header_iff h.wanted
  have hresolved : Resolved env (e.taking now octets) w
      (e.config.scan (e.taking now octets).reception.held)
      ((e.taking now octets).advance env e.reception.filled w) :=
    resolved_advance (h.config_eq.symm ▸ hsound) hstage
  rwa [hheld, h.config_eq] at hresolved

/-- A new endpoint is ready to receive. -/
theorem receiving_initial {id : UInt32} (hconfig : config.fault? = none)
    (hnew : e.toStation = Station.initial config id) : e.Receiving config := by
  constructor
  case config_eq => rw [hnew]; rfl
  case dispatching => rw [hnew]; rfl
  case sound =>
    rw [hnew]
    exact ⟨(Station.room_initial hconfig id).1, .header rfl rfl (Nat.zero_le _)⟩
  case wanted => rw [hnew]; exact Nat.succ_pos 7

/-- After a turn in which no packet was handled, the endpoint is ready for the next one. -/
theorem Receiving.judged (h : e.Receiving config) {found : Scan} {s : Station}
    (hjudged : (e.taking now octets).Judged found s) :
    ({ e.taking now octets with toStation := s } : Endpoint ω).Receiving config where
  config_eq := hjudged.config.trans h.config_eq
  dispatching := hjudged.dispatching.trans h.dispatching
  sound := h.config_eq ▸ hjudged.sound
  wanted := hjudged.wanted

theorem Receiving.poll_eq (h : e.Receiving config) (fuel : Nat) :
    e.poll env fuel w = pollFrom env fuel 0 e w := by
  unfold poll admitPoll
  rw [h.dispatching]
  rfl

/-- An invariant of turns that find octets, each of which uses something up, holds at the end of a
poll, and nothing is ready then. The invariant may speak of the turns that are left and of the
packets dispatched so far. -/
theorem pollFrom_done {I : Nat → Nat → Endpoint ω → ω → Prop} {size : ω → Nat}
    (hturn : ∀ {fuel packets e w}, I (fuel + 1) packets e w →
      env.channel.available w = (.ok 0, w) ∨
      ∃ result : Nat × Endpoint ω × ω, e.turn env w = (.received result.1, result.2) ∧
        size result.2.2 < size w ∧ I fuel (packets + result.1) result.2.1 result.2.2)
    {fuel packets : Nat} {e : Endpoint ω} {w : ω} (hsize : size w < fuel)
    (h : I fuel packets e w) :
    ∃ left total e' w', pollFrom env fuel packets e w = (.done total, e', w') ∧
      env.channel.available w' = (.ok 0, w') ∧ I left total e' w' := by
  induction fuel generalizing packets e w with
  | zero => omega
  | succ fuel ih =>
    unfold pollFrom
    rcases hturn h with hidle | ⟨⟨more, e', w'⟩, hreceived, hless, hkept⟩
    · rw [turn_of_not_ready hidle]
      exact ⟨_, _, _, _, rfl, hidle, h⟩
    · rw [hreceived]
      exact ih (Nat.lt_of_lt_of_le hless (Nat.lt_succ_iff.mp hsize)) hkept

end Endpoint

end FramedLink
