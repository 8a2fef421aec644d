import FramedLink.Proofs.Link.Speaking

/-!
# What an end receives

A poll at one end of a wire whose ends are both courteous. The octets it holds and those still in
the pipe are encoded frames of the other end, one behind the other, and nothing of them is ever
refused: each turn either takes up a part of the next frame or completes it and dispatches just that
frame (`Listening.turn`). When the poll is over nothing is held (`Listening.poll`).
-/

namespace FramedLink

namespace Endpoint

variable {σ : Type} {time : σ → Millis} {x : End} {config peer : Config}
variable {e : Endpoint (Wire σ)} {w : Wire σ}

/-- A clock that is read without being moved. -/
def still (time : σ → Millis) (app : σ) : Millis × σ :=
  (time app, app)

/-- A frame that the peer can have sent. -/
structure Acceptable (config peer : Config) (frame : Frame) : Prop where
  length : frame.payload.length = frame.header.payloadSize
  limit : frame.header.payloadSize ≤ config.maxDeclared
  response : frame.header.type = MessageType.connectResponse →
    ∃ message : ConnectMessage,
      frame.payload = message.encode ∧ message.limit = peer.advertisedLimit

/-- What holds of an end between two turns of a poll; `theirs` is what the other end has noted, and
`mine` what this end had dispatched when the poll began. -/
structure Listening (time : σ → Millis) (x : End) (config peer : Config) (theirs : List Event)
    (e : Endpoint (Wire σ)) (w : Wire σ) : Prop where
  speaking : Speaking x config peer theirs e w
  receiving : e.Receiving config
  within : e.Within Wire.courteous
  refusals : e.counters.refusals = (0, 0, 0, 0)
  arriving : ∃ frames, sends theirs = deliveries (w.noted x) ++ frames ∧
    e.reception.held ++ (w.toward x).queue.octets =
      frames.flatMap (Frame.wire config.integrity)
  deadline {limit : Millis} : e.reception.deadline = some limit →
    limit = (time w.app).after config.stallTimeout
  fresh : e.reception.filled = 0 → e.reception.deadline = none
  flowing : 0 < e.reception.filled → (w.toward x).cap ≠ some 0

variable {taken : Bytes} {w₁ : Wire σ} {theirs : List Event}

/-- Taking octets out of its own pipe is nothing that an end says. -/
theorem quiet_drained {clock : σ → Millis × σ} (h : Wire.Drained clock x taken w w₁) :
    Wire.Quiet x w w₁ :=
  .of_noted h.noted (by rw [h.other])

theorem quiet_noteStep {clock : σ → Millis × σ} {s : Station} {event : Option Event}
    (hevent : ∀ refusal ∈ event, refusal.IsRefusal) :
    Wire.Quiet x w (noteStep (Wire.environment clock x) e w (s, event)).2 := by
  cases event with
  | none => exact .refl w
  | some refusal =>
    have hrefusal := hevent refusal rfl
    exact Wire.quiet_note hrefusal.sent? hrefusal.linkAfter

theorem noted_noteStep {clock : σ → Millis × σ} {s : Station} {event : Option Event}
    (hevent : ∀ refusal ∈ event, refusal.IsRefusal) :
    ∃ more : List Event, (∀ event ∈ more, event.IsRefusal) ∧
      (noteStep (Wire.environment clock x) e w (s, event)).2.noted x = w.noted x ++ more := by
  cases event with
  | none => exact ⟨[], fun _ h ↦ (nomatch h), (List.append_nil _).symm⟩
  | some refusal =>
    refine ⟨[refusal], ?_, Wire.noted_note x refusal w⟩
    intro other hmem
    rw [List.mem_singleton.mp hmem]
    exact hevent refusal rfl

/-- Who is courteous keeps away from what an end listens to. -/
theorem asks_listening {request : Request}
    (h : (Wire.courteous : Conduct (Wire σ)).asks request) :
    (Wire.listening (fun _ ↦ True) x : Conduct (Wire σ)).asks request := by
  rintro size rfl
  exact h

theorem changes_listening {step : Wire σ → Wire σ} (h : Wire.courteous.changes step) :
    (Wire.listening (fun _ ↦ True) x).changes step := by
  intro w
  obtain ⟨hoctets, hnoted⟩ := h w
  exact ⟨⟨hoctets x, fun _ ↦ trivial, by rw [hnoted]⟩, by rw [hnoted]⟩

/-- The invariant after a turn in which no frame was completed. -/
theorem Listening.quiet (h : Listening time x config peer theirs e w)
    (hready : (w.toward x).available ≠ 0) (htaken : taken ≠ [])
    (hdrained : Wire.Drained (still time) x taken w w₁) {s : Station} {event : Option Event}
    (hnone : (config.scan (e.reception.held ++ taken)).findings = [])
    (hjudged : (e.taking (time w.app) taken).Judged
      (config.scan (e.reception.held ++ taken)) s)
    (hevent : ∀ refusal ∈ event, refusal.IsRefusal) :
    let noted := noteStep (Wire.environment (still time) x) (e.taking (time w.app) taken) w₁
      (s, event)
    (noted.2.toward x).queue.octets = (w₁.toward x).queue.octets ∧
      Listening time x config peer theirs noted.1 noted.2 := by
  intro noted
  have huntouched : Wire.Untouched (fun _ ↦ True) x w₁ noted.2 := untouched_noteStep hevent
  have hheld : s.reception.held = e.reception.held ++ taken :=
    hjudged.held.trans (Scan.rest_of_findings_eq_nil hnone)
  have hfilled : s.reception.filled = (e.reception.held ++ taken).length := by
    rw [← hheld, hjudged.sound.length_held]
  have hsome : 0 < s.reception.filled := by
    rw [hfilled, List.length_append]
    exact Nat.add_pos_right _ (List.length_pos_iff.mpr htaken)
  have htoward : noted.2.toward = w₁.toward := by
    cases event <;> rfl
  have happ : noted.2.app = w.app := by
    rw [← show w₁.app = w.app from hdrained.app]
    cases event <;> rfl
  have hcap : (noted.2.toward x).cap = (w.toward x).cap := by rw [htoward, hdrained.cap]
  refine ⟨huntouched.octets, ?_⟩
  constructor
  case speaking =>
    exact (h.speaking.quiet ((quiet_drained hdrained).trans (quiet_noteStep hevent))).of_eq
      hjudged.config (congrArg Array.size hjudged.outgoing)
      (congrArg LinkState.connected hjudged.link) (congrArg LinkState.remoteLimit hjudged.link)
  case receiving => exact h.receiving.judged hjudged
  case within => exact h.within.of_tables rfl
  case refusals =>
    have hcounters : s.counters = e.counters := by
      rw [hjudged.counters, hnone]
      rfl
    calc
      s.counters.refusals = e.counters.refusals := congrArg Counters.refusals hcounters
      _ = (0, 0, 0, 0) := h.refusals
  case arriving =>
    obtain ⟨frames, hsends, hoctets⟩ := h.arriving
    refine ⟨frames, ?_, ?_⟩
    · rw [huntouched.delivered, hdrained.noted]
      exact hsends
    · rw [hdrained.queue, ← List.append_assoc, ← hheld] at hoctets
      rw [huntouched.octets]
      exact hoctets
  case deadline =>
    intro limit hlimit
    rw [happ, ← h.speaking.config_eq]
    exact (Option.some_inj.mp (hjudged.deadline hlimit)).symm
  case fresh =>
    intro hzero
    exact absurd hzero (Nat.ne_of_gt hsome)
  case flowing =>
    intro _ hclosed
    exact hready (((w.toward x).available_eq_zero_iff).mpr (.inr (hcap ▸ hclosed)))

theorem Listening.deliver (hconfig : config.fault? = none) (hpeer : peer.fault? = none)
    (h : Listening time x config peer theirs e w)
    (hacceptable : ∀ frame ∈ sends theirs, Acceptable config peer frame)
    (hdrained : Wire.Drained (still time) x taken w w₁) {header : Header}
    {handled : Endpoint (Wire σ) × Wire σ}
    (hnext : ∃ later, sends theirs = deliveries (w.noted x) ++
      ⟨header, (e.taking (time w.app) taken).openPacket.reception.region.payload⟩ :: later ∧
      (w₁.toward x).queue.octets = later.flatMap (Frame.wire config.integrity))
    (hhandled : { e.taking (time w.app) taken with
        toStation := (e.taking (time w.app) taken).openPacket }.dispatch
      (Wire.environment (still time) x) header w₁ = handled) :
    (handled.2.toward x).queue.octets = (w₁.toward x).queue.octets ∧
      Listening time x config peer theirs
        { handled.1 with toStation := handled.1.clearReception } handled.2 := by
  let opened : Endpoint (Wire σ) :=
    { e.taking (time w.app) taken with toStation := (e.taking (time w.app) taken).openPacket }
  let frame : Frame := ⟨header, opened.reception.region.payload⟩
  have hopened : opened.Within Wire.courteous := h.within.of_tables rfl
  have hlistening : opened.Within (Wire.listening (fun _ ↦ True) x) :=
    hopened.mono (fun _ ↦ asks_listening) (fun _ ↦ changes_listening) (fun _ ↦ id)
  obtain ⟨later, hsends, hlater⟩ := hnext
  have hframe : frame ∈ sends theirs := by
    rw [hsends]
    exact List.mem_append_right _ List.mem_cons_self
  have hresponse : header.type = MessageType.connectResponse →
      ∀ message, opened.reception.region.message = .ok message →
        message.limit = peer.advertisedLimit := by
    intro htype message hmessage
    obtain ⟨message', hpayload, hlimit⟩ := (hacceptable frame hframe).response htype
    rw [Incoming.message_of_payload hpayload] at hmessage
    exact Except.ok.inj hmessage ▸ hlimit
  have hspeaking : Speaking x config peer theirs opened w₁ :=
    (h.speaking.quiet (quiet_drained hdrained)).of_eq rfl rfl rfl rfl
  have hidle : handled.1.dispatching = false := hhandled ▸ dispatching_dispatch header
  obtain ⟨hconversing, hkept⟩ :=
    (@upheld_conversing σ (still time) x config peer theirs hconfig hpeer header).dispatch
      (fun _ h ↦ ⟨h.speaking.of_eq rfl rfl rfl rfl, h.response⟩)
      (fun h ↦ ⟨h.speaking.quiet (Wire.quiet_note rfl fun _ ↦ rfl), h.response⟩) hopened
      ⟨hspeaking.quiet (Wire.quiet_note rfl fun _ ↦ rfl), hresponse⟩
  have hdispatch :=
    @dispatch_undisturbed σ (still time) (fun _ ↦ True) x opened w₁ header hlistening
  rw [hhandled] at hdispatch hconversing hkept
  obtain ⟨-, hundisturbed, hqueue, -, hdelivered⟩ := hdispatch
  have hcapacity : opened.reception.region.capacity = e.reception.region.capacity :=
    Region.size_overwrite _ _ _
  refine ⟨hqueue, ?_⟩
  constructor
  case speaking => exact hconversing.speaking.of_eq rfl rfl rfl rfl
  case receiving => exact h.receiving.cleared hundisturbed rfl hcapacity hidle
  case within => exact hkept.of_tables rfl
  case refusals => exact hundisturbed.counters.trans h.refusals
  case arriving =>
    refine ⟨later, ?_, ?_⟩
    · rw [hdelivered, hdrained.noted, hsends, List.append_assoc]
      rfl
    · rw [hqueue]
      exact (congrArg (· ++ _) (Reception.held_clear _)).trans hlater
  case deadline =>
    intro _ hset
    exact nomatch hset
  case fresh =>
    intro _
    rfl
  case flowing =>
    intro hfilled
    exact absurd hfilled (Nat.lt_irrefl 0)

/-- A property of an end and its notes that outlasts receiving: it does not depend on what is being
collected, and it survives the dispatch of each frame that the other end has sent. -/
structure Lasting (time : σ → Millis) (x : End) (theirs : List Event)
    (K : Endpoint (Wire σ) → List Event → Prop) : Prop where
  collecting {e e' notes more} : e'.config = e.config → e'.link = e.link →
    e'.outgoing.region = e.outgoing.region → e'.tables = e.tables →
    (∀ event ∈ more, event.IsRefusal) → K e notes → K e' (notes ++ more)
  dispatch {e w header} : ⟨header, e.reception.region.payload⟩ ∈ sends theirs →
    K e (w.noted x) →
    K (e.dispatch (Wire.environment (still time) x) header w).1
      ((e.dispatch (Wire.environment (still time) x) header w).2.noted x)

variable {K : Endpoint (Wire σ) → List Event → Prop}

/-- What outlasts receiving survives the dispatch of a packet that was collected. -/
theorem Lasting.deliver (hlasting : Lasting time x theirs K) (s : Station) {header : Header}
    (hconfig : s.config = e.config) (hlink : s.link = e.link)
    (hout : s.outgoing.region = e.outgoing.region)
    (hsent : ⟨header, s.openPacket.reception.region.payload⟩ ∈ sends theirs)
    (hK : K e (w.noted x)) :
    let handled := { e with toStation := s.openPacket }.dispatch
      (Wire.environment (still time) x) header w
    K { handled.1 with toStation := handled.1.clearReception } (handled.2.noted x) := by
  have hopened : K { e with toStation := s.openPacket } (w.noted x) := by
    rw [← List.append_nil (w.noted x)]
    exact hlasting.collecting (e := e) hconfig hlink hout rfl (fun _ h ↦ (nomatch h)) hK
  have hdispatched := hlasting.dispatch hsent hopened
  generalize { e with toStation := s.openPacket }.dispatch
    (Wire.environment (still time) x) header w = handled at hdispatched ⊢
  dsimp only
  rw [← List.append_nil (handled.2.noted x)]
  exact hlasting.collecting (e := handled.1) rfl rfl rfl rfl (fun _ h ↦ (nomatch h)) hdispatched

/-- A turn that finds octets keeps the invariant, and what outlasts receiving. -/
theorem Listening.turn (hconfig : config.fault? = none) (hpeer : peer.fault? = none)
    (hlasting : Lasting time x theirs K)
    (h : Listening time x config peer theirs e w) (hK : K e (w.noted x))
    (hacceptable : ∀ frame ∈ sends theirs, Acceptable config peer frame)
    (hready : (w.toward x).available ≠ 0) :
    ∃ result : Nat × Endpoint (Wire σ) × Wire σ,
      e.turn (Wire.environment (still time) x) w = (.received result.1, result.2) ∧
      (result.2.2.toward x).queue.octets.length < (w.toward x).queue.octets.length ∧
      Listening time x config peer theirs result.2.1 result.2.2 ∧
      K result.2.1 (result.2.2.noted x) := by
  have hdeadline : ∀ limit, e.reception.deadline = some limit → (still time w.app).1 ≤ limit := by
    intro limit hset
    rw [h.deadline hset]
    exact Millis.le_after _ _
  obtain ⟨taken, w₁, result, htaken, -, hdrained, hturn, hresolved⟩ :=
    h.receiving.turn_wire hready hdeadline
  refine ⟨result, hturn, ?_⟩
  have hless : (w₁.toward x).queue.octets.length < (w.toward x).queue.octets.length := by
    have hpositive := List.length_pos_iff.mpr htaken
    rw [hdrained.queue, List.length_append]
    omega
  obtain ⟨frames, hsends, hoctets⟩ := h.arriving
  have hframes : ∀ frame ∈ frames, frame.payload.length = frame.header.payloadSize ∧
      frame.header.payloadSize ≤ config.maxDeclared := by
    intro frame hmem
    have hsent := hacceptable frame (hsends ▸ List.mem_append_right _ hmem)
    exact ⟨hsent.length, hsent.limit⟩
  rw [hdrained.queue, ← List.append_assoc] at hoctets
  obtain ⟨first, later, rfl, hfindings, hrest⟩ := Scan.scan_of_append_eq_wires hframes hoctets
  change (config.scan (e.reception.held ++ taken)).findings = _ at hfindings
  change (config.scan (e.reception.held ++ taken)).rest ++ _ = _ at hrest
  generalize hfound : config.scan (e.reception.held ++ taken) = found at hresolved hfindings hrest
  cases hresolved with
  | quiet _ s event hjudged hevent =>
    have hnone : first = [] := by
      have hjudged_frames := hjudged.frames
      rw [Scan.frames, hfindings] at hjudged_frames
      cases first with
      | nil => rfl
      | cons frame first => cases hjudged_frames
    rw [hnone, List.map_nil, ← hfound] at hfindings
    rw [← hfound] at hjudged
    obtain ⟨hqueue, hkept⟩ := h.quiet hready htaken hdrained hfindings hjudged hevent
    refine ⟨hqueue ▸ hless, hkept, ?_⟩
    obtain ⟨more, hmore, hnoted⟩ := noted_noteStep hevent
    rw [hnoted, hdrained.noted]
    exact hlasting.collecting (e := e) hjudged.config hjudged.link hjudged.outgoing rfl hmore hK
  | delivered header handled _ hhandled =>
    obtain ⟨frame, hone, hframe⟩ := List.map_eq_singleton_iff.mp hfindings.symm
    obtain rfl := Finding.frame.inj hframe
    subst hone
    obtain ⟨hqueue, hkept⟩ := h.deliver hconfig hpeer hacceptable hdrained
      ⟨later, hsends, hrest⟩ hhandled
    have hsent : ⟨header, (e.taking (time w.app) taken).openPacket.reception.region.payload⟩ ∈
        sends theirs := by
      rw [hsends]
      exact List.mem_append_right _ List.mem_cons_self
    rw [← hdrained.noted] at hK
    have hdelivered := hlasting.deliver (e := e) (w := w₁)
      (e.taking (time w.app) taken).toStation rfl rfl rfl hsent hK
    exact ⟨hqueue ▸ hless, hkept, hhandled ▸ hdelivered⟩

/-- After a poll that is given turns enough, nothing is held of a packet that is under way. -/
theorem Listening.poll (hconfig : config.fault? = none) (hpeer : peer.fault? = none)
    (hlasting : Lasting time x theirs K)
    (h : Listening time x config peer theirs e w) (hK : K e (w.noted x))
    (hacceptable : ∀ frame ∈ sends theirs, Acceptable config peer frame) {fuel : Nat}
    (hfuel : (w.toward x).queue.octets.length < fuel) :
    ∃ packets e' w', e.poll (Wire.environment (still time) x) fuel w = (.done packets, e', w') ∧
      e'.reception.filled = 0 ∧ Listening time x config peer theirs e' w' ∧
      K e' (w'.noted x) := by
  let I (e : Endpoint (Wire σ)) (w : Wire σ) : Prop :=
    Listening time x config peer theirs e w ∧ K e (w.noted x)
  have hturn {e : Endpoint (Wire σ)} {w : Wire σ} (hready : (w.toward x).available ≠ 0)
      (h : I e w) :
      ∃ result : Nat × Endpoint (Wire σ) × Wire σ,
        e.turn (Wire.environment (still time) x) w = (.received result.1, result.2) ∧
        (result.2.2.toward x).queue.octets.length < (w.toward x).queue.octets.length ∧
        I result.2.1 result.2.2 :=
    h.1.turn hconfig hpeer hlasting h.2 hacceptable hready
  obtain ⟨_, packets, e', w', hpoll, hzero, hkept, hlast⟩ :=
    @Receiving.poll_wire _ (still time) x config e w h.receiving (fun _ _ ↦ I)
      (fun hready h ↦ hturn hready h) fuel hfuel ⟨h, hK⟩
  refine ⟨packets, e', w', hpoll, ?_, hkept, hlast⟩
  -- with something held the pipe is not capped shut, so it is empty and a whole packet is held
  by_contra hfilled
  have hempty : (w'.toward x).queue.octets = [] :=
    ((w'.toward x).available_eq_zero_iff.mp hzero).resolve_right
      (hkept.flowing (Nat.pos_of_ne_zero hfilled))
  obtain ⟨frames, hsends, hoctets⟩ := hkept.arriving
  rw [hempty, List.append_nil] at hoctets
  have hnone : Scan.next? config.maxDeclared config.integrity e'.reception.held = none :=
    hkept.receiving.sound.next?_held hkept.receiving.wanted
  cases frames with
  | nil => exact hfilled (hkept.receiving.sound.length_held ▸ congrArg List.length hoctets)
  | cons frame later =>
    have hsent := hacceptable frame (hsends ▸ List.mem_append_right _ List.mem_cons_self)
    rw [hoctets, List.flatMap_cons, Scan.next?_wire_append hsent.length hsent.limit] at hnone
    exact nomatch hnone

end Endpoint

end FramedLink
