import FramedLink.Proofs.Handling.Course
import FramedLink.Proofs.Handling.Reading

/-!
# Fan-out

A packet is handed to every handler of its type, the newest first. `FannedOut` says all that there
is to it: which handlers are called and in which order, what each of them reads, what becomes of the
registrations that they make, what is counted, and that none of them gets a poll through. It holds
of every packet that is handed over in any run (`Course.packets_fanned_out`).
-/

namespace FramedLink

variable {ω : Type}

/-- What is counted of packets that are handed over. -/
def Counters.handovers (counters : Counters) : Nat × Nat × Nat :=
  (counters.framesDispatched, counters.handlerErrors, counters.framesUnhandled)

namespace Endpoint

variable {env : Environment ω} {c : Conduct ω} {config : Config} {header : Header}
variable {e e' : Endpoint ω} {w w' : ω} {polls : List (Polled ω)}

theorem handovers_send (type id : UInt8) (size : Nat) :
    (e.send env type id size w).2.1.counters.handovers = e.counters.handovers := by
  have h : Attempt env type id size e w (e.send env type id size w) := attempt_send type id size
  generalize e.send env type id size w = result at h ⊢
  cases h <;> rfl

theorem handovers_sendDescription (type id : UInt8) :
    (e.sendDescription env type id w).2.1.counters.handovers = e.counters.handovers := by
  unfold sendDescription
  split
  · exact handovers_send type id _
  · rfl

theorem Relinks.handovers (h : e.Relinks e') :
    e'.counters.handovers = e.counters.handovers := by
  obtain ⟨_, _, _, _, rfl⟩ := h
  rfl

/-- Handlers have no part in the counting of packets. -/
theorem upheld_handovers (counted : Nat × Nat × Nat) :
    Upheld env c header fun e _ ↦ e.counters.handovers = counted where
  change _ h := h
  cursor _ h := h
  incoming _ h := h
  outgoing _ h := h
  send _ h := (handovers_send _ _ _).trans h
  describe _ _ h := (handovers_sendDescription _ _).trans h
  now h := h
  silent _ _ h := h
  schedule _ _ h := h
  disconnect _ h := relinks_disconnect.handovers.trans h
  request _ _ _ h := (relinks_recordPeer _ _).handovers.trans h
  response _ _ _ h := (relinks_acceptResponse _).handovers.trans h
  failed _ h := h
  handlers _ _ h := h
  resetCallback _ h := h
  linkCallback _ h := h
  available _ h := h
  read _ h := h
  write _ h := h

/-- The endpoint with which a round begins: the payload of the packet is open, no poll gets through,
and new registrations are kept apart. -/
def handing (e : Endpoint ω) : Endpoint ω :=
  { e with toStation := { e.openPacket with dispatching := true }, handlers := [] }

/-- The endpoint that is handed a packet keeps within the conduct. -/
theorem Within.received (hwithin : e.Within c) (s : Station) :
    ({ e with toStation := s } : Endpoint ω).handing.Within c :=
  ⟨fun _ hmem ↦ (nomatch hmem), hwithin.resetCallbacks, hwithin.linkCallbacks⟩

/-- How a sound packet that is complete is handed to the handlers of its type. `e` and `w` are what
it finds, `e'` and `w'` what it leaves, and between them lie the runs of the handlers. -/
structure FannedOut (env : Environment ω) (header : Header) (e : Endpoint ω) (w : ω)
    (invocations : List (Invocation ω)) (e' : Endpoint ω) (w' : ω) : Prop where
  /-- Every handler of the type is called once, the newest first. -/
  called : invocations.map Invocation.registration =
    (e.handlers.filter (·.type == header.type)).reverse
  /-- Each goes on from what the one before has left, whether that has failed or not. -/
  chained : ∃ (last : Endpoint ω) (left : ω),
    Chained env header e.handing
      (env.note (.dispatching header (e.reception.body.drop headerSize)) w) invocations last left ∧
    w' = if invocations = [] then env.note (.unhandled header.type) left else left
  /-- Each begins at the first octet of the payload, and reads the payload and nothing else. -/
  served : e.Within .reading → ∀ invocation ∈ invocations,
    invocation.endpoint.reception.region.Shows (e.reception.body.drop headerSize) 0 ∧
    ∀ first ∈ invocation.start? header, ∀ moment, first.Comes env moment →
      ∃ position,
        moment.endpoint.reception.region.Shows (e.reception.body.drop headerSize) position ∧
        ∀ op next, moment.program = .ask (.incoming op) next → ∃ later,
          Incoming.Serves (e.reception.body.drop headerSize) position op
            (moment.endpoint.reception.region.perform op).1 later
  /-- What they register comes behind everything older, in the order made. -/
  registered : e'.handlers =
    e.handlers ++ invocations.flatMap (Invocation.registrations env header)
  /-- The packet is counted, and so is every failure, or that there was no handler. -/
  counted : e'.counters.handovers =
    (e.counters.framesDispatched + 1,
      e.counters.handlerErrors + invocations.countP (Invocation.failed env header),
      e.counters.framesUnhandled + if invocations = [] then 1 else 0)
  /-- No handler gets a poll through. -/
  reentrant : ∀ invocation ∈ invocations, ∀ first ∈ invocation.start? header,
    ∀ moment, first.Comes env moment →
      (∀ fuel, moment.endpoint.poll env fuel moment.surroundings =
        (.failed .reentrant, moment.endpoint, moment.surroundings)) ∧
      moment.endpoint.perform env moment.surroundings .poll =
        (.error .reentrant, moment.endpoint, moment.surroundings)

theorem poll_of_dispatching (h : e.dispatching = true) (fuel : Nat) (w : ω) :
    e.poll env fuel w = (.failed .reentrant, e, w) ∧
      e.perform env w .poll = (.error .reentrant, e, w) := by
  have hrefused : e.admitPoll = .error .reentrant := by
    rw [admitPoll, h]
    rfl
  constructor
  · rw [poll, hrefused]
  · rw [perform, hrefused]
    rfl

/-- The handlers that are called were registered for the type of the packet. -/
theorem mem_of_called {invocations : List (Invocation ω)} {handlers : List (Registration ω)}
    (hcalled : invocations.map Invocation.registration =
      (handlers.filter (·.type == header.type)).reverse) {invocation : Invocation ω}
    (hmem : invocation ∈ invocations) :
    invocation.registration ∈ handlers ∧ invocation.registration.type = header.type := by
  have hregistration : invocation.registration ∈ invocations.map Invocation.registration :=
    List.mem_map_of_mem hmem
  rw [hcalled, List.mem_reverse, List.mem_filter, beq_iff_eq] at hregistration
  exact hregistration

/-- The handlers that are called keep within a conduct that all handlers of their type do. -/
theorem within_of_called {invocations : List (Invocation ω)} {handlers : List (Registration ω)}
    (hcalled : invocations.map Invocation.registration =
      (handlers.filter (·.type == header.type)).reverse)
    (hwithin : ∀ registration ∈ handlers, registration.type = header.type →
      registration.Within c) :
    ∀ invocation ∈ invocations,
      invocation.registration.Within c ∧ invocation.registration.type = header.type := by
  intro invocation hmem
  obtain ⟨hregistered, htype⟩ := mem_of_called hcalled hmem
  exact ⟨hwithin _ hregistered htype, htype⟩

/-- What every handler of a packet is given to read. -/
theorem shows_of_chained {invocations : List (Invocation ω)} {payload : Bytes}
    {last : Endpoint ω} {left : ω} (hshows : e.reception.region.Shows payload 0)
    (hchained : Chained env header e w invocations last left)
    (hall : ∀ invocation ∈ invocations,
      invocation.registration.Within .reading ∧ invocation.registration.type = header.type)
    (hwithin : e.Within .reading) {invocation : Invocation ω} (hmem : invocation ∈ invocations) :
    invocation.endpoint.reception.region.Shows payload 0 := by
  obtain ⟨hcalled, -⟩ := (upheld_region e.reception.region).chained hchained hall hwithin
    ⟨e.reception.region.cursor, rfl⟩
  obtain ⟨before, hstart, -, cursor, hregion⟩ := hcalled invocation hmem
  have hback : invocation.endpoint.reception.region =
      { e.reception.region with cursor := headerSize } := by
    rw [hstart, withCursor, hregion]
  rw [hback]
  exact hshows.moved (Nat.zero_le _)

/-- All that a handler of the application asks of the region is answered from the payload. -/
theorem serves_of_comes {first moment : Moment ω} {payload : Bytes}
    (hcomes : first.Comes env moment) (hprogram : first.program.Within .reading)
    (hshows : first.endpoint.reception.region.Shows payload 0) :
    ∃ position, moment.endpoint.reception.region.Shows payload position ∧
      ∀ op next, moment.program = .ask (.incoming op) next → ∃ later,
        Incoming.Serves payload position op
          (moment.endpoint.reception.region.perform op).1 later := by
  obtain ⟨⟨position, hopen⟩, hrest⟩ := hcomes.shows hprogram hshows
  refine ⟨position, hopen, ?_⟩
  intro op next hasks
  rw [hasks] at hrest
  obtain ⟨later, hserves, -⟩ := hopen.perform (hrest.1 op rfl)
  exact ⟨later, hserves⟩

/-- To hand a sound packet over is to run the handlers of its type one after the other, and to count
it. -/
theorem chained_deliver (hsound : e.judgePacket = .deliver header) :
    ∃ (invocations : List (Invocation ω)) (last : Endpoint ω) (left : ω),
      Chained env header e.handing
        (env.note (.dispatching header (e.reception.body.drop headerSize)) w) invocations last
        left ∧
      invocations.map Invocation.registration =
        (e.handlers.filter (·.type == header.type)).reverse ∧
      e.deliver env header w =
        ({ last with
            toStation := { last.toStation with
              counters := countRound last.counters
                ⟨invocations.length, invocations.countP (Invocation.failed env header)⟩
              dispatching := false }.clearReception
            handlers := e.handlers ++ last.handlers },
          if invocations = [] then env.note (.unhandled header.type) left else left) := by
  let opened : Endpoint ω := { e with toStation := e.openPacket }
  obtain ⟨invocations, last, left, hchained, hcalled, hround⟩ :=
    chained_runRound env header e.handlers.reverse {} e.handing
      (env.note (.dispatching header opened.reception.region.payload) w)
  have hpayload : opened.reception.region.payload = e.reception.body.drop headerSize :=
    (Station.shows_openPacket hsound).payload_eq
  have hround' : runRound env header opened.handlers.reverse {}
      { opened with handlers := [], dispatching := true }
      (env.note (.dispatching header opened.reception.region.payload) w) =
      (⟨0 + invocations.length, 0 + invocations.countP (Invocation.failed env header)⟩, last,
        left) := hround
  rw [Nat.zero_add, Nat.zero_add] at hround'
  refine ⟨invocations, last, left, hpayload ▸ hchained, ?_, ?_⟩
  · rw [hcalled, List.filter_reverse]
  · unfold deliver dispatch
    dsimp only
    rw [hround']
    simp only [List.length_eq_zero_iff]

/-- Every sound packet is handed over so. -/
theorem fannedOut_deliver (hsound : e.judgePacket = .deliver header) (hwithin : e.Within .free) :
    ∃ invocations, FannedOut env header e w invocations (e.deliver env header w).1
      (e.deliver env header w).2 := by
  obtain ⟨invocations, last, left, hchained, hcalled, hdeliver⟩ :=
    @chained_deliver ω env header e w hsound
  have hshows : e.handing.reception.region.Shows (e.reception.body.drop headerSize) 0 :=
    Station.shows_openPacket hsound
  have hall {c : Conduct ω} (h : e.Within c) : ∀ invocation ∈ invocations,
      invocation.registration.Within c ∧ invocation.registration.type = header.type :=
    within_of_called hcalled fun registration hmem _ ↦ h.handlers registration hmem
  refine ⟨invocations, ?_⟩
  rw [hdeliver]
  constructor
  case called => exact hcalled
  case chained => exact ⟨last, left, hchained, rfl⟩
  case served =>
    intro hreads invocation hmem
    have hgiven := shows_of_chained hshows hchained (hall hreads) (hreads.received _) hmem
    refine ⟨hgiven, fun first hstart moment hcomes ↦ ?_⟩
    have hprogram := Invocation.within_of_start hstart (hall hreads invocation hmem).1
    obtain ⟨-, hendpoint, -⟩ := @Invocation.result_of_start ω env header _ _ hstart
    exact serves_of_comes hcomes hprogram (hendpoint ▸ hgiven)
  case registered =>
    rw [hchained.handlers]
    rfl
  case counted =>
    have hcounters : last.counters.handovers = e.counters.handovers :=
      ((upheld_handovers e.counters.handovers).chained hchained (hall hwithin)
        (hwithin.received _) rfl).2.1
    simp only [Counters.handovers, Prod.mk.injEq] at hcounters
    obtain ⟨hdispatched, herrors, hunhandled⟩ := hcounters
    simp only [Counters.handovers, countRound, Station.clearReception, hdispatched, herrors,
      hunhandled, List.length_eq_zero_iff]
  case reentrant =>
    intro invocation hmem first hstart moment hcomes
    obtain ⟨-, hendpoint, -⟩ := @Invocation.result_of_start ω env header _ _ hstart
    have hbusy : moment.endpoint.dispatching = true := by
      rw [dispatching_comes hcomes, hendpoint, hchained.dispatching invocation hmem]
      rfl
    exact ⟨fun fuel ↦ (poll_of_dispatching hbusy fuel _).1, (poll_of_dispatching hbusy 0 _).2⟩

end Endpoint

def Turn.packets : Turn → Nat
  | .received packets => packets
  | _ => 0

namespace Endpoint

variable {env : Environment ω} {c : Conduct ω} {config : Config} {header : Header}
variable {e e' : Endpoint ω} {w w' : ω} {polls : List (Polled ω)} {turns packets : Nat}

/-- A turn counts the packets that it hands over. -/
theorem framesDispatched_turn (hwithin : e.Within .free) :
    (e.turn env w).2.1.counters.framesDispatched =
      e.counters.framesDispatched + (e.turn env w).1.packets := by
  have h := turned_turn env e w
  generalize e.turn env w = result at h ⊢
  cases h with
  | quiet outcome s w' hnone hstation _ =>
    obtain ⟨_, _, _, _, _, _, rfl⟩ := hstation
    cases outcome with
    | received packets =>
      rw [hnone packets rfl]
      rfl
    | idle | closed | failed error => rfl
  | delivered header s w' hstation _ hsound =>
    obtain ⟨invocations, hfanned⟩ := @fannedOut_deliver ω env header
      { e with toStation := s } w' hsound (hwithin.of_tables rfl)
    obtain ⟨_, _, _, _, _, _, rfl⟩ := hstation
    exact congrArg Prod.fst hfanned.counted

/-- So do turns one after another. -/
theorem Turns.framesDispatched (h : Turns env e w turns packets e' w') (hwithin : e.Within .free) :
    e'.counters.framesDispatched = e.counters.framesDispatched + packets ∧ e'.Within .free := by
  induction h with
  | none => exact ⟨rfl, hwithin⟩
  | @more turns packets more e₁ e₂ w₁ w₂ _ hturn ih =>
    have hcount := @framesDispatched_turn ω env e₁ w₁ ih.2
    have hstill : (e₁.turn env w₁).2.1.Within .free := within_turn ih.2 w₁
    rw [hturn] at hcount hstill
    refine ⟨?_, hstill⟩
    rw [hcount, ih.1, Nat.add_assoc]
    rfl

/-- A poll counts the packets of its turns, the last of which, unless it ran out of turns, decides
how it ends. -/
theorem poll_path (hidle : e.dispatching = false) (hwithin : e.Within .free) (fuel : Nat) (w : ω) :
    ∃ turns packets last found, Turns env e w turns packets last found ∧
      (e.poll env fuel w).2.1.counters.framesDispatched =
        e.counters.framesDispatched + packets ∧
      (turns = fuel ∧ (e.poll env fuel w).1 = .unfinished packets ∨
        turns < fuel ∧ (∀ more, (last.turn env found).1 ≠ .received more) ∧
          (e.poll env fuel w).1 = (last.turn env found).1.outcome packets) := by
  obtain ⟨turns, packets, last, found, hturns, hends⟩ := pollFrom_ends env fuel 0 e w
  obtain ⟨hcounted, hstill⟩ := hturns.framesDispatched hwithin
  rw [Nat.zero_add] at hends
  refine ⟨turns, packets, last, found, hturns, ?_⟩
  rw [poll_of_idle hidle]
  rcases hends with ⟨hall, hout⟩ | ⟨hless, hlast, hend⟩
  · rw [hout]
    exact ⟨hcounted, .inl ⟨hall, rfl⟩⟩
  · have hnone : (last.turn env found).1.packets = 0 := by
      cases houtcome : (last.turn env found).1 with
      | received more => exact absurd houtcome (hlast more)
      | idle | closed | failed error => rfl
    have hcount := @framesDispatched_turn ω env last found hstill
    rw [hnone, Nat.add_zero, hcounted] at hcount
    rw [hend]
    exact ⟨hcount, .inr ⟨hless, hlast, rfl⟩⟩

/-- A poll that ends well returns the number of packets it has handed over. -/
theorem eq_of_outcome {count : Nat} {outcome : Turn} (h : outcome.outcome count = .done packets) :
    count = packets := by
  cases outcome with
  | idle => exact PollOutcome.done.inj h
  | closed =>
    rw [Turn.outcome] at h
    split at h
    · exact PollOutcome.done.inj h
    · cases h
  | failed error => cases h
  | received more => cases h

def builtins : List (Registration ω) :=
  [⟨MessageType.connectRequest, .answerRequest⟩, ⟨MessageType.connectResponse, .acceptResponse⟩]

/-- Handlers of the application only. -/
def Custom (registrations : List (Registration ω)) : Prop :=
  ∀ registration ∈ registrations, ∃ body, registration.handler = .custom body

theorem custom_registrations (program : Program ω) (e : Endpoint ω) (w : ω) :
    Custom (program.registrations env e w) := by
  induction program generalizing e w with
  | finish outcome => exact fun _ hmem ↦ nomatch hmem
  | ask request next ih => exact ih _ _ _
  | inspect next ih => exact ih _ _ _
  | addHandler type handler next _ ih =>
    intro registration hmem
    rcases List.mem_cons.mp hmem with rfl | hlater
    · exact ⟨handler, rfl⟩
    · exact ih _ _ registration hlater
  | addResetCallback callback next ih => exact ih _ _
  | addLinkCallback callback next ih => exact ih _ _
  | outside step next ih => exact ih _ _ _

theorem Invocation.custom_registrations (invocation : Invocation ω) :
    Custom (invocation.registrations env header) := by
  unfold Invocation.registrations
  cases invocation.start? header with
  | none => exact fun _ hmem ↦ nomatch hmem
  | some moment => exact Endpoint.custom_registrations _ _ _

/-- The handlers of the handshake come before those of the application. -/
def Equipped (e : Endpoint ω) : Prop :=
  ∃ customs, e.handlers = builtins ++ customs ∧ Custom customs

/-- They still do when the application has registered more. -/
theorem Equipped.append (h : e.Equipped) {registrations : List (Registration ω)}
    (hbehind : e'.handlers = e.handlers ++ registrations) (hcustom : Custom registrations) :
    e'.Equipped := by
  obtain ⟨customs, hhandlers, hcustoms⟩ := h
  refine ⟨customs ++ registrations, ?_, ?_⟩
  · rw [hbehind, hhandlers, List.append_assoc]
  · exact List.forall_mem_append.mpr ⟨hcustoms, hcustom⟩

theorem Equipped.turn (h : e.Equipped) (hwithin : e.Within .free) :
    (e.turn env w).2.1.Equipped := by
  apply @turn_keeps ω env e w (fun e' _ ↦ e'.Equipped)
  case hquiet => exact fun _ _ ↦ h
  case hdelivered =>
    intro s w' header hsound hequipped
    obtain ⟨invocations, hfanned⟩ := @fannedOut_deliver ω env header
      { e with toStation := s } w' hsound (hwithin.of_tables rfl)
    apply hequipped.append hfanned.registered
    intro registration hmem
    obtain ⟨invocation, -, hmade⟩ := List.mem_flatMap.mp hmem
    exact Invocation.custom_registrations invocation registration hmade

theorem Course.equipped (h : Course env config c polls e w) : e.Equipped := by
  induction h with
  | created hcreated =>
    obtain ⟨-, id, rfl, -⟩ := created_eq hcreated
    exact ⟨[], rfl, fun _ hmem ↦ nomatch hmem⟩
  | named id _ ih => exact ih
  | @poll polls e w fuel h ih =>
    exact @poll_keeps ω env .free e w (fun e _ ↦ e.Equipped)
      (fun hwithin hkept ↦ hkept.turn hwithin) fuel h.operated.ready.within ih
  | run program _ _ ih => exact ih.append (handlers_run program _ _) (custom_registrations _ _ _)

/-- Every packet that a turn hands over is fanned out. -/
theorem fannedOut_turn (hwithin : e.Within .free)
    (hturn : e.turn env w = (.received packets, e', w')) (hsome : packets ≠ 0) :
    packets = 1 ∧ ∃ header s found invocations, e.toStation.Receives s ∧ env.Passes w found ∧
      s.judgePacket = .deliver header ∧
      FannedOut env header { e with toStation := s } found invocations e' w' := by
  have h := turned_turn env e w
  rw [hturn] at h
  cases h with
  | quiet _ s _ hnone _ _ => exact absurd (hnone packets rfl) hsome
  | delivered header s found hstation hpassed hsound =>
    obtain ⟨invocations, hfanned⟩ := @fannedOut_deliver ω env header
      { e with toStation := s } found hsound (hwithin.of_tables rfl)
    exact ⟨rfl, header, s, found, invocations, hstation, hpassed, hsound, hfanned⟩

/-- The states between the turns of a poll are those of runs with a smaller bound. -/
theorem Course.partway (h : Course env config c polls e w)
    (hturns : Turns env e w turns packets e' w') :
    Course env config c (polls ++ [⟨turns, e, w⟩]) e' w' := by
  have hpolled : e.poll env turns w = (.unfinished (0 + packets), e', w') :=
    (poll_of_idle h.operated.ready.placed.idle turns w).trans (pollFrom_of_turns hturns 0 0)
  have hlater := h.poll turns
  rwa [hpolled] at hlater

/-- In every run, the handlers of the handshake stand first, and what the application registers
behind them in the order made; every turn of every poll hands over one packet at most, which is
fanned out to the handlers that are registered when it is complete; and a poll returns the number of
packets that it has counted. -/
theorem Course.packets_fanned_out (h : Course env config c polls e w) :
    e.Equipped ∧
    (∀ program : Program ω, (program.run env e w).2.1.handlers =
      e.handlers ++ program.registrations env e w) ∧
    (∀ turns before e₁ w₁, Turns env e w turns before e₁ w₁ →
      ∀ packets e₂ w₂, e₁.turn env w₁ = (.received packets, e₂, w₂) → packets ≠ 0 →
        packets = 1 ∧ e₁.Equipped ∧
          ∃ header s found invocations, e₁.toStation.Receives s ∧ env.Passes w₁ found ∧
            s.judgePacket = .deliver header ∧
            FannedOut env header { e₁ with toStation := s } found invocations e₂ w₂) ∧
    ∀ fuel packets, (e.poll env fuel w).1 = .done packets →
      (e.poll env fuel w).2.1.counters.framesDispatched =
        e.counters.framesDispatched + packets := by
  have hwithin : e.Within .free := h.operated.ready.within
  refine ⟨h.equipped, fun program ↦ handlers_run program e w, ?_, ?_⟩
  · intro turns before e₁ w₁ hturns packets e₂ w₂ hturn hsome
    have hlater := h.partway hturns
    obtain ⟨hone, hfanned⟩ := fannedOut_turn hlater.operated.ready.within hturn hsome
    exact ⟨hone, hlater.equipped, hfanned⟩
  · intro fuel packets hdone
    obtain ⟨_, count, last, found, -, hcounted, hend⟩ :=
      @poll_path ω env e h.operated.ready.placed.idle hwithin fuel w
    rw [hcounted]
    rw [hdone] at hend
    rcases hend with ⟨-, hout⟩ | ⟨-, -, hlast⟩
    · cases hout
    · rw [eq_of_outcome hlast.symm]

/-- Two handlers for one packet. The newer one asks for a poll, the older one fails. -/
theorem packets_fanned_out_two :
    let env : Environment (Wire Unit) := Wire.environment (fun app ↦ (0, app)) .near
    let older : Program (Wire Unit) := .finish (.error .registration)
    let newer : Program (Wire Unit) := .ask .poll fun _ ↦ .finish (.ok ())
    let program : Program (Wire Unit) :=
      .addHandler 7 (fun _ ↦ older) (.addHandler 7 (fun _ ↦ newer)
        (.outside ((Wire.pipe .near).modify (Pipe.feed [0x23, 7, 1, 0, 0, 0, 0, 0, 0, 0])) fun _ ↦
          .finish (.ok ())))
    ∃ begun w, create env (.ofSizes 18 18) (.fresh (fun _ ↦ ⟨[], 1⟩) ()) = (.ok begun, w) ∧
      let ran := (program.run env begun w).2
      let polled := ran.1.poll env 3 ran.2
      ran.1.Equipped ∧ polled.1 = .done 1 ∧
        polled.2.1.counters.framesDispatched = ran.1.counters.framesDispatched + 1 ∧
        polled.2.1.counters.handlerErrors = 1 := by
  intro env older newer program
  let begun : Endpoint (Wire Unit) := ofConfig (.ofSizes 18 18) 1
  let w := (create env (.ofSizes 18 18) (.fresh (fun _ ↦ ⟨[], 1⟩) ())).2
  have hcreated : create env (.ofSizes 18 18) (.fresh (fun _ ↦ ⟨[], 1⟩) ()) = (.ok begun, w) := rfl
  have hcourse : Course env (.ofSizes 18 18) .free [] (program.run env begun w).2.1
      (program.run env begun w).2.2 :=
    .run program program.within_free (.created hcreated)
  have hdone : ((program.run env begun w).2.1.poll env 3 (program.run env begun w).2.2).1 =
    .done 1 := by decide +kernel
  obtain ⟨hequipped, -, -, hcounts⟩ := hcourse.packets_fanned_out
  exact ⟨begun, w, hcreated, hequipped, hdone, hcounts 3 1 hdone, by decide +kernel⟩

end Endpoint

end FramedLink
