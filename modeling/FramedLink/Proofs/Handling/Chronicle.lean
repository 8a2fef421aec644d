import FramedLink.Proofs.Handling.Fanout

/-!
# What is done in a run

Some of what happens in a run matters long afterwards: handlers are registered, the connection is
checked, the link is taken down, connect requests and responses are handled. These are the deeds of
a run. Each is recorded with the endpoint and the surroundings with which it began (`Done`), in the
order in which they are done, whether by a program between two polls or by a handler in the middle
of a round (`Program.deeds`, `Invocation.deeds`, `TurnDeeds`).

A `Chronicle` is a run with the packets that it hands over and the deeds done in it; every run has
one (`Course.chronicle`). Whatever else happens leaves the link alone (`Elsewhere`), so that what
holds of a history and survives each deed holds all through a chronicle, and at the beginning of
each deed (`Chronicled.chronicle`).
-/

namespace FramedLink

variable {ω : Type}

/-! ## Deeds -/

/-- Something that is done with an endpoint: its application does it, or a handler of the handshake
that has read a message. -/
inductive Deed (ω : Type) where
  | register (type : UInt8) (body : Header → Program ω)
  | check
  | disconnect
  /-- The peer is taken note of after a connect request. -/
  | answer (id : UInt8) (message : ConnectMessage)
  /-- A connect response is accepted. -/
  | accept (id : UInt8) (message : ConnectMessage)

def Deed.left (env : Environment ω) : Deed ω → Endpoint ω → ω → Endpoint ω × ω
  | .register type body, e, w => (e.addHandler type body, w)
  | .check, e, w => (e.checkConnection env w).2
  | .disconnect, e, w => e.disconnect env w
  | .answer id message, e, w =>
    e.recordPeer env message.connId message.connType (env.note (.requestReceived id message) w)
  | .accept id message, e, w =>
    e.acceptResponse env message (env.note (.responseReceived id message) w)

/-- A deed that was done, and what it began with. -/
structure Done (ω : Type) where
  deed : Deed ω
  endpoint : Endpoint ω
  surroundings : ω

namespace Done

def left (env : Environment ω) (done : Done ω) : Endpoint ω × ω :=
  done.deed.left env done.endpoint done.surroundings

/-- The registration that was made, if it was one. -/
def registration? (done : Done ω) : Option (Registration ω) :=
  match done.deed with
  | .register type body => some ⟨type, .custom body⟩
  | _ => none

end Done

def Request.deed? : Request → Option (Deed ω)
  | .checkConnection => some .check
  | .disconnect => some .disconnect
  | _ => none

def Program.deeds (env : Environment ω) : Program ω → Endpoint ω → ω → List (Done ω)
  | .finish _, _, _ => []
  | .ask request next, e, w =>
    let (answer, e', w') := e.perform env w request
    (request.deed?.toList.map fun deed ↦ ⟨deed, e, w⟩) ++ (next answer).deeds env e' w'
  | .inspect next, e, w => (next e.toStation).deeds env e w
  | .addHandler type handler next, e, w =>
    ⟨.register type handler, e, w⟩ :: next.deeds env (e.addHandler type handler) w
  | .addResetCallback callback next, e, w => next.deeds env (e.addResetCallback callback) w
  | .addLinkCallback callback next, e, w => next.deeds env (e.addLinkCallback callback) w
  | .outside step next, e, w => (next (step w)).deeds env e (step w)

def Moment.deeds (env : Environment ω) (moment : Moment ω) : List (Done ω) :=
  moment.program.deeds env moment.endpoint moment.surroundings

/-- What a handler does, in order. Those of the handshake do what a message says if there is one to
read. -/
def Invocation.deeds (env : Environment ω) (header : Header) (invocation : Invocation ω) :
    List (Done ω) :=
  match invocation.registration.handler with
  | .custom body => (body header).deeds env invocation.endpoint invocation.surroundings
  | .answerRequest =>
    match invocation.endpoint.readMessage with
    | (.ok message, e) => [⟨.answer header.id message, e, invocation.surroundings⟩]
    | (.error _, _) => []
  | .acceptResponse =>
    match invocation.endpoint.readMessage with
    | (.ok message, e) => [⟨.accept header.id message, e, invocation.surroundings⟩]
    | (.error _, _) => []

def Counters.ofLink (counters : Counters) : Nat × Nat × Nat :=
  (counters.peerResets, counters.connects, counters.disconnects)

/-- What becomes of the surroundings without a deed. -/
inductive Environment.Drifts (env : Environment ω) (c : Conduct ω) (w : ω) : ω → Prop where
  | refl : Drifts env c w w
  | change {w' : ω} {step : ω → ω} (hstep : c.changes step) :
      Drifts env c w w' → Drifts env c w (step w')
  | available {w' : ω} : Drifts env c w w' → Drifts env c w (env.channel.available w').2
  | read {w' : ω} (size : Nat) : Drifts env c w w' → Drifts env c w (env.channel.read size w').2
  | write {w' : ω} (octets : Bytes) :
      Drifts env c w w' → Drifts env c w (env.channel.write octets w').2
  | now {w' : ω} : Drifts env c w w' → Drifts env c w (env.now w').2
  | note {w' : ω} (event : Event) : Drifts env c w w' → Drifts env c w (env.note event w')

/-- What receiving does with the surroundings is of this kind. -/
theorem Environment.Passes.drifts {env : Environment ω} {c : Conduct ω} {w w' : ω}
    (h : env.Passes w w') : env.Drifts c w w' := by
  induction h with
  | refl => exact .refl
  | available _ ih => exact ih.available
  | read size _ ih => exact ih.read size
  | now _ ih => exact ih.now
  | note _ _ ih => exact ih.note _

namespace Endpoint

variable {env : Environment ω} {c : Conduct ω} {e e' : Endpoint ω} {w w' : ω}

/-- A change of an endpoint that is no deed: the link is as it was, and at most there are more
callbacks. -/
structure Elsewhere (c : Conduct ω) (e e' : Endpoint ω) : Prop where
  config : e'.config = e.config
  link : e'.link = e.link
  counters : e'.counters.ofLink = e.counters.ofLink
  room : e'.outgoing.region.size = e.outgoing.region.size
  resets : ∃ more, e'.resetCallbacks = e.resetCallbacks ++ more ∧
    ∀ callback ∈ more, c.changes callback
  links : ∃ more, e'.linkCallbacks = e.linkCallbacks ++ more ∧
    ∀ callback ∈ more, ∀ event, c.changes (callback event)

theorem Elsewhere.of_eq (hconfig : e'.config = e.config) (hlink : e'.link = e.link)
    (hcounters : e'.counters.ofLink = e.counters.ofLink)
    (hroom : e'.outgoing.region.size = e.outgoing.region.size)
    (hresets : e'.resetCallbacks = e.resetCallbacks) (hlinks : e'.linkCallbacks = e.linkCallbacks) :
    e.Elsewhere c e' where
  config := hconfig
  link := hlink
  counters := hcounters
  room := hroom
  resets := ⟨[], by rw [hresets, List.append_nil], fun _ hmem ↦ nomatch hmem⟩
  links := ⟨[], by rw [hlinks, List.append_nil], fun _ hmem ↦ nomatch hmem⟩

@[refl]
theorem Elsewhere.refl (e : Endpoint ω) : e.Elsewhere c e :=
  .of_eq rfl rfl rfl rfl rfl rfl

theorem elsewhere_receives {s : Station} (h : e.toStation.Receives s) :
    e.Elsewhere c { e with toStation := s } := by
  obtain ⟨_, _, _, _, _, _, rfl⟩ := h
  exact .of_eq rfl rfl rfl rfl rfl rfl

theorem elsewhere_send (type id : UInt8) (size : Nat) :
    e.Elsewhere c (e.send env type id size w).2.1 ∧
      env.Drifts c w (e.send env type id size w).2.2 := by
  have h : Attempt env type id size e w (e.send env type id size w) := attempt_send type id size
  generalize e.send env type id size w = result at h ⊢
  cases h with
  | refused error => exact ⟨.of_eq rfl rfl rfl rfl rfl rfl, .refl⟩
  | cut frame sealed error hsealed _ =>
    have hsize : sealed.region.size = e.outgoing.region.size := Outgoing.size_of_sealFrame hsealed
    exact ⟨.of_eq rfl rfl rfl hsize rfl rfl, .write _ .refl⟩
  | sent frame sealed _ hsealed =>
    have hsize : sealed.region.size = e.outgoing.region.size := Outgoing.size_of_sealFrame hsealed
    exact ⟨.of_eq rfl rfl rfl hsize rfl rfl, .note _ (.write _ .refl)⟩

end Endpoint

theorem Outgoing.size_writeAll (out : Outgoing) (fields : List Field) :
    (out.writeAll fields).2.region.size = out.region.size := by
  induction fields generalizing out with
  | nil => rfl
  | cons field fields ih =>
    have hsize := out.size_perform (.write field)
    unfold writeAll
    cases hwritten : out.write field with
    | error error => rfl
    | ok next =>
      simp only [perform, hwritten] at hsize
      exact (ih next).trans hsize

namespace Endpoint

variable {env : Environment ω} {c : Conduct ω} {e e' : Endpoint ω} {w w' : ω}

theorem Elsewhere.room_trans {outgoing : Outgoing}
    (hroom : outgoing.region.size = e.outgoing.region.size)
    (h : Elsewhere c { e with outgoing } e') : e.Elsewhere c e' :=
  ⟨h.config, h.link, h.counters, h.room.trans hroom, h.resets, h.links⟩

theorem elsewhere_sendDescription (type id : UInt8) :
    e.Elsewhere c (e.sendDescription env type id w).2.1 ∧
      env.Drifts c w (e.sendDescription env type id w).2.2 := by
  have hsize : (e.description.write e.outgoing.reset).2.region.size = e.outgoing.region.size :=
    Outgoing.size_writeAll _ _
  unfold sendDescription
  split
  case h_1 outgoing hwritten =>
    rw [hwritten] at hsize
    obtain ⟨hsent, hdrift⟩ := @elsewhere_send ω env c { e with outgoing } w type id
      outgoing.payloadSize
    exact ⟨hsent.room_trans hsize, hdrift⟩
  case h_2 outgoing hwritten =>
    rw [hwritten] at hsize
    exact ⟨.of_eq rfl rfl rfl hsize rfl rfl, .refl⟩

theorem perform_cases (c : Conduct ω) (request : Request) :
    (∃ deed, request.deed? = some deed ∧ (e.perform env w request).2 = deed.left env e w) ∨
      (request.deed? : Option (Deed ω)) = none ∧
        e.Elsewhere c (e.perform env w request).2.1 ∧
        env.Drifts c w (e.perform env w request).2.2 := by
  cases request with
  | checkConnection => exact .inl ⟨_, rfl, rfl⟩
  | disconnect => exact .inl ⟨_, rfl, rfl⟩
  | incoming op => exact .inr ⟨rfl, .of_eq rfl rfl rfl rfl rfl rfl, .refl⟩
  | outgoing op =>
    exact .inr ⟨rfl, .of_eq rfl rfl rfl (Outgoing.size_perform _ op) rfl rfl, .refl⟩
  | send type id size => exact .inr ⟨rfl, elsewhere_send type id size⟩
  | sendWritten type id => exact .inr ⟨rfl, elsewhere_send type id _⟩
  | requestConnection id => exact .inr ⟨rfl, elsewhere_sendDescription _ id⟩
  | poll => exact .inr ⟨rfl, .refl e, .refl⟩
  | handlerCount type => exact .inr ⟨rfl, .refl e, .refl⟩
  | channelAvailable => exact .inr ⟨rfl, .refl e, .available .refl⟩
  | channelRead size => exact .inr ⟨rfl, .refl e, .read size .refl⟩
  | channelWrite octets => exact .inr ⟨rfl, .refl e, .write octets .refl⟩

/-! ## Chronicles -/

/-- A turn completes a packet and hands it over. It finds the packet in the state `s` of the
endpoint and `found` of the surroundings, the handlers run one after the other, and the last of them
leaves `last` and `left`. -/
structure Handed (env : Environment ω) (e : Endpoint ω) (w : ω) (header : Header) (s : Station)
    (found : ω) (invocations : List (Invocation ω)) (last : Endpoint ω) (left : ω) : Prop where
  station : e.toStation.Receives s
  passed : env.Passes w found
  sound : s.judgePacket = .deliver header
  called : invocations.map Invocation.registration =
    (e.handlers.filter (·.type == header.type)).reverse
  chained : Chained env header ({ e with toStation := s } : Endpoint ω).handing
    (env.note (.dispatching header (s.reception.body.drop headerSize)) found) invocations last left
  turn : e.turn env w = (.received 1,
    { last with
      toStation := { last.toStation with
        counters := countRound last.counters
          ⟨invocations.length, invocations.countP (Invocation.failed env header)⟩
        dispatching := false }.clearReception
      handlers := e.handlers ++ last.handlers },
    if invocations = [] then env.note (.unhandled header.type) left else left)

/-- The packet that a turn hands over, if it hands one over, and what is done meanwhile. -/
inductive TurnDeeds (env : Environment ω) (e : Endpoint ω) (w : ω) :
    List Frame → List (Done ω) → Prop where
  | quiet (outcome : Turn) (s : Station) (w' : ω) (hnone : outcome.packets = 0)
      (hstation : e.toStation.Receives s) (hpassed : env.Passes w w')
      (hturn : e.turn env w = (outcome, { e with toStation := s }, w')) : TurnDeeds env e w [] []
  | handed {header : Header} {s : Station} {found : ω} {invocations : List (Invocation ω)}
      {last : Endpoint ω} {left : ω}
      (hhanded : Handed env e w header s found invocations last left) :
      TurnDeeds env e w [⟨header, s.reception.body.drop headerSize⟩]
        (invocations.flatMap (Invocation.deeds env header))

theorem exists_turnDeeds (env : Environment ω) (e : Endpoint ω) (w : ω) :
    ∃ packets deeds, TurnDeeds env e w packets deeds := by
  have h := turned_turn env e w
  rcases hturn : e.turn env w with ⟨outcome, e', w'⟩
  rw [hturn] at h
  cases h with
  | quiet _ s _ hnone hstation hpassed =>
    refine ⟨[], [], .quiet outcome s w' ?_ hstation hpassed hturn⟩
    cases outcome with
    | received packets => exact hnone packets rfl
    | idle | closed | failed error => rfl
  | delivered header s found hstation hpassed hsound =>
    obtain ⟨invocations, last, left, hchained, hcalled, hdeliver⟩ :=
      @chained_deliver ω env header { e with toStation := s } found hsound
    exact ⟨_, _, .handed ⟨hstation, hpassed, hsound, hcalled, hchained,
      hturn.trans (congrArg (Prod.mk (Turn.received 1)) hdeliver)⟩⟩

/-- A run from some beginning, with the packets that it hands over and what is done in it, oldest
first. Polls are told turn by turn. -/
inductive Chronicle (env : Environment ω) (c : Conduct ω) (first : Endpoint ω) (begun : ω) :
    List Frame → List (Done ω) → Endpoint ω → ω → Prop where
  | start : Chronicle env c first begun [] [] first begun
  | named {packets : List Frame} {deeds : List (Done ω)} {e : Endpoint ω} {w : ω} (id : UInt32) :
    Chronicle env c first begun packets deeds e w →
      Chronicle env c first begun packets deeds (e.withLocalId id) w
  | run {packets : List Frame} {deeds : List (Done ω)} {e : Endpoint ω} {w : ω}
    (program : Program ω) (hprogram : program.Within c) :
    Chronicle env c first begun packets deeds e w →
      Chronicle env c first begun packets (deeds ++ program.deeds env e w)
        (program.run env e w).2.1 (program.run env e w).2.2
  | turn {packets morePackets : List Frame} {deeds more : List (Done ω)} {e : Endpoint ω} {w : ω}
    (hturn : TurnDeeds env e w morePackets more) :
    Chronicle env c first begun packets deeds e w →
      Chronicle env c first begun (packets ++ morePackets) (deeds ++ more)
        (e.turn env w).2.1 (e.turn env w).2.2

variable {first : Endpoint ω} {begun : ω} {packets : List Frame} {deeds : List (Done ω)}
variable {config : Config} {polls : List (Polled ω)}

theorem Chronicle.turns {turns handed : Nat} (h : Chronicle env c first begun packets deeds e w)
    (hturns : Turns env e w turns handed e' w') :
    ∃ morePackets more, Chronicle env c first begun (packets ++ morePackets) (deeds ++ more)
      e' w' := by
  induction hturns with
  | none => exact ⟨[], [], by rwa [List.append_nil, List.append_nil]⟩
  | @more _ _ _ e₁ _ w₁ _ _ hturn ih =>
    obtain ⟨earlierPackets, earlier, htold⟩ := ih
    obtain ⟨laterPackets, later, hdeeds⟩ := exists_turnDeeds env e₁ w₁
    have hlater := htold.turn hdeeds
    rw [hturn, List.append_assoc, List.append_assoc] at hlater
    exact ⟨_, _, hlater⟩

theorem Chronicle.poll (h : Chronicle env c first begun packets deeds e w) (fuel : Nat) :
    ∃ morePackets more, Chronicle env c first begun (packets ++ morePackets) (deeds ++ more)
      (e.poll env fuel w).2.1 (e.poll env fuel w).2.2 := by
  unfold Endpoint.poll
  split
  · exact ⟨[], [], by rwa [List.append_nil, List.append_nil]⟩
  · obtain ⟨turns, handed, last, left, hturns, ⟨-, hends⟩ | ⟨-, -, hends⟩⟩ :=
      pollFrom_ends env fuel 0 e w
    · rw [hends]
      exact h.turns hturns
    · rw [hends]
      obtain ⟨morePackets, more, htold⟩ := h.turns hturns
      obtain ⟨lastPackets, later, hdeeds⟩ := exists_turnDeeds env last left
      have hlater := htold.turn hdeeds
      rw [List.append_assoc, List.append_assoc] at hlater
      exact ⟨_, _, hlater⟩

theorem Course.chronicle (h : Course env config c polls e w) :
    ∃ created first begun packets deeds, create env config created = (.ok first, begun) ∧
      Chronicle env c first begun packets deeds e w := by
  induction h with
  | created hcreated => exact ⟨_, _, _, [], [], hcreated, .start⟩
  | named id _ ih =>
    obtain ⟨_, _, _, _, _, hcreated, htold⟩ := ih
    exact ⟨_, _, _, _, _, hcreated, htold.named id⟩
  | poll fuel _ ih =>
    obtain ⟨_, _, _, _, _, hcreated, htold⟩ := ih
    obtain ⟨_, _, hlater⟩ := htold.poll fuel
    exact ⟨_, _, _, _, _, hcreated, hlater⟩
  | run program hprogram _ ih =>
    obtain ⟨_, _, _, _, _, hcreated, htold⟩ := ih
    exact ⟨_, _, _, _, _, hcreated, htold.run program hprogram⟩

def Enlists (c : Conduct ω) (e : Endpoint ω) : Prop :=
  ∀ registration ∈ e.handlers, registration.Within c

theorem handlers_created (hcreated : create env config w = (.ok e, w')) :
    e.handlers = builtins := by
  obtain ⟨-, id, rfl, -⟩ := created_eq hcreated
  rfl

theorem enlists_builtins (hhandlers : e.handlers = builtins) : e.Enlists c := by
  rw [Enlists, hhandlers]
  exact (within_ofConfig c {} 0).handlers

theorem Enlists.append {registrations : List (Registration ω)} (h : e.Enlists c)
    (hbehind : e'.handlers = e.handlers ++ registrations)
    (hall : ∀ registration ∈ registrations, registration.Within c) : e'.Enlists c := by
  rw [Enlists, hbehind, List.forall_mem_append]
  exact ⟨h, hall⟩

/-- Programs within a conduct register handlers within it. -/
theorem within_registrations {program : Program ω} (hprogram : program.Within c) (e : Endpoint ω)
    (w : ω) : ∀ registration ∈ program.registrations env e w, registration.Within c := by
  induction program generalizing e w with
  | finish outcome => exact fun _ hmem ↦ nomatch hmem
  | ask request next ih => exact ih _ (hprogram.2 _) _ _
  | inspect next ih => exact ih _ (hprogram _) _ _
  | addHandler type handler next _ ih =>
    exact List.forall_mem_cons.mpr ⟨hprogram.1, ih hprogram.2 _ _⟩
  | addResetCallback callback next ih => exact ih hprogram.2 _ _
  | addLinkCallback callback next ih => exact ih hprogram.2 _ _
  | outside step next ih => exact ih _ (hprogram.2 _) _ _

theorem within_registrations_invocation {header : Header} {invocation : Invocation ω}
    (h : invocation.registration.Within c) :
    ∀ registration ∈ invocation.registrations env header, registration.Within c := by
  unfold Invocation.registrations
  cases hstart : invocation.start? header with
  | none => exact fun _ hmem ↦ nomatch hmem
  | some moment => exact within_registrations (Invocation.within_of_start hstart h) _ _

/-- A packet is handed to handlers that the endpoint has, and what they register comes behind. -/
theorem Handed.enlists {header : Header} {s : Station} {found : ω}
    {invocations : List (Invocation ω)} {last : Endpoint ω} {left : ω}
    (h : Handed env e w header s found invocations last left) (hall : e.Enlists c) :
    (∀ invocation ∈ invocations, invocation.registration.Within c) ∧
      (e.turn env w).2.1.Enlists c := by
  have hinvoked : ∀ invocation ∈ invocations, invocation.registration.Within c :=
    fun invocation hmem ↦ hall _ (mem_of_called h.called hmem).1
  have hbehind : (e.turn env w).2.1.handlers = e.handlers ++ last.handlers := by rw [h.turn]
  refine ⟨hinvoked, hall.append hbehind ?_⟩
  rw [h.chained.handlers]
  intro registration hmem
  obtain ⟨invocation, hmem, hmade⟩ := List.mem_flatMap.mp hmem
  exact within_registrations_invocation (hinvoked invocation hmem) registration hmade

theorem TurnDeeds.enlists (h : TurnDeeds env e w packets deeds) (hall : e.Enlists c) :
    (e.turn env w).2.1.Enlists c := by
  cases h with
  | quiet outcome s w' _ _ _ hturn =>
    rw [hturn]
    exact hall
  | handed hhanded => exact (hhanded.enlists hall).2

/-! ## Invariants of histories -/

/-- What an invariant of histories has to survive so that it survives every run: whatever leaves the
link alone, each deed, and a new id. -/
structure Chronicled (env : Environment ω) (c : Conduct ω)
    (I : List (Done ω) → Endpoint ω → ω → Prop) : Prop where
  elsewhere {deeds : List (Done ω)} {e e' : Endpoint ω} {w w' : ω} :
    I deeds e w → e.Elsewhere c e' → env.Drifts c w w' → I deeds e' w'
  done {deeds : List (Done ω)} {e : Endpoint ω} {w : ω} (deed : Deed ω) : I deeds e w →
    I (deeds ++ [⟨deed, e, w⟩]) (deed.left env e w).1 (deed.left env e w).2
  named {deeds : List (Done ω)} {e : Endpoint ω} {w : ω} (id : UInt32) : I deeds e w →
    I deeds (e.withLocalId id) w

namespace Chronicled

variable {I : List (Done ω) → Endpoint ω → ω → Prop} {header : Header}

theorem perform (hI : Chronicled env c I) (request : Request) (h : I deeds e w) :
    I (deeds ++ request.deed?.toList.map fun deed ↦ ⟨deed, e, w⟩) (e.perform env w request).2.1
      (e.perform env w request).2.2 := by
  obtain ⟨deed, hdeed, hleft⟩ | ⟨hnone, hsame, hdrift⟩ := @perform_cases ω env e w c request
  · rw [hdeed, hleft]
    exact hI.done deed h
  · rw [hnone, Option.toList_none, List.map_nil, List.append_nil]
    exact hI.elsewhere h hsame hdrift

theorem run (hI : Chronicled env c I) {program : Program ω} (hprogram : program.Within c)
    (h : I deeds e w) :
    I (deeds ++ program.deeds env e w) (program.run env e w).2.1 (program.run env e w).2.2 := by
  induction program generalizing deeds e w with
  | finish outcome =>
    rw [Program.deeds, List.append_nil]
    exact h
  | ask request next ih =>
    rw [Program.deeds, ← List.append_assoc]
    exact ih _ (hprogram.2 _) (hI.perform request h)
  | inspect next ih => exact ih _ (hprogram _) h
  | addHandler type handler next _ ih =>
    rw [Program.deeds, List.append_cons]
    exact ih hprogram.2 (hI.done (.register type handler) h)
  | addResetCallback callback next ih =>
    refine ih hprogram.2 (hI.elsewhere h ⟨rfl, rfl, rfl, rfl, ⟨[callback], rfl, ?_⟩,
      (Elsewhere.refl e).links⟩ .refl)
    exact List.forall_mem_singleton.mpr hprogram.1
  | addLinkCallback callback next ih =>
    refine ih hprogram.2 (hI.elsewhere h ⟨rfl, rfl, rfl, rfl, (Elsewhere.refl e).resets,
      ⟨[callback], rfl, ?_⟩⟩ .refl)
    exact List.forall_mem_singleton.mpr hprogram.1
  | outside step next ih =>
    exact ih _ (hprogram.2 _) (hI.elsewhere h (.refl e) (.change hprogram.1 .refl))

theorem invocation (hI : Chronicled env c I) {invocation : Invocation ω}
    (hwithin : invocation.registration.Within c)
    (h : I deeds invocation.endpoint invocation.surroundings) :
    I (deeds ++ invocation.deeds env header) (invocation.left env header).1
      (invocation.left env header).2 := by
  -- A failure is noted, and that is all that `left` adds to `result`.
  have hleft (hran : I (deeds ++ invocation.deeds env header) (invocation.result env header).2.1
      (invocation.result env header).2.2) :
      I (deeds ++ invocation.deeds env header) (invocation.left env header).1
        (invocation.left env header).2 := by
    unfold Invocation.left
    split
    case h_1 hresult => rwa [hresult] at hran
    case h_2 hresult =>
      rw [hresult] at hran
      exact hI.elsewhere hran (.refl _) (.note _ .refl)
  apply hleft
  obtain ⟨⟨type, handler⟩, e, w⟩ := invocation
  obtain ⟨cursor, hread⟩ := e.readMessage_eq
  have hmoved : I deeds (e.withCursor cursor) w :=
    hI.elsewhere h (.of_eq rfl rfl rfl rfl rfl rfl) .refl
  cases handler with
  | custom body => exact hI.run (hwithin header) h
  | answerRequest =>
    simp only [Invocation.deeds, Invocation.result, runHandler, hread]
    cases (ConnectMessage.read e.reception.region).1 with
    | error error =>
      rw [Except.mapError, List.append_nil]
      exact hmoved
    | ok message =>
      obtain ⟨hsent, hdrift⟩ :=
        @elsewhere_sendDescription ω env c _ _ MessageType.connectResponse 0
      exact hI.elsewhere (hI.done (.answer header.id message) hmoved) hsent hdrift
  | acceptResponse =>
    simp only [Invocation.deeds, Invocation.result, runHandler, hread]
    cases (ConnectMessage.read e.reception.region).1 with
    | error error =>
      rw [Except.mapError, List.append_nil]
      exact hmoved
    | ok message => exact hI.done (.accept header.id message) hmoved

theorem chained (hI : Chronicled env c I) {invocations : List (Invocation ω)}
    (hchained : Chained env header e w invocations e' w')
    (hall : ∀ invocation ∈ invocations, invocation.registration.Within c) (h : I deeds e w) :
    I (deeds ++ invocations.flatMap (Invocation.deeds env header)) e' w' := by
  induction hchained generalizing deeds with
  | nil e w =>
    rw [List.flatMap_nil, List.append_nil]
    exact h
  | cons registration e w _ ih =>
    rw [List.forall_mem_cons] at hall
    rw [List.flatMap_cons, ← List.append_assoc]
    apply ih hall.2
    apply hI.invocation hall.1
    exact hI.elsewhere h (.of_eq rfl rfl rfl rfl rfl rfl) .refl

theorem turn (hI : Chronicled env c I) {packets : List Frame} {more : List (Done ω)}
    (hturn : TurnDeeds env e w packets more) (hall : e.Enlists c) (h : I deeds e w) :
    I (deeds ++ more) (e.turn env w).2.1 (e.turn env w).2.2 := by
  cases hturn with
  | quiet outcome s w' _ hstation hpassed hquiet =>
    rw [hquiet, List.append_nil]
    exact hI.elsewhere h (elsewhere_receives hstation) hpassed.drifts
  | @handed header s found invocations last left hhanded =>
    have hreceived : I deeds { e with toStation := s }
        (env.note (.dispatching header (s.reception.body.drop headerSize)) found) :=
      hI.elsewhere h (elsewhere_receives hhanded.station) (.note _ hhanded.passed.drifts)
    have hopened : I deeds ({ e with toStation := s } : Endpoint ω).handing
        (env.note (.dispatching header (s.reception.body.drop headerSize)) found) :=
      hI.elsewhere hreceived (.of_eq rfl rfl rfl rfl rfl rfl) .refl
    have hlast := hI.chained hhanded.chained (hhanded.enlists hall).1 hopened
    have hunhandled : env.Drifts c left
        (if invocations = [] then env.note (.unhandled header.type) left else left) := by
      split
      · exact .note _ .refl
      · exact .refl
    rw [hhanded.turn]
    exact hI.elsewhere hlast (.of_eq rfl rfl rfl rfl rfl rfl) hunhandled

theorem told (hI : Chronicled env c I) (h : Chronicle env c first begun packets deeds e w)
    (hall : first.Enlists c) (hfirst : I [] first begun) : I deeds e w ∧ e.Enlists c := by
  induction h with
  | start => exact ⟨hfirst, hall⟩
  | named id _ ih => exact ⟨hI.named id ih.1, ih.2⟩
  | run program hprogram _ ih =>
    exact ⟨hI.run hprogram ih.1,
      ih.2.append (handlers_run program _ _) (within_registrations hprogram _ _)⟩
  | turn hturn _ ih => exact ⟨hI.turn hturn ih.2 ih.1, hturn.enlists ih.2⟩

/-- That it held when each of the deeds began is an invariant as well. -/
theorem throughout (hI : Chronicled env c I) :
    Chronicled env c fun deeds e w ↦ I deeds e w ∧
      InContext (fun before done ↦ I before done.endpoint done.surroundings) deeds where
  elsewhere h hsame hdrift := ⟨hI.elsewhere h.1 hsame hdrift, h.2⟩
  done deed h := ⟨hI.done deed h.1, h.2.append h.1⟩
  named id h := ⟨hI.named id h.1, h.2⟩

/-- An invariant of this kind holds all through a chronicle, and when each of its deeds begins. -/
theorem chronicle (hI : Chronicled env c I) (h : Chronicle env c first begun packets deeds e w)
    (hall : first.Enlists c) (hfirst : I [] first begun) :
    I deeds e w ∧
      InContext (fun before done ↦ I before done.endpoint done.surroundings) deeds :=
  (hI.throughout.told h hall ⟨hfirst, inContext_nil _⟩).1

end Chronicled

theorem Chronicle.enlists (h : Chronicle env c first begun packets deeds e w)
    (hall : first.Enlists c) : e.Enlists c := by
  have hnone : Chronicled env c fun _ _ _ ↦ True :=
    ⟨fun _ _ _ ↦ trivial, fun _ _ ↦ trivial, fun _ _ ↦ trivial⟩
  exact (hnone.told h hall trivial).2

end Endpoint

end FramedLink
