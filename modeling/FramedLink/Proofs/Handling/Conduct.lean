import FramedLink.Endpoint.Dispatch
import FramedLink.Proofs.Handling.Operations

/-!
# What goes on while a packet is handled

A round of dispatch runs programs of the application, and these may ask nearly anything of the
endpoint. Still there are only a few ways in which a round changes the endpoint and its
surroundings. `Upheld` lists them: an invariant that survives each of them survives every request,
every program, every handler and every round (`Upheld.perform`, `Upheld.run`, `Upheld.runRound`,
`Upheld.dispatch`).

How far an application can go is said by a `Conduct`. Programs within a conduct make no other
requests and change the surroundings in no other ways, and so do the programs that they register.
-/

namespace FramedLink

variable {ω : Type}

/-- What programs of an application may do. -/
structure Conduct (ω : Type) where
  asks : Request → Prop
  changes : (ω → ω) → Prop
  /-- Who else may follow the link, besides callbacks that make such changes. -/
  watches : (LinkEvent → ω → ω) → Prop := fun _ ↦ False

/-- Whether a program keeps within a conduct, whatever it is answered. -/
def Program.Within (c : Conduct ω) : Program ω → Prop
  | .finish _ => True
  | .ask request next => c.asks request ∧ ∀ answer, (next answer).Within c
  | .inspect next => ∀ station, (next station).Within c
  | .addHandler _ handler next => (∀ header, (handler header).Within c) ∧ next.Within c
  | .addResetCallback callback next => c.changes callback ∧ next.Within c
  | .addLinkCallback callback next => (∀ event, c.changes (callback event)) ∧ next.Within c
  | .outside step next => c.changes step ∧ ∀ w, (next w).Within c

/-- Whether a registration keeps within a conduct. The handlers of the handshake are no programs;
they are registered for the two types of the handshake only. -/
def Registration.Within (c : Conduct ω) (registration : Registration ω) : Prop :=
  match registration.handler with
  | .custom body => ∀ header, (body header).Within c
  | .answerRequest => registration.type = MessageType.connectRequest
  | .acceptResponse => registration.type = MessageType.connectResponse

theorem Program.Within.mono {c c' : Conduct ω} {program : Program ω} (h : program.Within c)
    (hasks : ∀ request, c.asks request → c'.asks request)
    (hchanges : ∀ step, c.changes step → c'.changes step) : program.Within c' := by
  induction program with
  | finish outcome => trivial
  | ask request next ih => exact ⟨hasks _ h.1, fun answer ↦ ih answer (h.2 answer)⟩
  | inspect next ih => exact fun station ↦ ih station (h station)
  | addHandler type handler next ihhandler ihnext =>
    exact ⟨fun header ↦ ihhandler header (h.1 header), ihnext h.2⟩
  | addResetCallback callback next ih => exact ⟨hchanges _ h.1, ih h.2⟩
  | addLinkCallback callback next ih => exact ⟨fun event ↦ hchanges _ (h.1 event), ih h.2⟩
  | outside step next ih => exact ⟨hchanges _ h.1, fun w ↦ ih w (h.2 w)⟩

theorem Registration.Within.mono {c c' : Conduct ω} {registration : Registration ω}
    (h : registration.Within c) (hasks : ∀ request, c.asks request → c'.asks request)
    (hchanges : ∀ step, c.changes step → c'.changes step) : registration.Within c' := by
  obtain ⟨type, handler⟩ := registration
  cases handler with
  | custom body => exact fun header ↦ (h header).mono hasks hchanges
  | answerRequest => exact h
  | acceptResponse => exact h

namespace Endpoint

/-- Everything that was registered with an endpoint keeps within a conduct. -/
structure Within (c : Conduct ω) (e : Endpoint ω) : Prop where
  handlers : ∀ registration ∈ e.handlers, registration.Within c
  resetCallbacks : ∀ callback ∈ e.resetCallbacks, c.changes callback
  linkCallbacks : ∀ callback ∈ e.linkCallbacks,
    c.watches callback ∨ ∀ event, c.changes (callback event)

theorem Within.mono {c c' : Conduct ω} {e : Endpoint ω} (h : e.Within c)
    (hasks : ∀ request, c.asks request → c'.asks request)
    (hchanges : ∀ step, c.changes step → c'.changes step)
    (hwatches : ∀ callback, c.watches callback → c'.watches callback) : e.Within c' where
  handlers registration hmem := (h.handlers registration hmem).mono hasks hchanges
  resetCallbacks callback hmem := hchanges _ (h.resetCallbacks callback hmem)
  linkCallbacks callback hmem :=
    (h.linkCallbacks callback hmem).imp (hwatches callback) fun hcallback event ↦
      hchanges _ (hcallback event)

/-- Within a conduct is what the tables say. -/
theorem Within.of_tables {c : Conduct ω} {e e' : Endpoint ω} (h : e.Within c)
    (htables : e'.tables = e.tables) : e'.Within c := by
  obtain ⟨hhandlers, hresets, hlinks⟩ := h
  simp only [tables, Prod.mk.injEq] at htables
  obtain ⟨h₁, h₂, h₃⟩ := htables
  exact ⟨h₁ ▸ hhandlers, h₂ ▸ hresets, h₃ ▸ hlinks⟩

theorem Within.of_aside {c : Conduct ω} {e e' : Endpoint ω} (h : e.Within c)
    (haside : e.Aside e') : e'.Within c :=
  h.of_tables haside.tables

theorem within_ofConfig (c : Conduct ω) (config : Config) (localId : UInt32) :
    (ofConfig config localId : Endpoint ω).Within c where
  handlers := by
    intro registration hmem
    simp only [ofConfig, List.mem_cons, List.not_mem_nil, or_false] at hmem
    rcases hmem with rfl | rfl <;> rfl
  resetCallbacks := by simp [ofConfig]
  linkCallbacks := by simp [ofConfig]

def withCursor (e : Endpoint ω) (cursor : Nat) : Endpoint ω :=
  { e with reception := { e.reception with region := { e.reception.region with cursor } } }

end Endpoint

def Incoming.message (inc : Incoming) : Except FrameError ConnectMessage :=
  (ConnectMessage.read inc.rewind).1

theorem Incoming.eq_of_take {inc next : Incoming} {count : Nat} {octets : Bytes}
    (h : inc.take count = .ok (octets, next)) : ∃ cursor, next = { inc with cursor } := by
  unfold Incoming.take Incoming.advance at h
  split at h
  · cases h
    exact ⟨_, rfl⟩
  · cases h

theorem ConnectMessage.read_snd (inc : Incoming) :
    ∃ cursor, (ConnectMessage.read inc).2 = { inc with cursor } := by
  unfold ConnectMessage.read
  split
  case h_1 => exact ⟨inc.cursor, rfl⟩
  case h_2 first h₁ =>
    obtain ⟨_, rfl⟩ := Incoming.eq_of_take h₁
    split
    case h_1 => exact ⟨_, rfl⟩
    case h_2 second h₂ =>
      obtain ⟨_, rfl⟩ := Incoming.eq_of_take h₂
      split
      case h_1 => exact ⟨_, rfl⟩
      case h_2 third h₃ =>
        obtain ⟨_, rfl⟩ := Incoming.eq_of_take h₃
        exact ⟨_, rfl⟩

open LittleEndian in
/-- A payload that holds just a message is read as that message. -/
theorem Incoming.message_of_payload {inc : Incoming} {message : ConnectMessage}
    (h : inc.payload = message.encode) : inc.message = .ok message := by
  have hlength : message.encode.length = 8 := message.length_encode
  have hlimit : headerSize + 8 ≤ inc.limit := by
    have hsize := congrArg List.length h
    rw [payload, Region.length_slice, hlength] at hsize
    omega
  have hfield (start stop : Nat) (hstart : headerSize ≤ start) (hstop : stop ≤ inc.limit) :
      inc.region.slice start stop =
        (message.encode.take (stop - headerSize)).drop (start - headerSize) := by
    rw [← h, payload, Region.slice_prefix _ hstop, Region.slice_suffix _ hstart]
  have htake (cursor count : Nat) (hend : cursor + count ≤ inc.limit) :
      ({ inc with cursor } : Incoming).take count =
        .ok (inc.region.slice cursor (cursor + count), { inc with cursor := cursor + count }) := by
    rw [take, advance, if_pos hend]
    rfl
  have hconnId : inc.region.slice headerSize (headerSize + 4) = digits 4 message.connId.toNat := by
    rw [hfield _ _ (Nat.le_refl _) (by omega)]
    rfl
  have hlimit' : inc.region.slice (headerSize + 4) (headerSize + 4 + 2) =
      digits 2 message.limit.toNat := by
    rw [hfield _ _ (by omega) (by omega)]
    rfl
  have hconnType : inc.region.slice (headerSize + 4 + 2) (headerSize + 4 + 2 + 2) =
      digits 2 message.connType.toNat := by
    rw [hfield _ _ (by omega) (by omega)]
    rfl
  have hfirst := htake headerSize 4 (by omega)
  have hsecond := htake (headerSize + 4) 2 (by omega)
  have hthird := htake (headerSize + 4 + 2) 2 (by omega)
  simp only [Incoming.message, rewind, ConnectMessage.read, hfirst, hsecond, hthird]
  rw [hconnId, hlimit', hconnType, ofNat_value_digits_toNat, uint16_value_digits,
    uint16_value_digits]

namespace Endpoint

theorem readMessage_eq (e : Endpoint ω) :
    ∃ cursor, e.readMessage =
      ((ConnectMessage.read e.reception.region).1.mapError .frame, e.withCursor cursor) := by
  obtain ⟨cursor, hcursor⟩ := ConnectMessage.read_snd e.reception.region
  refine ⟨cursor, ?_⟩
  unfold readMessage withCursor
  rw [← hcursor]

/-! ## Invariants of handling -/

/-- What an invariant has to survive so that it survives the dispatch of a packet with a given
header: changes that the conduct allows, every move of a cursor, every attempt to send, every change
of the link, and the events that are noted in between. Only requests are answered. -/
structure Upheld (env : Environment ω) (c : Conduct ω) (header : Header)
    (I : Endpoint ω → ω → Prop) : Prop where
  change {e w step} : c.changes step → I e w → I e (step w)
  cursor {e w} (n : Nat) : I e w → I (e.withCursor n) w
  incoming {e w op} : c.asks (.incoming op) → I e w → I
    { e with reception :=
      { e.reception with region := (e.reception.region.perform op).2 } } w
  outgoing {e w op} : c.asks (.outgoing op) → I e w →
    I { e with outgoing := (e.outgoing.perform op).2 } w
  send {e w type id size} :
    c.asks (.send type id size) ∨
      c.asks (.sendWritten type id) ∧ size = e.outgoing.payloadSize →
    I e w → I (e.send env type id size w).2.1 (e.send env type id size w).2.2
  describe {e w type} (id : UInt8) :
    type = MessageType.connectRequest ∨
      type = MessageType.connectResponse ∧ header.type = MessageType.connectRequest →
    I e w → I (e.sendDescription env type id w).2.1 (e.sendDescription env type id w).2.2
  now {e w} : I e w → I e (env.now w).2
  silent {e w} (remoteId : UInt32) (timeout : Millis) : I e w →
    I e (env.note (.peerSilent remoteId timeout) w)
  schedule {e w} (nextRequest : Option Millis) (requestIds : MessageIds) : I e w →
    I { e with link := { e.link with nextRequest, requestIds } } w
  disconnect {e w} : e.Within c → I e w → I (e.disconnect env w).1 (e.disconnect env w).2
  request {e w message} : header.type = MessageType.connectRequest → e.Within c →
    e.reception.region.message = .ok message → I e w →
    let recorded := e.recordPeer env message.connId message.connType
      (env.note (.requestReceived header.id message) w)
    I recorded.1 recorded.2
  response {e w message} : header.type = MessageType.connectResponse → e.Within c →
    e.reception.region.message = .ok message → I e w →
    let accepted := e.acceptResponse env message
      (env.note (.responseReceived header.id message) w)
    I accepted.1 accepted.2
  failed {e w} (error : EndpointError) : I e w →
    I e (env.note (.handlerFailed header error) w)
  handlers {e w} (handlers : List (Registration ω)) (dispatching : Bool) : I e w →
    I { e with handlers, dispatching } w
  resetCallback {e w callback} : c.changes callback → I e w → I (e.addResetCallback callback) w
  linkCallback {e w callback} : (∀ event, c.changes (callback event)) → I e w →
    I (e.addLinkCallback callback) w
  available {e w} : c.asks .channelAvailable → I e w → I e (env.channel.available w).2
  read {e w size} : c.asks (.channelRead size) → I e w → I e (env.channel.read size w).2
  write {e w octets} : c.asks (.channelWrite octets) → I e w → I e (env.channel.write octets w).2

namespace Upheld

variable {env : Environment ω} {c : Conduct ω} {header : Header} {I : Endpoint ω → ω → Prop}
variable {e : Endpoint ω} {w : ω}

/-- Callbacks only make changes that the conduct allows. -/
theorem fireReset (hchange : ∀ {w step}, c.changes step → I e w → I e (step w))
    (hwithin : e.Within c) (h : I e w) : I e (e.fireReset w) := by
  unfold Endpoint.fireReset
  apply List.foldlRecOn _ _ h
  intro w h callback hmem
  exact hchange (hwithin.resetCallbacks callback (List.mem_reverse.mp hmem)) h

theorem fireLink (hchange : ∀ {w step}, c.changes step → I e w → I e (step w))
    (hwatches : ∀ callback, ¬ c.watches callback) (hwithin : e.Within c) (event : LinkEvent)
    (h : I e w) : I e (e.fireLink event w) := by
  unfold Endpoint.fireLink
  apply List.foldlRecOn _ _ h
  intro w h callback hmem
  have hchanges : ∀ event, c.changes (callback event) :=
    (hwithin.linkCallbacks callback (List.mem_reverse.mp hmem)).resolve_left (hwatches callback)
  exact hchange (hchanges event) h

theorem checkConnection (hI : Upheld env c header I) (hwithin : e.Within c) (h : I e w) :
    I (e.checkConnection env w).2.1 (e.checkConnection env w).2.2 := by
  have hnow := hI.now h
  have hdropped : I (e.dropSilentPeer env (env.now w).1 (env.now w).2).1
      (e.dropSilentPeer env (env.now w).1 (env.now w).2).2 := by
    unfold dropSilentPeer
    split
    · exact hI.disconnect hwithin (hI.silent _ _ hnow)
    · exact hnow
  unfold Endpoint.checkConnection
  dsimp only
  split
  · exact hI.describe _ (.inl rfl) (hI.schedule _ _ hdropped)
  · exact hdropped

/-- An invariant survives every request within the conduct. -/
theorem perform (hI : Upheld env c header I) {request : Request} (hasks : c.asks request)
    (hwithin : e.Within c) (h : I e w) :
    I (e.perform env w request).2.1 (e.perform env w request).2.2 ∧
      (e.perform env w request).2.1.Within c := by
  cases request with
  | incoming op => exact ⟨hI.incoming hasks h, hwithin.of_tables rfl⟩
  | outgoing op => exact ⟨hI.outgoing hasks h, hwithin.of_tables rfl⟩
  | send type id size =>
    exact ⟨hI.send (.inl hasks) h, hwithin.of_aside (aside_send type id size)⟩
  | sendWritten type id =>
    exact ⟨hI.send (.inr ⟨hasks, rfl⟩) h, hwithin.of_aside (aside_send type id _)⟩
  | requestConnection id =>
    exact ⟨hI.describe id (.inl rfl) h, hwithin.of_aside (aside_sendDescription _ id)⟩
  | checkConnection =>
    exact ⟨hI.checkConnection hwithin h, hwithin.of_aside aside_checkConnection⟩
  | disconnect => exact ⟨hI.disconnect hwithin h, hwithin.of_aside aside_disconnect⟩
  | poll => exact ⟨h, hwithin⟩
  | handlerCount type => exact ⟨h, hwithin⟩
  | channelAvailable => exact ⟨hI.available hasks h, hwithin⟩
  | channelRead size => exact ⟨hI.read hasks h, hwithin⟩
  | channelWrite octets => exact ⟨hI.write hasks h, hwithin⟩

theorem addHandler (hI : Upheld env c header I) {type : UInt8} {body : Header → Program ω}
    (hbody : ∀ header, (body header).Within c) (hwithin : e.Within c) (h : I e w) :
    I (e.addHandler type body) w ∧ (e.addHandler type body).Within c := by
  refine ⟨hI.handlers _ _ h, ?_, hwithin.resetCallbacks, hwithin.linkCallbacks⟩
  intro registration hmem
  rcases List.mem_append.mp hmem with hold | hnew
  · exact hwithin.handlers _ hold
  · rw [List.mem_singleton.mp hnew]
    exact hbody

theorem addResetCallback (hI : Upheld env c header I) {callback : ω → ω}
    (hcallback : c.changes callback) (hwithin : e.Within c) (h : I e w) :
    I (e.addResetCallback callback) w ∧ (e.addResetCallback callback).Within c := by
  refine ⟨hI.resetCallback hcallback h, hwithin.handlers, ?_, hwithin.linkCallbacks⟩
  intro other hmem
  rcases List.mem_append.mp hmem with hold | hnew
  · exact hwithin.resetCallbacks _ hold
  · rw [List.mem_singleton.mp hnew]
    exact hcallback

theorem addLinkCallback (hI : Upheld env c header I) {callback : LinkEvent → ω → ω}
    (hcallback : ∀ event, c.changes (callback event)) (hwithin : e.Within c) (h : I e w) :
    I (e.addLinkCallback callback) w ∧ (e.addLinkCallback callback).Within c := by
  refine ⟨hI.linkCallback hcallback h, hwithin.handlers, hwithin.resetCallbacks, ?_⟩
  intro other hmem
  rcases List.mem_append.mp hmem with hold | hnew
  · exact hwithin.linkCallbacks _ hold
  · rw [List.mem_singleton.mp hnew]
    exact .inr hcallback

/-- An invariant survives every program within the conduct. -/
theorem run (hI : Upheld env c header I) {program : Program ω} (hprogram : program.Within c)
    (hwithin : e.Within c) (h : I e w) :
    I (program.run env e w).2.1 (program.run env e w).2.2 ∧
      (program.run env e w).2.1.Within c := by
  induction program generalizing e w with
  | finish outcome => exact ⟨h, hwithin⟩
  | ask request next ih =>
    obtain ⟨hkept, hstill⟩ := hI.perform hprogram.1 hwithin h
    exact ih _ (hprogram.2 _) hstill hkept
  | inspect next ih => exact ih _ (hprogram _) hwithin h
  | addHandler type handler next _ ih =>
    obtain ⟨hkept, hstill⟩ : I (e.addHandler type handler) w ∧
        (e.addHandler type handler).Within c := hI.addHandler hprogram.1 hwithin h
    exact ih hprogram.2 hstill hkept
  | addResetCallback callback next ih =>
    obtain ⟨hkept, hstill⟩ := hI.addResetCallback hprogram.1 hwithin h
    exact ih hprogram.2 hstill hkept
  | addLinkCallback callback next ih =>
    obtain ⟨hkept, hstill⟩ := hI.addLinkCallback hprogram.1 hwithin h
    exact ih hprogram.2 hstill hkept
  | outside step next ih => exact ih _ (hprogram.2 _) hwithin (hI.change hprogram.1 h)

/-- An invariant survives every handler within the conduct that is registered for the packet's type
and begins at the start of the payload. -/
theorem runHandler (hI : Upheld env c header I) {registration : Registration ω}
    (hregistration : registration.Within c) (htype : registration.type = header.type)
    (hwithin : e.Within c) (h : I e w) :
    let ran := (e.withCursor headerSize).runHandler env header registration.handler w
    I ran.2.1 ran.2.2 ∧ ran.2.1.Within c := by
  have hstart : (e.withCursor headerSize).Within c := hwithin.of_tables rfl
  obtain ⟨cursor, hread⟩ := (e.withCursor headerSize).readMessage_eq
  have hmessage : (ConnectMessage.read (e.withCursor headerSize).reception.region).1 =
      e.reception.region.message := rfl
  rw [hmessage] at hread
  have hmoved : I (e.withCursor cursor) w := hI.cursor cursor h
  have hstill : (e.withCursor cursor).Within c := hwithin.of_tables rfl
  obtain ⟨type, handler⟩ := registration
  cases handler with
  | custom body => exact hI.run (hregistration header) hstart (hI.cursor headerSize h)
  | answerRequest =>
    have hrequest : header.type = MessageType.connectRequest := htype.symm.trans hregistration
    simp only [Endpoint.runHandler, hread]
    cases hsays : e.reception.region.message with
    | error error => exact ⟨hmoved, hstill⟩
    | ok message =>
      have hrecorded := hI.request hrequest hstill hsays hmoved
      exact ⟨hI.describe 0 (.inr ⟨rfl, hrequest⟩) hrecorded,
        hstill.of_aside ((aside_recordPeer _ _).trans (aside_sendDescription _ _))⟩
  | acceptResponse =>
    have hresponse : header.type = MessageType.connectResponse := htype.symm.trans hregistration
    simp only [Endpoint.runHandler, hread]
    cases hsays : e.reception.region.message with
    | error error => exact ⟨hmoved, hstill⟩
    | ok message =>
      exact ⟨hI.response hresponse hstill hsays hmoved,
        hstill.of_aside (aside_acceptResponse _)⟩

/-- An invariant survives a round of handlers within the conduct. -/
theorem runRound (hI : Upheld env c header I) {registrations : List (Registration ω)}
    (hall : ∀ registration ∈ registrations, registration.Within c) (round : Round)
    (hwithin : e.Within c) (h : I e w) :
    let ran := Endpoint.runRound env header registrations round e w
    I ran.2.1 ran.2.2 ∧ ran.2.1.Within c := by
  induction registrations generalizing round e w with
  | nil => exact ⟨h, hwithin⟩
  | cons registration registrations ih =>
    rw [List.forall_mem_cons] at hall
    by_cases htype : registration.type = header.type
    case neg =>
      simp only [Endpoint.runRound, htype, if_false]
      exact ih hall.2 round hwithin h
    case pos =>
      have hstart : { e with toStation := e.toStation.rewindIncoming } =
        e.withCursor headerSize := rfl
      have hran := hI.runHandler hall.1 htype hwithin h
      simp only [Endpoint.runRound, htype, if_true, hstart]
      rcases hresult : (e.withCursor headerSize).runHandler env header registration.handler w
        with ⟨_ | _, e', w'⟩
      · rw [hresult] at hran
        exact ih hall.2 _ hran.2 (hI.failed _ hran.1)
      · rw [hresult] at hran
        exact ih hall.2 _ hran.2 hran.1

/-- An invariant survives a dispatch if it also survives the counting at the end of a round, and
holds once the dispatch has been noted. -/
theorem dispatch (hI : Upheld env c header I)
    (hcount : ∀ {e w} (round : Round), I e w →
      I { e with counters := countRound e.counters round } w)
    (hunhandled : ∀ {e w}, I e w → I e (env.note (.unhandled header.type) w))
    (hwithin : e.Within c)
    (h : I e (env.note (.dispatching header e.reception.region.payload) w)) :
    I (e.dispatch env header w).1 (e.dispatch env header w).2 ∧
      (e.dispatch env header w).1.Within c := by
  have hemptied : { e with handlers := [], dispatching := true }.Within c :=
    ⟨by simp, hwithin.resetCallbacks, hwithin.linkCallbacks⟩
  have hreversed : ∀ registration ∈ e.handlers.reverse, registration.Within c :=
    fun registration hmem ↦ hwithin.handlers _ (List.mem_reverse.mp hmem)
  obtain ⟨hkept, hstill⟩ :=
    hI.runRound hreversed {} hemptied (hI.handlers [] true h)
  have hrestored := hI.handlers (e.handlers ++ (Endpoint.runRound env header e.handlers.reverse {}
    { e with handlers := [], dispatching := true }
    (env.note (.dispatching header e.reception.region.payload) w)).2.1.handlers) false hkept
  unfold Endpoint.dispatch
  dsimp only
  constructor
  · split
    · exact hunhandled (hcount _ hrestored)
    · exact hcount _ hrestored
  · refine ⟨?_, hstill.resetCallbacks, hstill.linkCallbacks⟩
    intro registration hmem
    rcases List.mem_append.mp hmem with hold | hnew
    · exact hwithin.handlers _ hold
    · exact hstill.handlers _ hnew

end Upheld

end Endpoint

end FramedLink
