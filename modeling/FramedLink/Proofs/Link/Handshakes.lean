import FramedLink.Proofs.Link.Agreement

/-!
# Handshakes again and again

Two ends whose applications do nothing but ask for connections, look after their links and take them
down. A connect request or an answer has eight octets of payload, and every region that is accepted
holds it; but once an end has its link up, it sends nothing larger than the limit that the other
end has announced, and this is twelve less than the size of the other end's incoming region. So
toward an end with a region of 18 or 19 octets there is one handshake, and every further message of
it is refused for as long as the link is up.

`Config.handshakeOutcome` says what becomes of a message, and `Endpoint.Shaking` is what holds of an
end with its notes: whatever it sends and whatever fails is as this outcome says.
-/

namespace FramedLink

/-- What comes of sending a message of the handshake to an end with given settings, when the link is
up or down. -/
def Config.handshakeOutcome (peer : Config) (up : Bool) : Except EndpointError Unit :=
  if up = true ∧ peer.inSize < 20 then
    .error (.frame (.tooLarge ConnectMessage.size (peer.inSize - 12)))
  else .ok ()

theorem Config.up_of_handshakeOutcome {peer : Config} {up : Bool} {error : EndpointError}
    (h : peer.handshakeOutcome up = .error error) : up = true := by
  unfold handshakeOutcome at h
  split at h
  case isTrue hrefused => exact hrefused.1
  case isFalse => cases h

/-- Whether an event is as it has to be if all messages of the handshake fare as expected: one is
sent only where it gets through, and a handler fails only where the answer does not, and with the
same error. -/
def Foreseen (peer : Config) (before : List Event) : Event → Prop
  | .sent .. => peer.handshakeOutcome (linkUp before) = .ok ()
  | .handlerFailed _ error => peer.handshakeOutcome (linkUp before) = .error error
  | _ => True

theorem Event.IsRefusal.foreseen {event : Event} (h : event.IsRefusal) (peer : Config)
    (before : List Event) : Foreseen peer before event := by
  cases event with
  | sent => cases h
  | handlerFailed => cases h
  | _ => trivial

/-- What an application asks that only shakes hands. -/
def Request.OfHandshake : Request → Prop
  | .requestConnection _ | .checkConnection | .disconnect => True
  | _ => False

theorem Request.OfHandshake.courteous {request : Request} (h : request.OfHandshake) :
    request.Courteous := by
  cases request <;> trivial

theorem MessageType.eq_of_lt {type : UInt8} (h : type < 2) :
    type = connectRequest ∨ type = connectResponse := by
  have hcases : type.toNat = 0 ∨ type.toNat = 1 := by
    have hless := UInt8.lt_iff_toNat_lt.mp h
    have htwo : (2 : UInt8).toNat = 2 := rfl
    omega
  exact hcases.imp UInt8.toNat_inj.mp UInt8.toNat_inj.mp

namespace Endpoint

variable {σ : Type} {clock : σ → Millis × σ} {x : End} {peer : Config}
variable {e e' : Endpoint (Wire σ)} {w w' : Wire σ} {notes : List Event} {event : Event}

/-- Where there is room, only a limit of the peer keeps an end from sending what it says about
itself. -/
theorem sendDescription_outcome (type id : UInt8)
    (hroom : frameOverhead + ConnectMessage.size ≤ e.outgoing.region.size) :
    let described := e.sendDescription (Wire.environment clock x) type id w
    (∃ limit, e.refusedLimit? ConnectMessage.size = some limit ∧
        described.1 = .error (.frame (.tooLarge ConnectMessage.size limit)) ∧
        described.2.2.noted x = w.noted x) ∨
      e.refusedLimit? ConnectMessage.size = none ∧ described.1 = .ok () ∧
        described.2.2.noted x = w.noted x ++ [.sent type id e.description.encode] := by
  obtain ⟨outgoing, hsize, hpayload, hsent⟩ :=
    @sendDescription_eq _ (Wire.environment clock x) e w type id hroom
  have hlimit : ({ e with outgoing } : Endpoint (Wire σ)).refusedLimit? ConnectMessage.size =
      e.refusedLimit? ConnectMessage.size := rfl
  rw [hsent]
  unfold send
  rw [hlimit]
  cases e.refusedLimit? ConnectMessage.size with
  | some limit => exact .inl ⟨limit, rfl, rfl, rfl⟩
  | none =>
    right
    have hlarge : frameOverhead ≤ outgoing.region.size := by
      rw [hsize]
      exact Nat.le_trans (Nat.le_add_right _ _) hroom
    have hcapacity : ConnectMessage.size ≤ outgoing.payloadCapacity := by
      unfold Outgoing.payloadCapacity
      omega
    obtain ⟨octets, sealed, hsealed⟩ :=
      Outgoing.exists_sealFrame (by decide) hcapacity type id e.config.integrity
    obtain ⟨-, -, hkept, -⟩ := Outgoing.sealFrame_ok hlarge hsealed
    have hwrite : ∃ written : Wire σ, (Wire.environment clock x).channel.write octets w =
        (.ok octets.length, written) ∧ written.noted = w.noted := ⟨_, rfl, rfl⟩
    obtain ⟨written, hwrite, hnoted⟩ := hwrite
    simp only [hsealed, hwrite, Nat.lt_irrefl, if_false, true_and]
    calc
      (written.note x (.sent type id (sealed.payloadOf ConnectMessage.size))).noted x =
          written.noted x ++ [.sent type id (sealed.payloadOf ConnectMessage.size)] :=
        Wire.noted_note x _ _
      _ = w.noted x ++ [.sent type id e.description.encode] := by
        rw [hnoted, hkept, hpayload]

/-! ## The invariant -/

/-- What holds of an end that only shakes hands, and of its notes: it sends messages of the
handshake alone, it knows the limit of its peer just as long as its link is up, and everything is
foreseen. -/
structure Shaking (peer : Config) (e : Endpoint (Wire σ)) (notes : List Event) : Prop where
  room : frameOverhead + ConnectMessage.size ≤ e.outgoing.region.size
  messages : ∀ frame ∈ sends notes, frame.header.type < 2
  link : linkUp notes = e.link.connected
  known : e.link.remoteLimit = if e.link.connected then some peer.advertisedLimit else none
  foreseen : InContext (Foreseen peer) notes

/-- The limit of the peer refuses a message just where this is the outcome. -/
theorem Shaking.refusedLimit?_eq (h : Shaking peer e notes) (hpeer : peer.fault? = none) :
    e.refusedLimit? ConnectMessage.size =
      if e.link.connected = true ∧ peer.inSize < 20 then some (peer.inSize - 12) else none := by
  have hadvertised : peer.advertisedLimit.toNat = peer.inSize - 12 :=
    peer.toNat_advertisedLimit hpeer
  have hbounds : 18 ≤ peer.inSize := (peer.bounds_of_valid hpeer).1
  have hpositive : peer.advertisedLimit ≠ 0 := by
    intro hzero
    rw [hzero] at hadvertised
    have hnone : (0 : UInt16).toNat = 0 := rfl
    omega
  unfold Station.refusedLimit?
  rw [h.known]
  cases e.link.connected with
  | false => rfl
  | true =>
    simp only [if_true, hadvertised, true_and, ne_eq, hpositive, not_false_eq_true]
    have hless : peer.inSize - 12 < ConnectMessage.size ↔ peer.inSize < 20 := by
      unfold ConnectMessage.size
      omega
    simp only [hless]

/-- Only what is sent, what fails and what happens to the link matters. -/
theorem Shaking.note (h : Shaking peer e notes) (hsent : event.sent? = none)
    (hlink : ∀ up, event.linkAfter up = up) (hforeseen : Foreseen peer notes event) :
    Shaking peer e (notes ++ [event]) where
  room := h.room
  messages := by
    rw [sends_of_silent _ hsent]
    exact h.messages
  link := by
    rw [linkUp_append]
    exact (hlink _).trans h.link
  known := h.known
  foreseen := h.foreseen.append hforeseen

/-- Noting what does not matter keeps the invariant. -/
theorem Shaking.wire_note (h : Shaking peer e (w.noted x)) (hsent : event.sent? = none)
    (hlink : ∀ up, event.linkAfter up = up) (hforeseen : Foreseen peer (w.noted x) event) :
    Shaking peer e ((w.note x event).noted x) := by
  rw [Wire.noted_note]
  exact h.note hsent hlink hforeseen

theorem Shaking.of_eq (h : Shaking peer e notes)
    (hroom : e'.outgoing.region.size = e.outgoing.region.size)
    (hconnected : e'.link.connected = e.link.connected)
    (hlimit : e'.link.remoteLimit = e.link.remoteLimit) : Shaking peer e' notes where
  room := hroom ▸ h.room
  messages := h.messages
  link := h.link.trans hconnected.symm
  known := by
    rw [hlimit, hconnected]
    exact h.known
  foreseen := h.foreseen

/-- A message of the handshake that is allowed is sent. -/
theorem Shaking.sent (h : Shaking peer e notes)
    (hallowed : peer.handshakeOutcome e.link.connected = .ok ()) {type : UInt8} (htype : type < 2)
    (id : UInt8) (payload : Bytes) : Shaking peer e (notes ++ [.sent type id payload]) where
  room := h.room
  messages := by
    rw [sends_sent]
    intro frame hmem
    rcases List.mem_append.mp hmem with hold | hnew
    · exact h.messages frame hold
    · rw [List.mem_singleton.mp hnew]
      exact htype
  link := by
    rw [linkUp_append]
    exact h.link
  known := h.known
  foreseen := by
    apply h.foreseen.append
    rwa [← h.link] at hallowed

/-- A message of the handshake fares as it has to, and leaves the invariant in place. -/
theorem Shaking.describe (h : Shaking peer e (w.noted x)) (hpeer : peer.fault? = none)
    {type : UInt8} (htype : type < 2) (id : UInt8) :
    let described := e.sendDescription (Wire.environment clock x) type id w
    described.1 = peer.handshakeOutcome e.link.connected ∧ described.2.1.link = e.link ∧
      Shaking peer described.2.1 (described.2.2.noted x) := by
  obtain ⟨hlink, hsize, -⟩ := @noted_sendDescription σ clock x e w type id h.room
  have houtcome := @sendDescription_outcome σ clock x e w type id h.room
  rw [h.refusedLimit?_eq hpeer] at houtcome
  intro described
  have hkept {notes : List Event} (h : Shaking peer e notes) : Shaking peer described.2.1 notes :=
    h.of_eq hsize (congrArg _ hlink) (congrArg _ hlink)
  unfold Config.handshakeOutcome
  split at houtcome
  case isTrue hrefused =>
    obtain ⟨limit, hlimit, hresult, hnoted⟩ := houtcome.resolve_right fun h ↦ nomatch h.1
    rw [if_pos hrefused, hnoted]
    obtain rfl := Option.some_inj.mp hlimit
    exact ⟨hresult, hlink, hkept h⟩
  case isFalse hallowed =>
    obtain ⟨-, hresult, hnoted⟩ := houtcome.resolve_left fun ⟨_, h, _⟩ ↦ nomatch h
    have hok : peer.handshakeOutcome e.link.connected = .ok () := if_neg hallowed
    rw [if_neg hallowed, hnoted]
    exact ⟨hresult, hlink, hkept (h.sent hok htype id _)⟩

theorem Shaking.disconnect (h : Shaking peer e (w.noted x)) (hlinks : e.linkCallbacks = []) :
    (e.disconnect (Wire.environment clock x) w).1.link.connected = false ∧
      Shaking peer (e.disconnect (Wire.environment clock x) w).1
        ((e.disconnect (Wire.environment clock x) w).2.noted x) := by
  have hdisconnection : Disconnection (Wire.environment clock x) e w
    (e.disconnect (Wire.environment clock x) w) := disconnection_disconnect
  generalize e.disconnect (Wire.environment clock x) w = result at hdisconnection ⊢
  cases hdisconnection with
  | idle hdown => exact ⟨hdown, h⟩
  | down _ drawn hdrawn =>
    have hnoted : ((Wire.environment clock x).note (.disconnected e.link.remoteId drawn.1)
        drawn.2).noted x = w.noted x ++ [.disconnected e.link.remoteId drawn.1] := by
      rw [← hdrawn]
      exact Wire.noted_note x _ _
    rw [fireLink_of_no_callbacks hlinks, hnoted]
    refine ⟨rfl, ?_⟩
    constructor
    case room => exact h.room
    case messages =>
      rw [sends_of_silent _ rfl]
      exact h.messages
    case link => exact linkUp_append _ _
    case known => rfl
    case foreseen => exact h.foreseen.append trivial

theorem Shaking.dropSilentPeer (h : Shaking peer e (w.noted x)) (hlinks : e.linkCallbacks = [])
    (now : Millis) :
    let dropped := e.dropSilentPeer (Wire.environment clock x) now w
    (dropped.1.link.connected = true → e.link.connected = true) ∧
      Shaking peer dropped.1 (dropped.2.noted x) := by
  unfold Endpoint.dropSilentPeer
  cases e.isSilent now with
  | none => exact ⟨id, h⟩
  | some timeout =>
    have hnoted : Shaking peer e ((w.note x (.peerSilent e.link.remoteId timeout)).noted x) :=
      h.wire_note rfl (fun _ ↦ rfl) trivial
    obtain ⟨hdown, hdropped⟩ := @Shaking.disconnect σ clock x peer e _ hnoted hlinks
    exact ⟨fun hup ↦ Bool.noConfusion (hdown.symm.trans hup), hdropped⟩

/-- Looking after the link fails only where a request does that is sent over it. -/
theorem Shaking.checkConnection (h : Shaking peer e (w.noted x)) (hpeer : peer.fault? = none)
    (hlinks : e.linkCallbacks = []) :
    let checked := e.checkConnection (Wire.environment clock x) w
    (∀ error, checked.1 = .error error →
      peer.handshakeOutcome e.link.connected = .error error) ∧
      Shaking peer checked.2.1 (checked.2.2.noted x) := by
  have hread : Shaking peer e (((Wire.environment clock x).now w).2.noted x) := h
  obtain ⟨hup, hdropped⟩ :=
    @Shaking.dropSilentPeer σ clock x peer e _ hread hlinks ((Wire.environment clock x).now w).1
  unfold Endpoint.checkConnection
  dsimp only
  generalize e.dropSilentPeer (Wire.environment clock x) ((Wire.environment clock x).now w).1
    ((Wire.environment clock x).now w).2 = dropped at hup hdropped ⊢
  split
  case isFalse => exact ⟨fun _ herror ↦ (nomatch herror), hdropped⟩
  case isTrue =>
    let scheduled : Endpoint (Wire σ) :=
      { dropped.1 with
        link := { dropped.1.link with
          nextRequest := some (((Wire.environment clock x).now w).1.after
            dropped.1.config.connectInterval)
          requestIds := dropped.1.link.requestIds.take.2 } }
    have hscheduled : Shaking peer scheduled (dropped.2.noted x) := hdropped.of_eq rfl rfl rfl
    obtain ⟨hresult, -, hkept⟩ := @Shaking.describe σ clock x peer scheduled _ hscheduled hpeer
      MessageType.connectRequest (by decide) dropped.1.link.requestIds.take.1
    refine ⟨?_, hkept⟩
    intro error herror
    have hmap {sent : Except EndpointError Unit}
        (h : sent.map (fun _ ↦ true) = .error error) : sent = .error error := by
      cases sent with
      | ok => cases h
      | error => exact congrArg _ (Except.error.inj h)
    have hrefused : peer.handshakeOutcome scheduled.link.connected = .error error := by
      rw [← hresult]
      exact hmap herror
    have hstill : e.link.connected = scheduled.link.connected := by
      have hconnected := Config.up_of_handshakeOutcome hrefused
      rw [hup hconnected, hconnected]
    rwa [hstill]

theorem Shaking.recordPeer (h : Shaking peer e (w.noted x)) (hresets : e.resetCallbacks = [])
    (connId : UInt32) (connType : UInt16) :
    let recorded := e.recordPeer (Wire.environment clock x) connId connType w
    Shaking peer recorded.1 (recorded.2.noted x) := by
  have hrecording : Recording (Wire.environment clock x) connId connType e w
    (e.recordPeer (Wire.environment clock x) connId connType w) := recording_recordPeer _ _
  obtain ⟨counters, hlink⟩ := hrecording.link
  have hnoted := hrecording.noted hresets
  generalize e.recordPeer (Wire.environment clock x) connId connType w = recorded at hlink hnoted ⊢
  dsimp only
  have hkept {notes : List Event} (h : Shaking peer e notes) : Shaking peer recorded.1 notes := by
    rw [hlink]
    exact h.of_eq rfl rfl rfl
  rcases hnoted with hsame | ⟨previous, hreset⟩
  · rw [hsame]
    exact hkept h
  · rw [hreset]
    exact hkept (h.note rfl (fun _ ↦ rfl) trivial)

/-- An answer that is accepted makes the limit of the peer known, and the link is up. -/
theorem Shaking.acceptResponse (h : Shaking peer e (w.noted x)) (hresets : e.resetCallbacks = [])
    (hlinks : e.linkCallbacks = []) {message : ConnectMessage}
    (hlimit : message.limit = peer.advertisedLimit) :
    let accepted := e.acceptResponse (Wire.environment clock x) message w
    Shaking peer accepted.1 (accepted.2.noted x) := by
  obtain ⟨dropped, recorded, hdropped, hrecorded, hraised⟩ :=
    @acceptResponse_steps _ (Wire.environment clock x) e w message
  generalize e.acceptResponse (Wire.environment clock x) message w = accepted at hraised ⊢
  obtain ⟨connected, hdropped_eq, hstill⟩ := hdropped.link
  obtain ⟨_, hrecorded_eq⟩ := hrecorded.link
  obtain ⟨_, hraised_eq⟩ := hraised.link
  -- whatever was noted on the way, the link is up to a peer whose limit is known in the end
  have hup {notes : List Event} (hmessages : ∀ frame ∈ sends notes, frame.header.type < 2)
      (hlink : linkUp notes = true) (hforeseen : InContext (Foreseen peer) notes) :
      Shaking peer accepted.1 notes := by
    rw [hraised_eq, hrecorded_eq, hdropped_eq]
    exact ⟨h.room, hmessages, hlink, congrArg some hlimit, hforeseen⟩
  have hdropped_noted : dropped.2.noted x = w.noted x := by
    rw [hdropped.unnoticed hlinks]
    rfl
  have hrecorded_noted : Shaking peer e (recorded.2.noted x) := by
    rcases hrecorded.noted (by rw [hdropped_eq]; exact hresets) with hsame | ⟨previous, hreset⟩
    · rwa [hsame, hdropped_noted]
    · rw [hreset, hdropped_noted]
      exact h.note rfl (fun _ ↦ rfl) trivial
  have hlinks' : recorded.1.linkCallbacks = [] := by
    rw [hrecorded_eq, hdropped_eq]
    exact hlinks
  cases hraised with
  | idle hconnected =>
    rw [hrecorded_eq, hdropped_eq] at hconnected
    have hbefore : linkUp (recorded.2.noted x) = true :=
      hrecorded_noted.link.trans (hstill hconnected).1
    exact hup hrecorded_noted.messages hbefore hrecorded_noted.foreseen
  | up _ =>
    have hnoted : (recorded.1.fireLink (.connected message.connId message.connType)
        ((Wire.environment clock x).note (.connected message) recorded.2)).noted x =
        recorded.2.noted x ++ [.connected message] := by
      rw [fireLink_of_no_callbacks hlinks']
      exact Wire.noted_note x _ _
    dsimp only at hup ⊢
    rw [hnoted]
    apply hup
    · rw [sends_of_silent _ rfl]
      exact hrecorded_noted.messages
    · exact linkUp_append _ _
    · exact hrecorded_noted.foreseen.append trivial

/-! ## Dispatching messages -/

/-- A connect response is accepted as the message that it holds. -/
theorem runHandler_acceptResponse {ω : Type} {env : Environment ω} {e : Endpoint ω} {w : ω}
    {header : Header} {message : ConnectMessage}
    (hmessage : e.reception.region.message = .ok message) :
    ∃ cursor, (e.withCursor headerSize).runHandler env header .acceptResponse w =
      let accepted := (e.withCursor cursor).acceptResponse env message
        (env.note (.responseReceived header.id message) w)
      (.ok (), accepted) := by
  obtain ⟨cursor, hread⟩ := (e.withCursor headerSize).readMessage_eq
  have hread_message : (ConnectMessage.read (e.withCursor headerSize).reception.region).1 =
      .ok message := hmessage
  rw [hread_message] at hread
  refine ⟨cursor, ?_⟩
  simp only [runHandler, hread]
  rfl

/-- What an end has registered that only shakes hands. -/
def Unattended {ω : Type} (e : Endpoint ω) : Prop :=
  e.tables = (handshakeHandlers, [], [])

variable {header : Header} {message : ConnectMessage}

/-- A dispatch is over once its handler has run, and a failure of the handler has been noted. -/
theorem Shaking.dispatch_of_ran {registration : Registration (Wire σ)}
    {result : Except EndpointError Unit × Endpoint (Wire σ) × Wire σ}
    (hunattended : e.Unattended) (hmem : registration ∈ handshakeHandlers)
    (htype : registration.type = header.type)
    (hran : ({ e with handlers := [], dispatching := true }.withCursor headerSize).runHandler
      (Wire.environment clock x) header registration.handler
      (w.note x (.dispatching header e.reception.region.payload)) = result)
    (htables : result.2.1.tables = ([], [], []))
    (hfails : ∀ error, result.1 = .error error →
      peer.handshakeOutcome result.2.1.link.connected = .error error)
    (h : Shaking peer result.2.1 (result.2.2.noted x)) :
    let dispatched := e.dispatch (Wire.environment clock x) header w
    dispatched.1.Unattended ∧ Shaking peer dispatched.1 (dispatched.2.noted x) := by
  have hhandlers : e.handlers = handshakeHandlers := congrArg Prod.fst hunattended
  obtain ⟨counters, after, hdispatch, hafter⟩ := dispatch_handshake hhandlers hmem htype hran
  rw [hdispatch]
  constructor
  · exact tables_restored counters htables
  · have hnoted : Shaking peer result.2.1 (after.noted x) := by
      rcases hafter with ⟨-, rfl⟩ | ⟨error, herror, rfl⟩
      · exact h
      · have hrefused := hfails error herror
        rw [← h.link] at hrefused
        exact h.wire_note rfl (fun _ ↦ rfl) hrefused
    exact hnoted.of_eq rfl rfl rfl

/-- An end that dispatches a message of the handshake keeps the invariant. -/
theorem Shaking.dispatch (h : Shaking peer e (w.noted x)) (hpeer : peer.fault? = none)
    (hunattended : e.Unattended) (htype : header.type < 2)
    (hpayload : e.reception.region.payload = message.encode)
    (hlimit : message.limit = peer.advertisedLimit) :
    let dispatched := e.dispatch (Wire.environment clock x) header w
    dispatched.1.Unattended ∧ Shaking peer dispatched.1 (dispatched.2.noted x) := by
  let started : Endpoint (Wire σ) := { e with handlers := [], dispatching := true }
  let begun := w.note x (.dispatching header e.reception.region.payload)
  have hresets : e.resetCallbacks = [] := congrArg (·.2.1) hunattended
  have hlinks : e.linkCallbacks = [] := congrArg (·.2.2) hunattended
  have htables (cursor : Nat) : (started.withCursor cursor).tables = ([], [], []) := by
    simp only [tables, Prod.mk.injEq]
    exact ⟨rfl, hresets, hlinks⟩
  have hbegun : Shaking peer e (begun.noted x) := h.wire_note rfl (fun _ ↦ rfl) trivial
  have hmessage : started.reception.region.message = .ok message :=
    Incoming.message_of_payload hpayload
  rcases MessageType.eq_of_lt htype with hrequest | hresponse
  · obtain ⟨cursor, hran⟩ := @runHandler_answerRequest _ (Wire.environment clock x) started begun
      header message hmessage
    let opened := started.withCursor cursor
    let heard := begun.note x (.requestReceived header.id message)
    have hopened : Shaking peer opened (begun.noted x) := hbegun.of_eq rfl rfl rfl
    have hheard : Shaking peer opened (heard.noted x) :=
      hopened.wire_note rfl (fun _ ↦ rfl) trivial
    let recorded :=
      opened.recordPeer (Wire.environment clock x) message.connId message.connType heard
    let described := recorded.1.sendDescription (Wire.environment clock x)
      MessageType.connectResponse 0 recorded.2
    have hrecorded : Shaking peer recorded.1 (recorded.2.noted x) := hheard.recordPeer hresets _ _
    obtain ⟨houtcome, hlink, hdescribed⟩ :
        described.1 = peer.handshakeOutcome recorded.1.link.connected ∧
          described.2.1.link = recorded.1.link ∧
          Shaking peer described.2.1 (described.2.2.noted x) :=
      hrecorded.describe hpeer (by decide) 0
    have hfails : ∀ error, described.1 = .error error →
        peer.handshakeOutcome described.2.1.link.connected = .error error := by
      intro error herror
      rw [hlink, ← houtcome, herror]
    apply Shaking.dispatch_of_ran hunattended List.mem_cons_self hrequest.symm hran
    case htables =>
      exact ((aside_recordPeer _ _).trans (aside_sendDescription _ _)).tables.trans (htables cursor)
    case hfails => exact hfails
    case h => exact hdescribed
  · obtain ⟨cursor, hran⟩ := @runHandler_acceptResponse _ (Wire.environment clock x) started begun
      header message hmessage
    let opened := started.withCursor cursor
    let heard := begun.note x (.responseReceived header.id message)
    have hopened : Shaking peer opened (begun.noted x) := hbegun.of_eq rfl rfl rfl
    have hheard : Shaking peer opened (heard.noted x) :=
      hopened.wire_note rfl (fun _ ↦ rfl) trivial
    have hmem : ⟨MessageType.connectResponse, .acceptResponse⟩ ∈
        (handshakeHandlers : List (Registration (Wire σ))) :=
      List.mem_cons_of_mem _ List.mem_cons_self
    apply Shaking.dispatch_of_ran hunattended hmem hresponse.symm hran
    case htables => exact (aside_acceptResponse message).tables.trans (htables cursor)
    case hfails =>
      intro _ herror
      cases herror
    case h => exact hheard.acceptResponse hresets hlinks hlimit

/-- An end keeps the invariant when its application asks for a connection, looks after the link or
takes it down. -/
theorem Shaking.perform (h : Shaking peer e (w.noted x)) (hpeer : peer.fault? = none)
    (hunattended : e.Unattended) {request : Request} (hrequest : request.OfHandshake) :
    (e.perform (Wire.environment clock x) w request).2.1.Unattended ∧
      Shaking peer (e.perform (Wire.environment clock x) w request).2.1
        ((e.perform (Wire.environment clock x) w request).2.2.noted x) := by
  have hlinks : e.linkCallbacks = [] := congrArg (·.2.2) hunattended
  cases request with
  | requestConnection id =>
    have hperform : e.perform (Wire.environment clock x) w (.requestConnection id) =
        e.sendDescription (Wire.environment clock x) MessageType.connectRequest id w := rfl
    rw [hperform]
    exact ⟨(aside_sendDescription _ _).tables.trans hunattended,
      (h.describe hpeer (by decide) id).2.2⟩
  | checkConnection =>
    have hperform : e.perform (Wire.environment clock x) w .checkConnection =
        e.checkConnection (Wire.environment clock x) w := rfl
    rw [hperform]
    exact ⟨aside_checkConnection.tables.trans hunattended, (h.checkConnection hpeer hlinks).2⟩
  | disconnect =>
    have hperform : e.perform (Wire.environment clock x) w .disconnect =
        ((), e.disconnect (Wire.environment clock x) w) := rfl
    rw [hperform]
    exact ⟨aside_disconnect.tables.trans hunattended, (h.disconnect hlinks).2⟩
  | _ => exact hrequest.elim

variable {time : σ → Millis} {theirs : List Event}

/-- The invariant outlasts receiving from an end that sends messages of the handshake alone. -/
theorem lasting_shaking (hpeer : peer.fault? = none)
    (htheirs : ∀ frame ∈ sends theirs, frame.header.type < 2 ∧ ∃ message : ConnectMessage,
      frame.payload = message.encode ∧ message.limit = peer.advertisedLimit) :
    Lasting time x theirs fun e notes ↦ e.Unattended ∧ Shaking peer e notes where
  collecting {e e' notes more} _ hlink hout htables hmore h := by
    have hnoted : Shaking peer e (notes ++ more) :=
      append_refusals (fun hrefusal h ↦
        h.note hrefusal.sent? hrefusal.linkAfter (hrefusal.foreseen _ _)) hmore h.2
    exact ⟨htables.trans h.1,
      hnoted.of_eq (congrArg _ hout) (congrArg _ hlink) (congrArg _ hlink)⟩
  dispatch hsent h := by
    obtain ⟨htype, message, hpayload, hlimit⟩ := htheirs _ hsent
    exact h.2.dispatch hpeer h.1 htype hpayload hlimit

end Endpoint

namespace Pair

variable {σ : Type} {time : End → σ → Millis} {config : End → Config} {p p' : Pair σ} {x : End}

/-- What can happen between two ends that only shake hands: they poll, their applications ask for
connections, look after the links and take them down, and clocks move. -/
inductive ShakeStep (time : End → σ → Millis) (p : Pair σ) : Pair σ → Prop where
  | poll (x : End) (fuel : Nat) (hfuel : (p.wire.toward x).queue.octets.length < fuel) :
    ShakeStep time p (p.poll time x fuel)
  | ask (x : End) (request : Request) (hrequest : request.OfHandshake) :
    ShakeStep time p (p.run time x (.ask request fun _ ↦ .finish (.ok ())))
  | pass (x : End) (step : Wire σ → Wire σ) (hstep : Wire.courteous.changes step) :
    ShakeStep time p (p.run time x (.outside step fun _ ↦ .finish (.ok ())))

/-- The states that two new ends come to that only shake hands. -/
inductive Shaken (time : End → σ → Millis) (config : End → Config) : Pair σ → Prop where
  | start (localIds : End → UInt32) (ids : End → IdSupply) (app : σ) :
    Shaken time config (fresh config localIds ids app)
  | next {p p' : Pair σ} : Shaken time config p → ShakeStep time p p' → Shaken time config p'

/-- What holds of two ends between two operations. -/
structure InHand (config : End → Config) (p : Pair σ) : Prop where
  standing : Standing config p
  shaking (x : End) : (p.ends x).Unattended ∧
    Endpoint.Shaking (config x.other) (p.ends x) (p.wire.noted x)

theorem InHand.fair (h : InHand config p) : p.Fair config :=
  fun x ↦ fair_of_handshake (h.shaking x).2.messages

/-- All that an end has sent are messages that announce its own limit. -/
theorem InHand.messages (h : InHand config p) (x : End) :
    ∀ frame ∈ sends (p.wire.noted x), frame.header.type < 2 ∧ ∃ message : ConnectMessage,
      frame.payload = message.encode ∧ message.limit = (config x).advertisedLimit := by
  intro frame hmem
  have htype := (h.shaking x).2.messages frame hmem
  obtain ⟨event, hevent, hframe⟩ := List.mem_filterMap.mp hmem
  obtain ⟨before, after, hsplit⟩ := List.append_of_mem hevent
  obtain ⟨-, -, hmessage⟩ := (h.standing.speaking x).sent before event after hsplit frame hframe
  exact ⟨htype, hmessage htype⟩

/-- What one end does leaves what holds of the other in place. -/
theorem InHand.change (h : InHand config p) (hstanding : Standing config p')
    (hshaking : (p'.ends x).Unattended ∧
      Endpoint.Shaking (config x.other) (p'.ends x) (p'.wire.noted x))
    (hother : p'.ends x.other = p.ends x.other)
    (hnoted : p'.wire.noted x.other = p.wire.noted x.other) : InHand config p' := by
  refine ⟨hstanding, ?_⟩
  intro y
  rcases End.eq_or_eq_other x y with rfl | rfl
  · exact hshaking
  · rw [hother, hnoted]
    exact h.shaking x.other

theorem inHand_fresh (hconfig : ∀ x, (config x).fault? = none) (localIds : End → UInt32)
    (ids : End → IdSupply) (app : σ) : InHand config (fresh config localIds ids app) := by
  refine ⟨standing_fresh hconfig localIds ids app, fun x ↦ ⟨rfl, ?_⟩⟩
  have hsize := (Station.room_initial (hconfig x) (localIds x)).2
  have hbounds := ((config x).bounds_of_valid (hconfig x)).2.2.1
  constructor
  case room => exact Nat.le_trans hbounds (Nat.le_of_eq hsize.symm)
  case messages => exact fun _ hmem ↦ (nomatch hmem)
  case link => rfl
  case known => rfl
  case foreseen => exact inContext_nil _

/-- Each step keeps the invariant. -/
theorem InHand.step (hconfig : ∀ x, (config x).fault? = none)
    (hmode : (config .near).integrity = (config .far).integrity) (h : InHand config p)
    (hstep : ShakeStep time p p') : InHand config p' := by
  cases hstep with
  | poll x fuel hfuel =>
    have hsame := integrity_eq_other hmode x
    obtain ⟨hstanding, hshaking, hnoted⟩ := h.standing.poll hconfig hsame h.fair
      (Endpoint.lasting_shaking (hconfig x.other) (h.messages x.other)) (h.shaking x) hfuel
    exact h.change hstanding hshaking (ends_put_other p x _) hnoted
  | ask x request hrequest =>
    have hprogram : (Program.ask request fun _ ↦ .finish (.ok ()) : Program (Wire σ)).Within
        Wire.courteous := ⟨hrequest.courteous, fun _ ↦ trivial⟩
    obtain ⟨hstanding, hnoted⟩ := h.standing.run hconfig hprogram
    apply h.change hstanding ?_ (ends_put_other p x _) hnoted
    rw [run, ends_put]
    exact (h.shaking x).2.perform (hconfig x.other) (h.shaking x).1 hrequest
  | pass x step hstep =>
    have hprogram : (Program.outside step fun _ ↦ .finish (.ok ()) : Program (Wire σ)).Within
        Wire.courteous := ⟨hstep, fun _ ↦ trivial⟩
    have hstanding : Standing config (p.run time x (.outside step fun _ ↦ .finish (.ok ()))) :=
      (h.standing.run hconfig hprogram).1
    have hnoted : (step p.wire).noted = p.wire.noted := (hstep p.wire).2
    rw [run_outside] at hstanding ⊢
    refine ⟨hstanding, fun x ↦ ?_⟩
    rw [hnoted]
    exact h.shaking x

theorem inHand_of_shaken (hconfig : ∀ x, (config x).fault? = none)
    (hmode : (config .near).integrity = (config .far).integrity) (h : Shaken time config p) :
    InHand config p := by
  induction h with
  | start localIds ids app => exact inHand_fresh hconfig localIds ids app
  | next _ hstep ih => exact ih.step hconfig hmode hstep

/-- However two ends that only shake hands go on: at every time, a connect request of either end
fares as its link and the size of the other end's incoming region say, looking after the link fails
only where a request does, and whenever an answer was sent or a handler failed, this was what the
link and the size said then. So nothing ever fails toward an end with a region of at least 20
octets. -/
theorem handshakes_foreseen (hconfig : ∀ x, (config x).fault? = none)
    (hmode : (config .near).integrity = (config .far).integrity) (h : Shaken time config p)
    (x : End) :
    let env := Wire.environment (Endpoint.still (time x)) x
    let outcome := (config x.other).handshakeOutcome (p.ends x).link.connected
    (∀ id, ((p.ends x).requestConnection env id p.wire).1 = outcome) ∧
      (∀ error, ((p.ends x).checkConnection env p.wire).1 = .error error →
        outcome = .error error) ∧
      InContext (Foreseen (config x.other)) (p.wire.noted x) := by
  intro env outcome
  obtain ⟨hunattended, hshaking⟩ := (inHand_of_shaken hconfig hmode h).shaking x
  have hpeer := hconfig x.other
  have hlinks : (p.ends x).linkCallbacks = [] := congrArg (·.2.2) hunattended
  exact ⟨fun id ↦ (hshaking.describe hpeer (by decide) id).1,
    (hshaking.checkConnection hpeer hlinks).1, hshaking.foreseen⟩

/-- With regions of 20 octets, a second request gets through after a handshake. -/
theorem handshakes_foreseen_twenty :
    let config : End → Config := fun _ ↦ .ofSizes 20 18
    let time : End → Unit → Millis := fun _ _ ↦ 0
    let asked := (fresh config (End.pick 5 7) (fun _ ↦ ⟨[], 1⟩) ()).run time .near
      (.ask .checkConnection fun _ ↦ .finish (.ok ()))
    let connected := (asked.poll time .far 19).poll time .near 19
    (connected.ends .near).link.connected = true ∧
      ((connected.ends .near).requestConnection
        (Wire.environment (Endpoint.still (time .near)) .near) 5 connected.wire).1 = .ok () := by
  intro config time asked connected
  have hanswered : Shaken time config (asked.poll time .far 19) :=
    .next (.next (.start _ _ _) (.ask .near .checkConnection trivial))
      (.poll .far 19 (by decide +kernel))
  have hconnected : Shaken time config connected :=
    .next hanswered (.poll .near 19 (by decide +kernel))
  have hup : (connected.ends .near).link.connected = true := by decide +kernel
  have hrequest := (handshakes_foreseen (fun _ ↦ rfl) rfl hconnected .near).1 5
  rw [hup] at hrequest
  exact ⟨hup, hrequest⟩

/-- With regions of 18 octets, an end whose link is up can neither ask again nor answer a request of
the other end. -/
theorem handshake_refused :
    let config : End → Config := fun _ ↦ .ofSizes 18 18
    let time : End → Unit → Millis := fun _ _ ↦ 0
    (∀ x, (config x).fault? = none) ∧ (config .near).integrity = (config .far).integrity ∧
    ∃ p : Pair Unit, Shaken time config p ∧
      ((p.ends .near).requestConnection (Wire.environment (Endpoint.still (time .near)) .near) 5
        p.wire).1 = .error (.frame (.tooLarge 8 6)) ∧
      .handlerFailed (.plain MessageType.connectRequest 1 8) (.frame (.tooLarge 8 6)) ∈
        p.wire.noted .near := by
  intro config time
  refine ⟨fun _ ↦ rfl, rfl, ?_⟩
  let asked := (fresh config (End.pick 5 7) (fun _ ↦ ⟨[], 1⟩) ()).run time .near
    (.ask .checkConnection fun _ ↦ .finish (.ok ()))
  let connected := (asked.poll time .far 19).poll time .near 19
  let askedBack := connected.run time .far (.ask (.requestConnection 1) fun _ ↦ .finish (.ok ()))
  let last := askedBack.poll time .near 19
  have hanswered : Shaken time config (asked.poll time .far 19) :=
    .next (.next (.start _ _ _) (.ask .near .checkConnection trivial))
      (.poll .far 19 (by decide +kernel))
  have hconnected : Shaken time config connected :=
    .next hanswered (.poll .near 19 (by decide +kernel))
  have haskedBack : Shaken time config askedBack :=
    .next hconnected (.ask .far (.requestConnection 1) trivial)
  have hlast : Shaken time config last := .next haskedBack (.poll .near 19 (by decide +kernel))
  have hup : (last.ends .near).link.connected = true := by decide +kernel
  have hshaking := ((inHand_of_shaken (fun _ ↦ rfl) rfl hlast).shaking .near).2
  have hrefused : ((last.ends .near).requestConnection
      (Wire.environment (Endpoint.still (time .near)) .near) 5 last.wire).1 =
        (Config.ofSizes 18 18).handshakeOutcome (last.ends .near).link.connected :=
    (hshaking.describe rfl (by decide) 5).1
  rw [hup] at hrefused
  exact ⟨last, hlast, hrefused, by decide +kernel⟩

end Pair

end FramedLink
