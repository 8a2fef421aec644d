import FramedLink.Proofs.Link.Pair

/-!
# A host and its device

A host supervises its link and may take it down; its device does nothing but poll, so that all it
ever sends are answers. When the link is up and nothing is under way, the host knows the device by
its id, and the device knows the host by the id that the host announced in its last request. That is
the host's own id only if the host has not taken the link down since: a response does not say which
request it answers, so one that was under way when the link was taken down brings it up again.

`Endpoint.Asking` and `Endpoint.Answering` are what holds of the host and of the device with what
they have noted; neither mentions the other end, and what passes between the two is left to
`Pair.Standing`.
-/

namespace FramedLink

open LittleEndian in
/-- The octets of a message tell the id. -/
theorem ConnectMessage.connId_eq_of_encode_eq {message message' : ConnectMessage}
    (h : message.encode = message'.encode) : message.connId = message'.connId := by
  have hdigits : digits 4 message.connId.toNat = digits 4 message'.connId.toNat := by
    have htaken := congrArg (List.take 4) h
    rw [encode, encode, List.append_assoc, List.append_assoc] at htaken
    rwa [List.take_left' (length_digits 4 _), List.take_left' (length_digits 4 _)] at htaken
  calc
    message.connId = UInt32.ofNat (value (digits 4 message.connId.toNat)) :=
      (ofNat_value_digits_toNat _).symm
    _ = UInt32.ofNat (value (digits 4 message'.connId.toNat)) := by rw [hdigits]
    _ = message'.connId := ofNat_value_digits_toNat _

/-- The last of some frames is a message that announces an id. -/
def Announced (frames : List Frame) (id : UInt32) : Prop :=
  ∃ frame message, frames.getLast? = some frame ∧ frame.payload = ConnectMessage.encode message ∧
    message.connId = id

theorem announced_append (frames : List Frame) {frame : Frame} {message : ConnectMessage}
    (h : frame.payload = message.encode) : Announced (frames ++ [frame]) message.connId :=
  ⟨frame, message, List.getLast?_concat, h, rfl⟩

theorem Announced.unique {frames : List Frame} {id id' : UInt32} (h : Announced frames id)
    (h' : Announced frames id') : id = id' := by
  obtain ⟨frame, message, hlast, hpayload, rfl⟩ := h
  obtain ⟨frame', message', hlast', hpayload', rfl⟩ := h'
  obtain rfl := Option.some_inj.mp (hlast.symm.trans hlast')
  exact ConnectMessage.connId_eq_of_encode_eq (hpayload.symm.trans hpayload')

def Event.askedAfter (asked : Bool) : Event → Bool
  | .sent .. => true
  | .disconnected .. => false
  | _ => asked

/-- Whether an end has sent something since it last took its link down. -/
def asked (notes : List Event) : Bool :=
  notes.foldl Event.askedAfter false

theorem asked_append (notes : List Event) (event : Event) :
    asked (notes ++ [event]) = event.askedAfter (asked notes) :=
  List.foldl_append

theorem Event.IsRefusal.askedAfter {event : Event} (h : event.IsRefusal) (asked : Bool) :
    event.askedAfter asked = asked := by
  cases event <;> first | rfl | cases h

/-- What survives one refusal survives any number of them. -/
theorem append_refusals {P : List Event → Prop} {notes more : List Event}
    (hnote : ∀ {notes event}, Event.IsRefusal event → P notes → P (notes ++ [event]))
    (hmore : ∀ event ∈ more, event.IsRefusal) (h : P notes) : P (notes ++ more) := by
  induction more generalizing notes with
  | nil => rwa [List.append_nil]
  | cons event more ih =>
    rw [List.forall_mem_cons] at hmore
    rw [List.append_cons]
    exact ih hmore.2 (hnote hmore.1 h)

namespace Endpoint

variable {σ : Type} {clock : σ → Millis × σ} {x : End}
variable {e e' : Endpoint (Wire σ)} {w w' : Wire σ} {notes : List Event} {event : Event}

/-- Where there is room, what an end says about itself is sent and noted as a message, or nothing is
noted. -/
theorem noted_sendDescription (type id : UInt8)
    (hroom : frameOverhead + ConnectMessage.size ≤ e.outgoing.region.size) :
    let described := e.sendDescription (Wire.environment clock x) type id w
    described.2.1.link = e.link ∧
      described.2.1.outgoing.region.size = e.outgoing.region.size ∧
      (described.2.2.noted x = w.noted x ∨
        described.2.2.noted x = w.noted x ++ [.sent type id e.description.encode]) := by
  obtain ⟨outgoing, hsize, hpayload, hsent⟩ :=
    @sendDescription_eq _ (Wire.environment clock x) e w type id hroom
  have hattempt : Attempt (Wire.environment clock x) type id ConnectMessage.size
    { e with outgoing } w _ := attempt_send type id ConnectMessage.size
  obtain ⟨hlink, hsize'⟩ := @link_send _ (Wire.environment clock x) { e with outgoing } w type id
    ConnectMessage.size
  rw [hsent]
  refine ⟨hlink, hsize'.trans hsize, ?_⟩
  generalize { e with outgoing }.send (Wire.environment clock x) type id ConnectMessage.size w =
    result at hattempt ⊢
  cases hattempt with
  | refused error => exact .inl rfl
  | cut frame sealed error _ _ => exact .inl rfl
  | sent frame sealed _ hsealed =>
    have hlarge : frameOverhead ≤ outgoing.region.size := by
      rw [hsize]
      exact Nat.le_trans (Nat.le_add_right _ _) hroom
    obtain ⟨-, -, hkept, -⟩ := Outgoing.sealFrame_ok hlarge hsealed
    right
    rw [← hpayload, ← hkept]
    exact Wire.noted_note x _ _

theorem fireLink_of_no_callbacks (hnone : e.linkCallbacks = []) (event : LinkEvent)
    (w : Wire σ) : e.fireLink event w = w := by
  rw [fireLink, hnone]
  rfl

/-- Dropping a peer, with nobody to be told. -/
theorem Replacement.unnoticed {connId : UInt32} {result : Endpoint (Wire σ) × Wire σ}
    (h : Replacement connId e w result) (hnone : e.linkCallbacks = []) : result.2 = w := by
  cases h with
  | same _ => rfl
  | replaced _ _ => exact fireLink_of_no_callbacks hnone _ w

/-- Taking note of a peer, with nobody to be told that its id is new. -/
theorem Recording.noted {connId : UInt32} {connType : UInt16}
    {result : Endpoint (Wire σ) × Wire σ}
    (h : Recording (Wire.environment clock x) connId connType e w result)
    (hnone : e.resetCallbacks = []) :
    result.2.noted x = w.noted x ∨
      ∃ previous, result.2.noted x = w.noted x ++ [.peerReset previous connId connType] := by
  cases h with
  | known _ => exact .inl rfl
  | renamed _ =>
    right
    refine ⟨e.link.remoteId, ?_⟩
    rw [fireReset, hnone]
    exact Wire.noted_note x _ w

/-- Bringing the link up, with nobody to be told. -/
theorem Raising.noted {message : ConnectMessage} {result : Endpoint (Wire σ) × Wire σ}
    (h : Raising (Wire.environment clock x) message e w result) (hnone : e.linkCallbacks = []) :
    result.2.noted x = w.noted x ∨ result.2.noted x = w.noted x ++ [.connected message] := by
  cases h with
  | idle _ => exact .inl rfl
  | up _ =>
    right
    rw [fireLink_of_no_callbacks hnone]
    exact Wire.noted_note x _ w

/-! ## The host -/

/-- A host that leaves everything but its link alone. -/
def hosting : Conduct (Wire σ) where
  asks request := request = .checkConnection ∨ request = .disconnect
  changes _ := False

theorem callbacks_of_hosting (h : e.Within hosting) :
    e.resetCallbacks = [] ∧ e.linkCallbacks = [] := by
  constructor
  · exact List.eq_nil_iff_forall_not_mem.mpr fun callback hmem ↦ h.resetCallbacks callback hmem
  · exact List.eq_nil_iff_forall_not_mem.mpr fun callback hmem ↦
      (h.linkCallbacks callback hmem).elim id fun hchange ↦ hchange (.disconnected 0)

theorem deliveries_append_ne_nil (h : deliveries notes ≠ []) (more : List Event) :
    deliveries (notes ++ more) ≠ [] := by
  rw [deliveries_append]
  exact List.append_ne_nil_of_left_ne_nil h _

/-- What holds of a host and its notes, whose device has the id `device`: it has sent nothing but
requests, the last of which announces its id if it has sent one since it last took its link down;
and it has its link up only to this device, and only after an answer. -/
structure Asking (device : UInt32) (e : Endpoint (Wire σ)) (notes : List Event) : Prop where
  room : frameOverhead + ConnectMessage.size ≤ e.outgoing.region.size
  requests : ∀ frame ∈ sends notes, frame.header.type = MessageType.connectRequest ∧
    ∃ message : ConnectMessage, frame.payload = message.encode
  current : asked notes = true → Announced (sends notes) e.link.localId
  up : e.link.connected = true → e.link.remoteId = device ∧ deliveries notes ≠ []

variable {device : UInt32}

/-- Only what is sent and when the link is taken down matters. -/
theorem Asking.note (h : Asking device e notes) (hsent : event.sent? = none)
    (hasked : ∀ asked, event.askedAfter asked = asked) : Asking device e (notes ++ [event]) where
  room := h.room
  requests := by
    rw [sends_of_silent _ hsent]
    exact h.requests
  current := by
    rw [sends_of_silent _ hsent, asked_append, hasked]
    exact h.current
  up hup := by
    obtain ⟨hremote, hanswered⟩ := h.up hup
    exact ⟨hremote, deliveries_append_ne_nil hanswered _⟩

theorem Asking.of_eq (h : Asking device e notes)
    (hroom : e'.outgoing.region.size = e.outgoing.region.size)
    (hlocal : e'.link.localId = e.link.localId)
    (hup : e'.link.connected = true → e.link.connected = true ∧
      e'.link.remoteId = e.link.remoteId) :
    Asking device e' notes where
  room := hroom ▸ h.room
  requests := h.requests
  current := hlocal ▸ h.current
  up hconnected := by
    obtain ⟨hbefore, hremote⟩ := hup hconnected
    exact hremote ▸ h.up hbefore

/-- A request under the id of the host is noted. -/
theorem Asking.sent (h : Asking device e notes) (id : UInt8) {message : ConnectMessage}
    (hlocal : message.connId = e.link.localId) :
    Asking device e (notes ++ [.sent MessageType.connectRequest id message.encode]) where
  room := h.room
  requests := by
    rw [sends_sent]
    intro frame hmem
    rcases List.mem_append.mp hmem with hold | hnew
    · exact h.requests frame hold
    · rw [List.mem_singleton.mp hnew]
      exact ⟨rfl, message, rfl⟩
  current := by
    intro _
    rw [sends_sent, ← hlocal]
    exact announced_append _ rfl
  up hup := by
    obtain ⟨hremote, hanswered⟩ := h.up hup
    exact ⟨hremote, deliveries_append_ne_nil hanswered _⟩

theorem Asking.request (h : Asking device e (w.noted x)) (id : UInt8) :
    let described := e.sendDescription (Wire.environment clock x) MessageType.connectRequest id w
    Asking device described.2.1 (described.2.2.noted x) := by
  obtain ⟨hlink, hsize, hnoted⟩ :=
    @noted_sendDescription σ clock x e w MessageType.connectRequest id h.room
  intro described
  have hkept {notes : List Event} (h : Asking device e notes) :
      Asking device described.2.1 notes :=
    h.of_eq hsize (congrArg _ hlink) fun hup ↦
      ⟨(congrArg LinkState.connected hlink).symm.trans hup, congrArg _ hlink⟩
  rcases hnoted with hnoted | hnoted
  · rw [hnoted]
    exact hkept h
  · rw [hnoted]
    exact hkept (h.sent id rfl)

/-- A host that takes its link down has not asked under its new id yet. -/
theorem Asking.disconnect (h : Asking device e (w.noted x)) (hwithin : e.Within hosting) :
    Asking device (e.disconnect (Wire.environment clock x) w).1
      ((e.disconnect (Wire.environment clock x) w).2.noted x) := by
  have hdisconnection : Disconnection (Wire.environment clock x) e w
    (e.disconnect (Wire.environment clock x) w) := disconnection_disconnect
  generalize e.disconnect (Wire.environment clock x) w = result at hdisconnection ⊢
  cases hdisconnection with
  | idle _ => exact h
  | down _ drawn hdrawn =>
    have hnoted : ((Wire.environment clock x).note (.disconnected e.link.remoteId drawn.1)
        drawn.2).noted x = w.noted x ++ [.disconnected e.link.remoteId drawn.1] := by
      rw [← hdrawn]
      exact Wire.noted_note x _ _
    rw [fireLink_of_no_callbacks (callbacks_of_hosting hwithin).2, hnoted]
    constructor
    case room => exact h.room
    case requests =>
      rw [sends_of_silent _ rfl]
      exact h.requests
    case current =>
      rw [asked_append]
      intro hasked
      exact nomatch hasked
    case up =>
      intro hup
      exact nomatch hup

/-- A host that accepts an answer of its device has its link up to it. -/
theorem Asking.acceptResponse (h : Asking device e (w.noted x)) (hwithin : e.Within hosting)
    (hanswered : deliveries (w.noted x) ≠ []) {message : ConnectMessage}
    (hdevice : message.connId = device) :
    Asking device (e.acceptResponse (Wire.environment clock x) message w).1
      ((e.acceptResponse (Wire.environment clock x) message w).2.noted x) := by
  subst hdevice
  obtain ⟨dropped, recorded, hdropped, hrecorded, hraised⟩ :=
    @acceptResponse_steps _ (Wire.environment clock x) e w message
  have hanswered_within : (e.answeredAt ((Wire.environment clock x).now w).1 message.limit).Within
      hosting := hwithin.of_tables rfl
  have hdropped_within : dropped.1.Within hosting := hanswered_within.of_aside hdropped.aside
  have hrecorded_within : recorded.1.Within hosting := hdropped_within.of_aside hrecorded.aside
  -- whatever was noted on the way, the link is up to the device in the end
  have hup {notes : List Event} (h : Asking message.connId e notes)
      (hdelivered : deliveries notes ≠ []) :
      Asking message.connId (e.acceptResponse (Wire.environment clock x) message w).1 notes := by
    obtain ⟨connected, hdropped_eq, -⟩ := hdropped.link
    obtain ⟨_, hrecorded_eq⟩ := hrecorded.link
    obtain ⟨_, hraised_eq⟩ := hraised.link
    rw [hraised_eq, hrecorded_eq, hdropped_eq]
    exact ⟨h.room, h.requests, h.current, fun _ ↦ ⟨rfl, hdelivered⟩⟩
  have hdropped_noted : dropped.2.noted x = w.noted x := by
    rw [hdropped.unnoticed (callbacks_of_hosting hanswered_within).2]
    rfl
  have hrecorded_noted : Asking message.connId e (recorded.2.noted x) ∧
      deliveries (recorded.2.noted x) ≠ [] := by
    rcases hrecorded.noted (callbacks_of_hosting hdropped_within).1 with hsame | ⟨previous, hreset⟩
    · rw [hsame, hdropped_noted]
      exact ⟨h, hanswered⟩
    · rw [hreset, hdropped_noted]
      exact ⟨h.note rfl fun _ ↦ rfl, deliveries_append_ne_nil hanswered _⟩
  rcases hraised.noted (callbacks_of_hosting hrecorded_within).2 with hsame | hconnected
  · rw [hsame]
    exact hup hrecorded_noted.1 hrecorded_noted.2
  · rw [hconnected]
    exact hup (hrecorded_noted.1.note rfl fun _ ↦ rfl)
      (deliveries_append_ne_nil hrecorded_noted.2 _)

/-- A host that handles a packet: if it is an answer, it has been noted, and it is one of the
device. -/
structure Hosting (device : UInt32) (x : End) (header : Header) (e : Endpoint (Wire σ))
    (w : Wire σ) : Prop where
  asking : Asking device e (w.noted x)
  answer : header.type = MessageType.connectResponse → deliveries (w.noted x) ≠ [] ∧
    ∀ message, e.reception.region.message = .ok message → message.connId = device

theorem Hosting.note {header : Header} (h : Hosting device x header e w)
    (hsent : event.sent? = none) (hasked : ∀ asked, event.askedAfter asked = asked) :
    Hosting device x header e (w.note x event) := by
  refine ⟨?_, fun htype ↦ ⟨?_, (h.answer htype).2⟩⟩
  · rw [Wire.noted_note]
    exact h.asking.note hsent hasked
  · rw [Wire.noted_note]
    exact deliveries_append_ne_nil (h.answer htype).1 _

theorem within_listening (h : e.Within hosting) :
    e.Within (Wire.listening (fun _ ↦ True) x) := by
  refine h.mono ?_ (fun _ hchange ↦ hchange.elim) (fun _ ↦ id)
  rintro request (rfl | rfl) size hread <;> cases hread

theorem Hosting.of_aside {header : Header} (h : Hosting device x header e w)
    (haside : e.Aside e') (huntouched : Wire.Untouched (fun _ ↦ True) x w w')
    (hasking : Asking device e' (w'.noted x)) : Hosting device x header e' w' := by
  refine ⟨hasking, ?_⟩
  rw [huntouched.delivered, haside.reception]
  exact h.answer

/-- Handling anything but a request keeps the invariant of a host. -/
theorem upheld_hosting {header : Header} (hheader : header.type ≠ MessageType.connectRequest) :
    Upheld (Wire.environment clock x) hosting header (Hosting device x header) where
  change hchange _ := hchange.elim
  cursor _ h := ⟨h.asking.of_eq rfl rfl fun hup ↦ ⟨hup, rfl⟩, h.answer⟩
  incoming hasks _ := by rcases hasks with hasks | hasks <;> cases hasks
  outgoing hasks _ := by rcases hasks with hasks | hasks <;> cases hasks
  send hasks _ := by rcases hasks with (hasks | hasks) | ⟨hasks | hasks, -⟩ <;> cases hasks
  describe id htype h := by
    obtain rfl := htype.resolve_right fun hanswer ↦ hheader hanswer.2
    exact h.of_aside (aside_sendDescription _ _) (untouched_sendDescription _ _)
      (h.asking.request id)
  now h := ⟨h.asking, h.answer⟩
  silent _ _ h := h.note rfl fun _ ↦ rfl
  schedule _ _ h := ⟨h.asking.of_eq rfl rfl fun hup ↦ ⟨hup, rfl⟩, h.answer⟩
  disconnect hwithin h :=
    h.of_aside aside_disconnect (untouched_disconnect (within_listening hwithin))
      (h.asking.disconnect hwithin)
  request htype := absurd htype hheader
  response {e w message} htype hwithin hmessage h := by
    have hnoted : Hosting device x header e (w.note x (.responseReceived header.id message)) :=
      h.note rfl fun _ ↦ rfl
    obtain ⟨hanswered, hdevice⟩ := hnoted.answer htype
    exact hnoted.of_aside (aside_acceptResponse _)
      (untouched_acceptResponse _ (within_listening hwithin))
      (hnoted.asking.acceptResponse hwithin hanswered (hdevice _ hmessage))
  failed _ h := h.note rfl fun _ ↦ rfl
  handlers _ _ h := ⟨h.asking.of_eq rfl rfl fun hup ↦ ⟨hup, rfl⟩, h.answer⟩
  resetCallback hchange _ := hchange.elim
  linkCallback hchange _ := (hchange (.disconnected 0)).elim
  available hasks _ := by rcases hasks with hasks | hasks <;> cases hasks
  read hasks _ := by rcases hasks with hasks | hasks <;> cases hasks
  write hasks _ := by rcases hasks with hasks | hasks <;> cases hasks

variable {time : σ → Millis} {theirs : List Event}

/-- The host keeps its invariant while it receives answers of its device. -/
theorem lasting_asking (hanswers : ∀ frame ∈ sends theirs,
    frame.header.type = MessageType.connectResponse ∧
      ∃ message : ConnectMessage, frame.payload = message.encode ∧ message.connId = device) :
    Lasting time x theirs fun e notes ↦ e.Within hosting ∧ Asking device e notes where
  collecting {e e' notes more} _ hlink hout htables hmore h := by
    have hnoted : Asking device e (notes ++ more) :=
      append_refusals (fun hrefusal h ↦ h.note hrefusal.sent? hrefusal.askedAfter) hmore h.2
    exact ⟨h.1.of_tables htables, hnoted.of_eq (congrArg _ hout) (congrArg _ hlink) fun hup ↦
      ⟨hlink ▸ hup, congrArg _ hlink⟩⟩
  dispatch {e w header} hsent h := by
    obtain ⟨htype, message, hpayload, hdevice⟩ := hanswers _ hsent
    have hheader : header.type ≠ MessageType.connectRequest := by
      rw [show header.type = MessageType.connectResponse from htype]
      decide
    have hupheld : Upheld (Wire.environment (still time) x) hosting header
        (Hosting device x header) := upheld_hosting hheader
    have hstart : Hosting device x header e
        (w.note x (.dispatching header e.reception.region.payload)) := by
      refine ⟨?_, fun _ ↦ ⟨?_, ?_⟩⟩
      · rw [Wire.noted_note]
        exact h.2.note rfl fun _ ↦ rfl
      · rw [Wire.noted_note, deliveries_append]
        exact List.append_ne_nil_of_right_ne_nil _ (List.cons_ne_nil _ _)
      · intro message' hmessage
        rw [Incoming.message_of_payload hpayload] at hmessage
        exact Except.ok.inj hmessage ▸ hdevice
    obtain ⟨hkept, hwithin⟩ := hupheld.dispatch
      (fun _ h ↦ ⟨h.asking.of_eq rfl rfl fun hup ↦ ⟨hup, rfl⟩, h.answer⟩)
      (fun h ↦ h.note rfl fun _ ↦ rfl) h.1 hstart
    exact ⟨hwithin, hkept.asking⟩

/-! ## The device -/

def handshakeHandlers {ω : Type} : List (Registration ω) :=
  [⟨MessageType.connectRequest, .answerRequest⟩, ⟨MessageType.connectResponse, .acceptResponse⟩]

/-- With no other handlers registered, a round for a message of the handshake runs the handler of
its type alone. -/
theorem runRound_handshake {ω : Type} {env : Environment ω} (round : Round) (e : Endpoint ω)
    (w : ω) {header : Header} {registration : Registration ω}
    (hmem : registration ∈ handshakeHandlers) (htype : registration.type = header.type) :
    runRound env header handshakeHandlers.reverse round e w =
      match (e.withCursor headerSize).runHandler env header registration.handler w with
      | (.ok (), e, w) => (⟨round.matched + 1, round.failed⟩, e, w)
      | (.error error, e, w) =>
        (⟨round.matched + 1, round.failed + 1⟩, e, env.note (.handlerFailed header error) w) := by
  have hreverse : (handshakeHandlers : List (Registration ω)).reverse =
      [⟨MessageType.connectResponse, .acceptResponse⟩,
        ⟨MessageType.connectRequest, .answerRequest⟩] := rfl
  rw [hreverse, runRound]
  have hapart : MessageType.connectRequest ≠ MessageType.connectResponse := by decide
  rcases List.mem_cons.mp hmem with rfl | hmem
  · have hother : ¬ MessageType.connectResponse = header.type := by
      rw [← htype]
      exact hapart.symm
    rw [if_neg hother, runRound, if_pos htype]
    rfl
  · obtain rfl := List.mem_singleton.mp hmem
    have hother : ¬ MessageType.connectRequest = header.type := by
      rw [← htype]
      exact hapart
    rw [if_pos htype]
    simp only [runRound, hother, if_false]
    rfl

/-- A connect request is answered once its sender has been taken note of. -/
theorem runHandler_answerRequest {ω : Type} {env : Environment ω} {e : Endpoint ω} {w : ω}
    {header : Header} {message : ConnectMessage}
    (hmessage : e.reception.region.message = .ok message) :
    ∃ cursor, (e.withCursor headerSize).runHandler env header .answerRequest w =
      let recorded := (e.withCursor cursor).recordPeer env message.connId message.connType
        (env.note (.requestReceived header.id message) w)
      recorded.1.sendDescription env MessageType.connectResponse 0 recorded.2 := by
  obtain ⟨cursor, hread⟩ := (e.withCursor headerSize).readMessage_eq
  have hread_message : (ConnectMessage.read (e.withCursor headerSize).reception.region).1 =
      .ok message := hmessage
  rw [hread_message] at hread
  refine ⟨cursor, ?_⟩
  simp only [runHandler, hread]
  rfl

/-- Where a handler has registered nothing, the handlers put back after it are those of a new
endpoint. -/
theorem tables_restored {ω : Type} {e : Endpoint ω} (counters : Counters)
    (h : e.tables = ([], [], [])) :
    ({ e with handlers := handshakeHandlers ++ e.handlers, dispatching := false, counters } :
      Endpoint ω).tables = (handshakeHandlers, [], []) := by
  simp only [tables, Prod.mk.injEq] at h ⊢
  refine ⟨?_, h.2⟩
  rw [h.1, List.append_nil]

/-- With no other handlers registered, a message of the handshake is dispatched to the handler of
its type alone. -/
theorem dispatch_handshake {ω : Type} {env : Environment ω} {e : Endpoint ω} {w : ω}
    {header : Header} {registration : Registration ω}
    {result : Except EndpointError Unit × Endpoint ω × ω}
    (hhandlers : e.handlers = handshakeHandlers) (hmem : registration ∈ handshakeHandlers)
    (htype : registration.type = header.type)
    (hran : ({ e with handlers := [], dispatching := true }.withCursor headerSize).runHandler env
      header registration.handler (env.note (.dispatching header e.reception.region.payload) w) =
        result) :
    ∃ (counters : Counters) (after : ω), e.dispatch env header w =
      ({ result.2.1 with
          handlers := handshakeHandlers ++ result.2.1.handlers, dispatching := false, counters },
        after) ∧
      (result.1 = .ok () ∧ after = result.2.2 ∨
        ∃ error, result.1 = .error error ∧
          after = env.note (.handlerFailed header error) result.2.2) := by
  unfold dispatch
  dsimp only
  rw [hhandlers, runRound_handshake _ _ _ hmem htype, hran]
  obtain ⟨outcome, e', w'⟩ := result
  cases outcome with
  | error error => exact ⟨_, _, rfl, .inr ⟨error, rfl, rfl⟩⟩
  | ok => exact ⟨_, _, rfl, .inl ⟨rfl, rfl⟩⟩

/-- What holds of a device with a given id and its notes: it has sent nothing but answers, and only
after it has heard of the host, and it knows the host by the id in the last packet dispatched. -/
structure Answering (device : UInt32) (e : Endpoint (Wire σ)) (notes : List Event) : Prop where
  room : frameOverhead + ConnectMessage.size ≤ e.outgoing.region.size
  localId : e.link.localId = device
  answers : ∀ frame ∈ sends notes, frame.header.type = MessageType.connectResponse ∧
    ∃ message : ConnectMessage, frame.payload = message.encode ∧ message.connId = device
  heard : sends notes ≠ [] → deliveries notes ≠ []
  known : deliveries notes ≠ [] → Announced (deliveries notes) e.link.remoteId

theorem Answering.note (h : Answering device e notes) (hsent : event.sent? = none)
    (hdispatched : event.dispatched? = none) : Answering device e (notes ++ [event]) where
  room := h.room
  localId := h.localId
  answers := by
    rw [sends_of_silent _ hsent]
    exact h.answers
  heard := by
    rw [sends_of_silent _ hsent, deliveries_of_silent _ hdispatched]
    exact h.heard
  known := by
    rw [deliveries_of_silent _ hdispatched]
    exact h.known

theorem Answering.of_eq (h : Answering device e notes)
    (hroom : e'.outgoing.region.size = e.outgoing.region.size) (hlink : e'.link = e.link) :
    Answering device e' notes where
  room := hroom ▸ h.room
  localId := hlink ▸ h.localId
  answers := h.answers
  heard := h.heard
  known := hlink ▸ h.known

/-- An answer under the id of the device is noted. -/
theorem Answering.sent (h : Answering device e notes) (hheard : deliveries notes ≠ []) (id : UInt8)
    {message : ConnectMessage} (hlocal : message.connId = device) :
    Answering device e (notes ++ [.sent MessageType.connectResponse id message.encode]) where
  room := h.room
  localId := h.localId
  answers := by
    rw [sends_sent]
    intro frame hmem
    rcases List.mem_append.mp hmem with hold | hnew
    · exact h.answers frame hold
    · rw [List.mem_singleton.mp hnew]
      exact ⟨rfl, message, rfl, hlocal⟩
  heard _ := deliveries_append_ne_nil hheard _
  known := by
    rw [deliveries_of_silent _ rfl]
    exact h.known

theorem Answering.answer (h : Answering device e (w.noted x)) (hheard : deliveries (w.noted x) ≠ [])
    (id : UInt8) :
    let described := e.sendDescription (Wire.environment clock x) MessageType.connectResponse id w
    Answering device described.2.1 (described.2.2.noted x) := by
  obtain ⟨hlink, hsize, hnoted⟩ :=
    @noted_sendDescription σ clock x e w MessageType.connectResponse id h.room
  intro described
  rcases hnoted with hnoted | hnoted
  · rw [hnoted]
    exact h.of_eq hsize hlink
  · rw [hnoted]
    exact (h.sent hheard id h.localId).of_eq hsize hlink

theorem Answering.dispatched (h : Answering device e notes) {header : Header}
    {message : ConnectMessage} (hout : e'.outgoing = e.outgoing)
    (hlocal : e'.link.localId = e.link.localId) (hremote : e'.link.remoteId = message.connId) :
    Answering device e' (notes ++ [.dispatching header message.encode]) where
  room := hout ▸ h.room
  localId := hlocal.trans h.localId
  answers := by
    rw [sends_of_silent _ rfl]
    exact h.answers
  heard := by
    rw [deliveries_dispatching]
    intro _
    exact List.append_ne_nil_of_right_ne_nil _ (List.cons_ne_nil _ _)
  known := by
    rw [deliveries_dispatching, hremote]
    intro _
    exact announced_append _ rfl

/-- The device knows its host by the id in a request from the moment it records it. -/
theorem Answering.recordPeer (h : Answering device e (w.noted x)) (hresets : e.resetCallbacks = [])
    (header : Header) (message : ConnectMessage) :
    let heard := (w.note x (.dispatching header message.encode)).note x
      (.requestReceived header.id message)
    let recorded := e.recordPeer (Wire.environment clock x) message.connId message.connType heard
    Answering device recorded.1 (recorded.2.noted x) ∧ deliveries (recorded.2.noted x) ≠ [] := by
  intro heard recorded
  have hrecording : Recording (Wire.environment clock x) message.connId message.connType e heard
    recorded := recording_recordPeer _ _
  have hdispatched : Answering device recorded.1
      (w.noted x ++ [.dispatching header message.encode]) := by
    obtain ⟨counters, hrecorded⟩ := hrecording.link
    rw [hrecorded]
    exact h.dispatched rfl rfl rfl
  have hdelivered : deliveries (w.noted x ++ [.dispatching header message.encode]) ≠ [] := by
    rw [deliveries_dispatching]
    exact List.append_ne_nil_of_right_ne_nil _ (List.cons_ne_nil _ _)
  have hheard : heard.noted x = w.noted x ++ [.dispatching header message.encode] ++
      [.requestReceived header.id message] := by
    rw [Wire.noted_note, Wire.noted_note]
  rcases hrecording.noted hresets with hsame | ⟨previous, hreset⟩
  · rw [hsame, hheard]
    exact ⟨hdispatched.note rfl rfl, deliveries_append_ne_nil hdelivered _⟩
  · rw [hreset, hheard]
    exact ⟨(hdispatched.note rfl rfl).note rfl rfl,
      deliveries_append_ne_nil (deliveries_append_ne_nil hdelivered _) _⟩

/-- The device keeps its invariant when it dispatches a request. -/
theorem Answering.dispatch {header : Header} {message : ConnectMessage}
    (h : Answering device e (w.noted x)) (htables : e.tables = (handshakeHandlers, [], []))
    (htype : header.type = MessageType.connectRequest)
    (hpayload : e.reception.region.payload = message.encode) :
    let dispatched := e.dispatch (Wire.environment clock x) header w
    dispatched.1.tables = (handshakeHandlers, [], []) ∧
      Answering device dispatched.1 (dispatched.2.noted x) := by
  obtain ⟨hhandlers, hresets, hlinks⟩ : e.handlers = handshakeHandlers ∧
      e.resetCallbacks = [] ∧ e.linkCallbacks = [] := by
    simpa only [tables, Prod.mk.injEq] using htables
  let started : Endpoint (Wire σ) := { e with handlers := [], dispatching := true }
  obtain ⟨cursor, hran⟩ := @runHandler_answerRequest _ (Wire.environment clock x) started
    (w.note x (.dispatching header e.reception.region.payload)) header message
    (Incoming.message_of_payload hpayload)
  obtain ⟨counters, after, hdispatch, hafter⟩ :=
    dispatch_handshake hhandlers List.mem_cons_self htype.symm hran
  let opened := started.withCursor cursor
  let heard := (w.note x (.dispatching header message.encode)).note x
    (.requestReceived header.id message)
  let recorded := opened.recordPeer (Wire.environment clock x) message.connId message.connType heard
  let described := recorded.1.sendDescription (Wire.environment clock x)
    MessageType.connectResponse 0 recorded.2
  have hopened : Answering device opened (w.noted x) := h.of_eq rfl rfl
  have hrecorded : Answering device recorded.1 (recorded.2.noted x) ∧
      deliveries (recorded.2.noted x) ≠ [] := hopened.recordPeer hresets header message
  have hdescribed : Answering device described.2.1 (described.2.2.noted x) :=
    hrecorded.1.answer hrecorded.2 0
  have haside : opened.Aside described.2.1 :=
    (aside_recordPeer _ _).trans (aside_sendDescription _ _)
  have htables' : described.2.1.tables = ([], [], []) := by
    rw [haside.tables, ← hresets, ← hlinks]
    rfl
  rw [hpayload] at hdispatch
  rw [hdispatch]
  constructor
  · exact tables_restored counters htables'
  · have hkept : Answering device { described.2.1 with
        handlers := handshakeHandlers ++ described.2.1.handlers, dispatching := false, counters }
        (described.2.2.noted x) := hdescribed.of_eq rfl rfl
    rcases hafter with ⟨-, rfl⟩ | ⟨error, -, rfl⟩
    · rw [hpayload]
      exact hkept
    · rw [hpayload]
      have hnoted := Wire.noted_note x (.handlerFailed header error) described.2.2
      exact hnoted.symm ▸ hkept.note rfl rfl

/-- The device keeps its invariant while it receives requests of its host. -/
theorem lasting_answering (hrequests : ∀ frame ∈ sends theirs,
    frame.header.type = MessageType.connectRequest ∧
      ∃ message : ConnectMessage, frame.payload = message.encode) :
    Lasting time x theirs fun e notes ↦
      e.tables = (handshakeHandlers, [], []) ∧ Answering device e notes where
  collecting {e e' notes more} _ hlink hout htables hmore h := by
    have hnoted : Answering device e (notes ++ more) :=
      append_refusals (fun hrefusal h ↦ h.note hrefusal.sent? hrefusal.dispatched?) hmore h.2
    exact ⟨htables.trans h.1, hnoted.of_eq (congrArg _ hout) hlink⟩
  dispatch hsent h := by
    obtain ⟨htype, message, hpayload⟩ := hrequests _ hsent
    exact h.2.dispatch h.1 htype hpayload

end Endpoint

namespace Pair

variable {σ : Type} {time : End → σ → Millis} {config : End → Config} {p p' : Pair σ}
variable {device : UInt32}

/-- What can happen between a host, which is the near end, and its device: both poll, the host looks
after its link or takes it down, and clocks move. -/
inductive HostStep (time : End → σ → Millis) (p : Pair σ) : Pair σ → Prop where
  | poll (x : End) (fuel : Nat) (hfuel : (p.wire.toward x).queue.octets.length < fuel) :
    HostStep time p (p.poll time x fuel)
  | check : HostStep time p (p.run time .near (.ask .checkConnection fun _ ↦ .finish (.ok ())))
  | disconnect : HostStep time p (p.run time .near (.ask .disconnect fun _ ↦ .finish (.ok ())))
  | pass (x : End) (step : Wire σ → Wire σ) (hstep : Wire.courteous.changes step) :
    HostStep time p (p.run time x (.outside step fun _ ↦ .finish (.ok ())))

/-- The states that a new host and a new device come to. -/
inductive Hosted (time : End → σ → Millis) (config : End → Config) : Pair σ → Prop where
  | start (localIds : End → UInt32) (ids : End → IdSupply) (app : σ) :
    Hosted time config (fresh config localIds ids app)
  | next {p p' : Pair σ} : Hosted time config p → HostStep time p p' → Hosted time config p'

/-- What holds of a host and its device between two operations. -/
structure Agreeing (config : End → Config) (device : UInt32) (p : Pair σ) : Prop where
  standing : Standing config p
  host : (p.ends .near).Within Endpoint.hosting ∧
    Endpoint.Asking device (p.ends .near) (p.wire.noted .near)
  device : (p.ends .far).tables = (Endpoint.handshakeHandlers, [], []) ∧
    Endpoint.Answering device (p.ends .far) (p.wire.noted .far)

/-- Whoever sends nothing but messages of the handshake is fair. -/
theorem fair_of_handshake {notes : List Event} {limit : Nat}
    (h : ∀ frame ∈ sends notes, frame.header.type < 2) : InContext (SentFairly limit) notes := by
  rintro before event after rfl frame hframe htype
  have hmem : frame ∈ sends (before ++ event :: after) :=
    List.mem_filterMap.mpr ⟨event, List.mem_append_right _ List.mem_cons_self, hframe⟩
  exact absurd (h frame hmem) (UInt8.not_lt.mpr htype)

theorem Agreeing.fair (h : Agreeing config device p) : p.Fair config := by
  intro x
  apply fair_of_handshake
  intro frame hmem
  cases x with
  | near =>
    rw [(h.host.2.requests frame hmem).1]
    decide
  | far =>
    rw [(h.device.2.answers frame hmem).1]
    decide

theorem agreeing_fresh (hconfig : ∀ x, (config x).fault? = none) (localIds : End → UInt32)
    (ids : End → IdSupply) (app : σ) :
    Agreeing config (localIds .far) (fresh config localIds ids app) := by
  have hroom (x : End) : frameOverhead + ConnectMessage.size ≤
      ((fresh config localIds ids app).ends x).outgoing.region.size := by
    have hsize := (Station.room_initial (hconfig x) (localIds x)).2
    have hbounds := ((config x).bounds_of_valid (hconfig x)).2.2.1
    exact Nat.le_trans hbounds (Nat.le_of_eq hsize.symm)
  refine ⟨standing_fresh hconfig localIds ids app, ⟨Endpoint.within_ofConfig _ _ _, ?_⟩, rfl, ?_⟩
  · exact ⟨hroom .near, fun _ h ↦ (nomatch h), fun h ↦ (nomatch h), fun h ↦ (nomatch h)⟩
  · exact ⟨hroom .far, rfl, fun _ h ↦ (nomatch h), fun h ↦ absurd rfl h, fun h ↦ absurd rfl h⟩

/-- Each operation of the host keeps the invariant. -/
theorem Agreeing.perform (hconfig : ∀ x, (config x).fault? = none)
    (h : Agreeing config device p) {request : Request}
    (hrequest : request = .checkConnection ∨ request = .disconnect) :
    Agreeing config device (p.run time .near (.ask request fun _ ↦ .finish (.ok ()))) := by
  let program : Program (Wire σ) := .ask request fun _ ↦ .finish (.ok ())
  let environment := Wire.environment (Endpoint.still (time .near)) .near
  have hprogram : program.Within Wire.courteous := by
    refine ⟨?_, fun _ ↦ trivial⟩
    rcases hrequest with rfl | rfl <;> trivial
  obtain ⟨hstanding, hother⟩ : Standing config (p.run time .near program) ∧
      (p.run time .near program).wire.noted .far = p.wire.noted .far :=
    h.standing.run hconfig hprogram
  have hupheld : Endpoint.Upheld environment Endpoint.hosting (.plain 2 0 0)
      (Endpoint.Hosting device .near (.plain 2 0 0)) :=
    Endpoint.upheld_hosting (by decide)
  obtain ⟨hhosting, hwithin⟩ := hupheld.perform hrequest h.host.1
    ⟨h.host.2, fun hanswer ↦ nomatch hanswer⟩
  have hnear : (p.run time .near program).ends .near =
      ((p.ends .near).perform environment p.wire request).2.1 := ends_put p .near _
  have hfar : (p.run time .near program).ends .far = p.ends .far := ends_put_other p .near _
  refine ⟨hstanding, ?_, ?_⟩
  · rw [hnear]
    exact ⟨hwithin, hhosting.asking⟩
  · rw [hfar, hother]
    exact h.device

theorem run_outside (time : End → σ → Millis) (x : End) (step : Wire σ → Wire σ) (p : Pair σ) :
    p.run time x (.outside step fun _ ↦ .finish (.ok ())) = ⟨p.ends, step p.wire⟩ :=
  congrArg (fun ends ↦ (⟨ends, step p.wire⟩ : Pair σ)) (Function.update_eq_self x p.ends)

theorem Agreeing.step (hconfig : ∀ x, (config x).fault? = none)
    (hmode : (config .near).integrity = (config .far).integrity)
    (h : Agreeing config device p) (hstep : HostStep time p p') : Agreeing config device p' := by
  cases hstep with
  | poll x fuel hfuel =>
    cases x with
    | near =>
      obtain ⟨hstanding, hhost, hother⟩ := h.standing.poll hconfig hmode h.fair
        (Endpoint.lasting_asking h.device.2.answers) h.host hfuel
      have hfar : (p.poll time .near fuel).ends .far = p.ends .far := ends_put_other p .near _
      refine ⟨hstanding, hhost, ?_⟩
      rw [hfar, show (p.poll time .near fuel).wire.noted .far = p.wire.noted .far from hother]
      exact h.device
    | far =>
      obtain ⟨hstanding, hdevice, hother⟩ := h.standing.poll hconfig hmode.symm h.fair
        (Endpoint.lasting_answering h.host.2.requests) h.device hfuel
      have hnear : (p.poll time .far fuel).ends .near = p.ends .near := ends_put_other p .far _
      refine ⟨hstanding, ?_, hdevice⟩
      rw [hnear, show (p.poll time .far fuel).wire.noted .near = p.wire.noted .near from hother]
      exact h.host
  | check => exact h.perform hconfig (.inl rfl)
  | disconnect => exact h.perform hconfig (.inr rfl)
  | pass x step hstep =>
    have hprogram : (Program.outside step fun _ ↦ .finish (.ok ()) : Program (Wire σ)).Within
        Wire.courteous := ⟨hstep, fun _ ↦ trivial⟩
    have hstanding : Standing config (p.run time x (.outside step fun _ ↦ .finish (.ok ()))) :=
      (h.standing.run hconfig hprogram).1
    have hnoted : (step p.wire).noted = p.wire.noted := (hstep p.wire).2
    rw [run_outside] at hstanding ⊢
    exact ⟨hstanding, by rw [hnoted]; exact h.host, by rw [hnoted]; exact h.device⟩

theorem agreeing_of_hosted (hconfig : ∀ x, (config x).fault? = none)
    (hmode : (config .near).integrity = (config .far).integrity) (h : Hosted time config p) :
    Agreeing config (p.ends .far).link.localId p := by
  have hagreeing : ∃ device, Agreeing config device p := by
    induction h with
    | start localIds ids app => exact ⟨localIds .far, agreeing_fresh hconfig localIds ids app⟩
    | next _ hstep ih =>
      obtain ⟨device, ih⟩ := ih
      exact ⟨device, ih.step hconfig hmode hstep⟩
  obtain ⟨device, h⟩ := hagreeing
  exact h.device.2.localId.symm ▸ h

theorem Standing.sends_of_empty (h : Standing config p) {x : End}
    (hempty : (p.wire.toward x.other).queue.octets = []) :
    sends (p.wire.noted x) = deliveries (p.wire.noted x.other) := by
  obtain ⟨frames, hsends, hoctets⟩ := (h.speaking x).underway
  rw [hempty] at hoctets
  cases frames with
  | nil => rw [hsends, List.append_nil]
  | cons frame frames =>
    have hlength := congrArg List.length hoctets
    rw [List.flatMap_cons, List.length_append, Frame.length_wire, List.length_nil] at hlength
    unfold frameOverhead headerSize at hlength
    omega

/-- When the host has its link up and nothing is under way, each end knows the other: the host knows
the device by its id, and the device knows the host by the id in the last request of the host, which
is the id of the host if it has asked since it last took its link down. -/
theorem ids_of_hosted (hconfig : ∀ x, (config x).fault? = none)
    (hmode : (config .near).integrity = (config .far).integrity) (h : Hosted time config p)
    (hup : (p.ends .near).link.connected = true)
    (hquiet : ∀ x, (p.wire.toward x).queue.octets = []) :
    (p.ends .near).link.remoteId = (p.ends .far).link.localId ∧
      (∀ frame ∈ sends (p.wire.noted .near), frame.header.type = MessageType.connectRequest) ∧
      Announced (sends (p.wire.noted .near)) (p.ends .far).link.remoteId ∧
      (asked (p.wire.noted .near) = true →
        (p.ends .far).link.remoteId = (p.ends .near).link.localId) := by
  obtain ⟨hstanding, ⟨-, hasking⟩, -, hanswering⟩ := agreeing_of_hosted hconfig hmode h
  have hnear : sends (p.wire.noted .near) = deliveries (p.wire.noted .far) :=
    hstanding.sends_of_empty (hquiet .far)
  have hfar : sends (p.wire.noted .far) = deliveries (p.wire.noted .near) :=
    hstanding.sends_of_empty (hquiet .near)
  obtain ⟨hremote, hanswered⟩ := hasking.up hup
  have hannounced : Announced (sends (p.wire.noted .near)) (p.ends .far).link.remoteId := by
    rw [hnear]
    apply hanswering.known
    apply hanswering.heard
    rw [hfar]
    exact hanswered
  exact ⟨hremote, fun frame hmem ↦ (hasking.requests frame hmem).1, hannounced,
    fun hasked ↦ hannounced.unique (hasking.current hasked)⟩

/-- A handshake, after which each end knows the other. -/
theorem ids_of_hosted_handshake :
    let config : End → Config := fun _ ↦ .ofSizes 18 18
    let time : End → Unit → Millis := fun _ _ ↦ 0
    let localIds : End → UInt32 := End.pick 5 7
    let asked := (fresh config localIds (fun _ ↦ ⟨[], 1⟩) ()).run time .near
      (.ask .checkConnection fun _ ↦ .finish (.ok ()))
    let connected := (asked.poll time .far 19).poll time .near 19
    (connected.ends .near).link.remoteId = (connected.ends .far).link.localId ∧
      (connected.ends .far).link.remoteId = (connected.ends .near).link.localId := by
  intro config time localIds asked connected
  have hanswered : Hosted time config (asked.poll time .far 19) :=
    .next (.next (.start _ _ _) .check) (.poll .far 19 (by decide +kernel))
  have hconnected : Hosted time config connected :=
    .next hanswered (.poll .near 19 (by decide +kernel))
  have hup : (connected.ends .near).link.connected = true := by decide +kernel
  have hquiet : ∀ x, (connected.wire.toward x).queue.octets = [] := by
    intro x
    cases x
    · decide +kernel
    · decide +kernel
  have hasked : FramedLink.asked (connected.wire.noted .near) = true := by decide +kernel
  obtain ⟨hremote, -, -, hknown⟩ := ids_of_hosted (fun _ ↦ rfl) rfl hconnected hup hquiet
  exact ⟨hremote, hknown hasked⟩

/-- A response that was under way when the host took its link down brings it up again, while the
device knows the host by its former id. -/
theorem stale_response :
    let config : End → Config := fun _ ↦ .ofSizes 18 18
    let time : End → Millis → Millis := fun _ now ↦ now
    (∀ x, (config x).fault? = none) ∧ (config .near).integrity = (config .far).integrity ∧
    ∃ p : Pair Millis, Hosted time config p ∧ (p.ends .near).link.connected = true ∧
      (p.wire.toward .near).queue.octets = [] ∧ (p.wire.toward .far).queue.octets = [] ∧
      (p.ends .far).link.remoteId ≠ (p.ends .near).link.localId := by
  intro config time
  refine ⟨fun _ ↦ rfl, rfl, ?_⟩
  let localIds : End → UInt32 := End.pick 5 7
  let step : Wire Millis → Wire Millis := fun w ↦ { w with app := 10000 }
  let asked := (fresh config localIds (fun _ ↦ ⟨[], 1⟩) (0 : Millis)).run time .near
    (.ask .checkConnection fun _ ↦ .finish (.ok ()))
  let answered := asked.poll time .far 19
  let later := answered.run time .near (.outside step fun _ ↦ .finish (.ok ()))
  let askedAgain := later.run time .near (.ask .checkConnection fun _ ↦ .finish (.ok ()))
  let connected := askedAgain.poll time .near 19
  let answeredAgain := connected.poll time .far 19
  let down := answeredAgain.run time .near (.ask .disconnect fun _ ↦ .finish (.ok ()))
  have hanswered : Hosted time config answered :=
    .next (.next (.start _ _ _) .check) (.poll .far 19 (by decide +kernel))
  have haskedAgain : Hosted time config askedAgain :=
    .next (.next hanswered (.pass .near step fun _ ↦ ⟨fun _ ↦ rfl, rfl⟩)) .check
  have hconnected : Hosted time config connected :=
    .next haskedAgain (.poll .near 19 (by decide +kernel))
  have hdown : Hosted time config down :=
    .next (.next hconnected (.poll .far 19 (by decide +kernel))) .disconnect
  exact ⟨down.poll time .near 19, .next hdown (.poll .near 19 (by decide +kernel)),
    by decide +kernel, by decide +kernel, by decide +kernel, by decide +kernel⟩

end Pair

end FramedLink
