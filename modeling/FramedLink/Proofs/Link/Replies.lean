import FramedLink.Proofs.Handling.Written
import FramedLink.Proofs.Link.Messages

/-!
# Answers to connect requests

The handler of the handshake is the oldest for connect requests and so the last to be called. Those
of the application have read the payload before it, may have failed, and may have left anything in
the outgoing region. It answers all the same, with one frame, if the payload is long enough for a
message (`Endpoint.Replied`); otherwise it does nothing but fail (`Endpoint.Declined`).
-/

namespace FramedLink

variable {ω : Type}

def Environment.TakesWhole (env : Environment ω) : Prop :=
  ∀ octets w, ∃ taken, (env.channel.write octets w).1 = .ok taken ∧ octets.length ≤ taken

namespace Endpoint

variable {env : Environment ω} {c : Conduct ω} {config : Config} {header : Header}
variable {e e' : Endpoint ω} {w w' : ω} {polls : List (Polled ω)}
variable {payload : Bytes} {handler : Invocation ω} {users invocations : List (Invocation ω)}

/-- The registration of the handler that answers connect requests. -/
def answering : Registration ω :=
  ⟨MessageType.connectRequest, .answerRequest⟩

/-- A connect request is answered: `reply` describes this end as it is when the handler is called,
and its frame is written once, after the peer was taken note of. -/
structure Replied (env : Environment ω) (c : Conduct ω) (config : Config) (header : Header)
    (request reply : ConnectMessage) (octets : Bytes) (handler : Invocation ω) : Prop where
  connId : reply.connId = handler.endpoint.link.localId
  limit : reply.limit.toNat = config.inSize - 12
  connType : reply.connType = config.connType
  encoded :
    Frame.encode MessageType.connectResponse 0 reply.encode config.integrity = .ok octets
  succeeded : (handler.result env header).1 = .ok ()
  written : (handler.result env header).2.2 =
    env.note (.sent MessageType.connectResponse 0 reply.encode) (env.channel.write octets
      (handler.endpoint.recordPeer env request.connId request.connType
        (env.note (.requestReceived header.id request) handler.surroundings)).2).2
  /-- Nothing else is written, unless by those who are told of a new id. -/
  logged (log : ω → Bytes) (hlog : env.Logged log) (hkeeps : c.Keeps log) :
    log (handler.result env header).2.2 = log handler.surroundings ++ octets
  /-- All that changes about the link is by which id and type the peer is known. -/
  link : (handler.result env header).2.1.link =
    { handler.endpoint.link with remoteId := request.connId, remoteType := request.connType }

/-- A connect request is not answered: the handler fails, and nothing but the reading cursor has
moved. -/
structure Declined (env : Environment ω) (header : Header) (handler : Invocation ω) : Prop where
  failed : handler.failed env header = true
  surroundings : (handler.result env header).2.2 = handler.surroundings
  endpoint : ∃ cursor, (handler.result env header).2.1 = handler.endpoint.withCursor cursor

theorem declined_of_short (hregistration : handler.registration = answering)
    (hshows : handler.endpoint.reception.region.Shows payload 0)
    (hshort : payload.length < ConnectMessage.size) : Declined env header handler := by
  obtain ⟨registration, e, w⟩ := handler
  obtain rfl : registration = answering := hregistration
  obtain ⟨error, herror⟩ := hshows.exists_error hshort
  obtain ⟨cursor, hread⟩ := e.readMessage_eq
  rw [herror] at hread
  have hresult : (Invocation.mk answering e w).result env header =
      (.error (.frame error), e.withCursor cursor, w) := by
    simp only [Invocation.result, answering, runHandler, hread, Except.mapError]
  refine ⟨?_, congrArg (·.2.2) hresult, cursor, congrArg (·.2.1) hresult⟩
  rw [Invocation.failed, hresult]
  rfl

/-- A description that the peer takes is sent on a channel that takes it whole. -/
theorem Fitted.describes_whole (h : e.Fitted config) (hvalid : config.fault? = none)
    (hwhole : env.TakesWhole)
    (hlimit : ∀ limit ∈ e.link.remoteLimit, limit = 0 ∨ ConnectMessage.size ≤ limit.toNat)
    (type id : UInt8) (w : ω) :
    let payload := ConnectMessage.encode ⟨e.link.localId, config.advertisedLimit, config.connType⟩
    ∃ octets, Frame.encode type id payload config.integrity = .ok octets ∧
      (e.sendDescription env type id w).1 = .ok () ∧
      (e.sendDescription env type id w).2.2 =
        env.note (.sent type id payload) (env.channel.write octets w).2 ∧
      (e.sendDescription env type id w).2.1.link = e.link := by
  obtain ⟨outgoing, hpayload, hsending⟩ := h.describing env hvalid type id w
  generalize e.sendDescription env type id w = result at hsending ⊢
  have hfits : ¬ TooLarge config { e with outgoing } ConnectMessage.size := by
    have hroom := h.describes hvalid
    rw [h.room] at hroom
    rintro (⟨limit, hsome, hpositive, hsmall⟩ | hlarge)
    · rcases hlimit limit hsome with hzero | henough
      · exact hpositive hzero
      · exact Nat.not_lt_of_le henough hsmall
    · omega
  obtain ⟨octets, -, hencoded, hanswer, hworld⟩ := hsending.written hfits
  obtain ⟨region, -, hleft⟩ := hsending.left
  have hsent : result.1 = .ok () := hanswer.mpr (hwhole octets w)
  rw [hpayload] at hencoded hworld
  rw [hsent] at hworld
  exact ⟨octets, hencoded, hsent, hworld, congrArg (·.link) hleft⟩

/-- What the peer is told of, and who is told, does not depend on the reading cursor. -/
theorem recordPeer_withCursor (cursor : Nat) (connId : UInt32) (connType : UInt16) :
    ((e.withCursor cursor).recordPeer env connId connType w).2 =
      (e.recordPeer env connId connType w).2 := by
  unfold recordPeer
  dsimp only [withCursor]
  split <;> rfl

/-- A request that is long enough is answered, if the peer takes eight octets and the channel takes
the frame. -/
theorem replied_of_long (hvalid : config.fault? = none) (hwhole : env.TakesWhole)
    (hregistration : handler.registration = answering)
    (hfitted : handler.endpoint.Fitted config) (hwithin : handler.endpoint.Within c)
    (hshows : handler.endpoint.reception.region.Shows payload 0)
    (hlong : ConnectMessage.size ≤ payload.length)
    (hlimit : ∀ limit ∈ handler.endpoint.link.remoteLimit,
      limit = 0 ∨ ConnectMessage.size ≤ limit.toNat) :
    ∃ request reply octets, ConnectMessage.decode? payload = some request ∧
      Replied env c config header request reply octets handler := by
  obtain ⟨registration, e, w⟩ := handler
  obtain rfl : registration = answering := hregistration
  dsimp only at hfitted hwithin hshows hlimit
  obtain ⟨request, hrequest, hfound⟩ := hshows.exists_message hlong
  obtain ⟨cursor, hread⟩ := e.readMessage_eq
  rw [hfound] at hread
  let noted := env.note (.requestReceived header.id request) w
  have hrecording : Recording env request.connId request.connType (e.withCursor cursor) noted
      ((e.withCursor cursor).recordPeer env request.connId request.connType noted) :=
    recording_recordPeer _ _
  have htold : ((e.withCursor cursor).recordPeer env request.connId request.connType noted).2 =
      (e.recordPeer env request.connId request.connType noted).2 := recordPeer_withCursor _ _ _
  have hresult : (Invocation.mk answering e w).result env header =
      ((e.withCursor cursor).recordPeer env request.connId request.connType noted).1.sendDescription
        env MessageType.connectResponse 0
        ((e.withCursor cursor).recordPeer env request.connId request.connType noted).2 := by
    simp only [Invocation.result, answering, runHandler, hread, Except.mapError]
    rfl
  generalize (e.withCursor cursor).recordPeer env request.connId request.connType noted = recorded
    at hrecording htold hresult
  obtain ⟨counters, hrecorded⟩ := hrecording.link
  have hready : recorded.1.Fitted config := by
    rw [hrecorded]
    exact ⟨hfitted.config_eq, hfitted.room⟩
  have hlink : recorded.1.link =
      { e.link with remoteType := request.connType, remoteId := request.connId } := by
    rw [hrecorded]
    rfl
  obtain ⟨octets, hencoded, hsent, hworld, hkept⟩ := hready.describes_whole hvalid hwhole
    (by rw [hlink]; exact hlimit) MessageType.connectResponse 0 recorded.2
  rw [hlink] at hencoded hworld hkept
  let reply : ConnectMessage := ⟨e.link.localId, config.advertisedLimit, config.connType⟩
  refine ⟨request, reply, octets, hrequest, ?_⟩
  constructor
  case connId => rfl
  case limit => exact config.toNat_advertisedLimit hvalid
  case connType => rfl
  case encoded => exact hencoded
  case succeeded => rw [hresult, hsent]
  case written => rw [hresult, hworld, htold]
  case logged =>
    intro log hlog hkeeps
    have hcursor : (e.withCursor cursor).Within c := hwithin.of_tables rfl
    let answered := (env.channel.write octets recorded.2).2
    calc
      log ((Invocation.mk answering e w).result env header).2.2 =
          log (env.note (.sent MessageType.connectResponse 0 reply.encode) answered) := by
        rw [hresult, hworld]
      _ = log answered := hlog.note rfl _
      _ = log recorded.2 ++ octets := hlog.write octets recorded.2
      _ = log noted ++ octets := by rw [hlog.recording hkeeps hcursor hrecording]
      _ = log w ++ octets := congrArg (· ++ octets) (hlog.note rfl w)
  case link => rw [hresult, hkept]

/-- A connect request is handled by the application first, and then by the handler that answers
it. -/
theorem exists_answering (hequipped : e.Equipped)
    (htype : header.type = MessageType.connectRequest)
    (hcalled : invocations.map Invocation.registration =
      (e.handlers.filter (·.type == header.type)).reverse) :
    ∃ users handler, invocations = users ++ [handler] ∧ handler.registration = answering ∧
      Custom (users.map Invocation.registration) := by
  obtain ⟨customs, hhandlers, hcustom⟩ := hequipped
  have hbuiltins : (builtins : List (Registration ω)).filter (·.type == header.type) =
      [answering] := by
    rw [htype]
    rfl
  rw [hhandlers, List.filter_append, List.reverse_append, hbuiltins, List.reverse_singleton,
    List.map_eq_append_iff] at hcalled
  obtain ⟨users, last, rfl, husers, hlast⟩ := hcalled
  obtain ⟨handler, rfl, hhandler⟩ := List.map_eq_singleton_iff.mp hlast
  refine ⟨users, handler, rfl, hhandler, fun registration hmem ↦ ?_⟩
  rw [husers, List.mem_reverse, List.mem_filter] at hmem
  exact hcustom registration hmem.1

/-- What becomes of a connect request: `users` are the handlers of the application that are called
with it, `handler` is called after them and answers it, and `e'` is the endpoint when it has been
dealt with. -/
structure Answered (env : Environment ω) (c : Conduct ω) (config : Config) (header : Header)
    (e : Endpoint ω) (users : List (Invocation ω)) (handler : Invocation ω) (e' : Endpoint ω) :
    Prop where
  custom : Custom (users.map Invocation.registration)
  builtin : handler.registration = answering
  /-- A payload with a message in it is answered, if the peer is not known to take less, and this
  counts as no failure. -/
  replied (hlong : 8 ≤ (e.reception.body.drop headerSize).length)
      (hlimit : ∀ limit ∈ handler.endpoint.link.remoteLimit, limit = 0 ∨ 8 ≤ limit.toNat) :
    (∃ request reply octets,
      ConnectMessage.decode? (e.reception.body.drop headerSize) = some request ∧
      Replied env c config header request reply octets handler) ∧
    e'.counters.handlerErrors =
      e.counters.handlerErrors + users.countP (Invocation.failed env header)
  /-- Any other is not, and this counts as one failure. -/
  declined (hshort : (e.reception.body.drop headerSize).length < 8) :
    Declined env header handler ∧
    e'.counters.handlerErrors =
      e.counters.handlerErrors + users.countP (Invocation.failed env header) + 1

/-- Handlers that look at connect requests only by reading them. -/
def ReadsRequests (e : Endpoint ω) : Prop :=
  ∀ registration ∈ e.handlers, registration.type = MessageType.connectRequest →
    registration.Within .reading

/-- Every connect request that is handed over is dealt with so. -/
theorem answered_deliver {s : Station} (hvalid : config.fault? = none) (hwhole : env.TakesWhole)
    (hfree : e.Within .free) (hwithin : e.Within c) (hfitted : e.Fitted config)
    (hequipped : e.Equipped) (hreads : e.ReadsRequests) (hstation : e.toStation.Receives s)
    (hsound : s.judgePacket = .deliver header) (htype : header.type = MessageType.connectRequest)
    (found : ω) :
    let received : Endpoint ω := { e with toStation := s }
    let delivered := received.deliver env header found
    ∃ users handler,
      FannedOut env header received found (users ++ [handler]) delivered.1 delivered.2 ∧
        Answered env c config header received users handler delivered.1 := by
  intro received delivered
  obtain ⟨invocations, hfanned⟩ :=
    @fannedOut_deliver ω env header received found hsound (hfree.of_tables rfl)
  obtain ⟨users, handler, rfl, hhandler, husers⟩ :=
    exists_answering hequipped htype hfanned.called
  have hmem : handler ∈ users ++ [handler] := List.mem_append_right _ List.mem_cons_self
  obtain ⟨hready, hstill⟩ := hfitted.called hvalid hwithin hstation hfanned hmem
  have hshows : handler.endpoint.reception.region.Shows (s.reception.body.drop headerSize) 0 := by
    have hreading : received.handing.Within .reading :=
      ⟨fun _ hmem ↦ (nomatch hmem), fun _ _ ↦ trivial, fun _ _ ↦ .inr fun _ ↦ trivial⟩
    have hall : ∀ invocation ∈ users ++ [handler],
        invocation.registration.Within .reading ∧ invocation.registration.type = header.type :=
      within_of_called hfanned.called fun registration hmem hsame ↦
        hreads registration hmem (hsame.trans htype)
    obtain ⟨last, left, hchained, -⟩ := hfanned.chained
    exact shows_of_chained (Station.shows_openPacket hsound) hchained hall hreading hmem
  have herrors := congrArg (·.2.1) hfanned.counted
  dsimp only [Counters.handovers] at herrors
  rw [List.countP_append, List.countP_singleton] at herrors
  refine ⟨users, handler, hfanned, husers, hhandler, fun hlong hlimit ↦ ?_, fun hshort ↦ ?_⟩
  · obtain ⟨request, reply, octets, hrequest, hreplied⟩ :=
      replied_of_long hvalid hwhole hhandler hready hstill hshows hlong hlimit
    refine ⟨⟨request, reply, octets, hrequest, hreplied⟩, ?_⟩
    rw [herrors, Invocation.failed, hreplied.succeeded]
    rfl
  · have hdeclined := @declined_of_short ω env header _ handler hhandler hshows hshort
    refine ⟨hdeclined, ?_⟩
    rw [herrors, hdeclined.failed]
    rfl

/-- In every run on a channel that takes frames whole, whatever the application has registered for
connect requests, and whatever that leaves in the outgoing region, as long as it looks at the
requests only by reading them: a connect request is handled by the application first. If its
payload has eight octets and the peer is not known to take less, it is then answered by one frame,
the encoding of this end's description under its present id, and nothing about the link changes
but the id and type by which the peer is known. If its payload is shorter, nothing is written,
nothing changes, and one more failure is counted. -/
theorem Course.request_answered_or_declined (h : Course env config c polls e w)
    (hwhole : env.TakesWhole) {turns before : Nat} {e₁ : Endpoint ω} {w₁ : ω}
    (hturns : Turns env e w turns before e₁ w₁) (hreads : e₁.ReadsRequests) :
    (∀ packets e₂ w₂, e₁.turn env w₁ = (.received packets, e₂, w₂) → packets ≠ 0 →
      ∃ header s found, e₁.toStation.Receives s ∧ s.judgePacket = .deliver header ∧
        (e₂, w₂) = ({ e₁ with toStation := s } : Endpoint ω).deliver env header found) ∧
    ∀ header s found, e₁.toStation.Receives s → s.judgePacket = .deliver header →
      header.type = MessageType.connectRequest →
      let received : Endpoint ω := { e₁ with toStation := s }
      let delivered := received.deliver env header found
      ∃ users handler,
        FannedOut env header received found (users ++ [handler]) delivered.1 delivered.2 ∧
          Answered env c config header received users handler delivered.1 := by
  have hlater := h.partway hturns
  constructor
  · intro packets e₂ w₂ hturn hsome
    have hturned := turned_turn env e₁ w₁
    rw [hturn] at hturned
    cases hturned with
    | quiet _ s _ hnone _ _ => exact absurd (hnone packets rfl) hsome
    | delivered header s found hstation _ hsound => exact ⟨header, s, found, hstation, hsound, rfl⟩
  · intro header s found hstation hsound htype
    have hvalid := h.valid
    have hfitted : e₁.Fitted config := (preserved_fitted hvalid).course fitted_created hlater
    exact answered_deliver hvalid hwhole hlater.operated.ready.within hlater.within hfitted
      hlater.equipped hreads hstation hsound htype found

/-- A handler of the application reads the id of the peer, writes three octets that it does not
send, and fails. The request is answered under id 1, with a limit of six octets. -/
theorem request_answered_or_declined_nine :
    let env := (Wire.environment (fun app ↦ (0, app)) .near : Environment (Wire Unit)).logging
    let config : Config := .ofSizes 18 18
    let user : Program (Wire Unit × Bytes) :=
      .ask (.incoming (.read .uint32)) fun _ ↦
        .ask (.outgoing (.write (.bytes [7, 7, 7]))) fun _ ↦ .finish (.error .registration)
    let program : Program (Wire Unit × Bytes) :=
      .addHandler MessageType.connectRequest (fun _ ↦ user) (.finish (.ok ()))
    ∃ begun w, create env config (.fresh (fun _ ↦ ⟨[], 1⟩) (), []) = (.ok begun, w) ∧
      let ran := (program.run env begun w).2
      let region := ran.1.reception.region.store 0
        [0x23, 0, 5, 0, 8, 0, 0, 0, 9, 0, 0, 0, 10, 0, 3, 0, 0, 0]
      let received : Endpoint (Wire Unit × Bytes) := { ran.1 with
        reception := { region, filled := 18, payloadSize := 8, packetSize := 18 } }
      let header := Header.plain MessageType.connectRequest 5 8
      let delivered := received.deliver env header ran.2
      (∃ users handler,
        FannedOut env header received ran.2 (users ++ [handler]) delivered.1 delivered.2 ∧
          Answered env .reading config header received users handler delivered.1) ∧
      delivered.2.2 = [0x23, 1, 0, 0, 8, 0, 0, 0, 1, 0, 0, 0, 6, 0, 0, 0, 0, 0] ∧
      delivered.1.counters.handlerErrors = 1 := by
  intro env config user program
  let begun : Endpoint (Wire Unit × Bytes) := ofConfig config 1
  let w := (create env config (.fresh (fun _ ↦ ⟨[], 1⟩) (), [])).2
  have hcreated : create env config (.fresh (fun _ ↦ ⟨[], 1⟩) (), []) = (.ok begun, w) := rfl
  have hprogram : program.Within .reading :=
    ⟨fun _ ↦ ⟨fun op h ↦ by cases h; trivial, fun _ ↦ ⟨fun op h ↦ (nomatch h), fun _ ↦ trivial⟩⟩,
      trivial⟩
  have hcourse : Course env config .reading [] (program.run env begun w).2.1
      (program.run env begun w).2.2 := .run program hprogram (.created hcreated)
  have hwhole : env.TakesWhole := fun octets _ ↦ ⟨octets.length, rfl, Nat.le_refl _⟩
  let ran := (program.run env begun w).2
  let s : Station := { ran.1.toStation with
    reception :=
      { region := ran.1.reception.region.store 0
          [0x23, 0, 5, 0, 8, 0, 0, 0, 9, 0, 0, 0, 10, 0, 3, 0, 0, 0]
        filled := 18
        payloadSize := 8
        packetSize := 18 } }
  have hsound : s.judgePacket = .deliver (.plain MessageType.connectRequest 5 8) := by
    have hheader : s.reception.header = .ok (.plain MessageType.connectRequest 5 8) := by
      decide +kernel
    have hverified : s.config.integrity.verify s.reception.body s.reception.trailer = .ok () := rfl
    rw [Station.judgePacket, hverified, hheader]
  have hreads : ran.1.ReadsRequests := fun registration hmem _ ↦
    hcourse.within.handlers registration hmem
  obtain ⟨-, hanswers⟩ := hcourse.request_answered_or_declined hwhole .none hreads
  have hanswered := hanswers _ s ran.2 ⟨_, _, _, _, _, _, rfl⟩ hsound rfl
  exact ⟨begun, w, hcreated, hanswered, by decide +kernel, by decide +kernel⟩

end Endpoint

end FramedLink
