import Mathlib.Data.List.Flatten
import FramedLink.Proofs.ConnectMessages
import FramedLink.Proofs.Handling.Enrolment
import FramedLink.Proofs.Link.Lifecycle

/-!
# Which messages are handled

The handlers of the handshake read their message through the cursors of the incoming region, like
any other reader. If the application is content with the payloads that it is given, then only
packets of the handshake with at least eight octets of payload are handled, each at most once and in
the order in which they come (`Endpoint.Chronicle.message_types`). If it looks at packets only by
reading them, then all of these are, and what is found in them is what their octets say
(`Endpoint.Chronicle.messages`). Both together are `Endpoint.Sourced`.
-/

namespace FramedLink

variable {ω : Type}

/-- The type and the message of a packet of the handshake whose payload is long enough for one. -/
def Frame.handshake? (frame : Frame) : Option (UInt8 × ConnectMessage) :=
  if frame.header.type = MessageType.connectRequest ∨
      frame.header.type = MessageType.connectResponse then
    (ConnectMessage.decode? frame.payload).map fun message ↦ (frame.header.type, message)
  else none

def Done.handshake? (done : Done ω) : Option (UInt8 × ConnectMessage) :=
  match done.deed with
  | .answer _ message => some (MessageType.connectRequest, message)
  | .accept _ message => some (MessageType.connectResponse, message)
  | _ => none

/-- The message that a handler finds in a payload, with the type for which it is handled. -/
def Handler.handshakes (payload : Bytes) : Handler ω → List (UInt8 × ConnectMessage)
  | .custom _ => []
  | .answerRequest =>
    ((ConnectMessage.decode? payload).map fun message ↦
      (MessageType.connectRequest, message)).toList
  | .acceptResponse =>
    ((ConnectMessage.decode? payload).map fun message ↦
      (MessageType.connectResponse, message)).toList

/-- Applications that are content with the payloads that they are given to read. -/
def Conduct.contented : Conduct ω where
  asks request := ∀ size, request ≠ .incoming (.openPayload size)
  changes _ := True

namespace Endpoint

variable {env : Environment ω} {c : Conduct ω} {config : Config} {header : Header}
variable {e e' first : Endpoint ω} {w w' begun : ω}
variable {packets : List Frame} {deeds : List (Done ω)}

/-- No program handles a packet of the handshake. -/
theorem handshakes_deeds (program : Program ω) (e : Endpoint ω) (w : ω) :
    (program.deeds env e w).filterMap Done.handshake? = [] := by
  induction program generalizing e w with
  | finish outcome => rfl
  | ask request next ih =>
    have hnone : (request.deed?.toList.map fun deed ↦ (⟨deed, e, w⟩ : Done ω)).filterMap
        Done.handshake? = [] := by
      cases request <;> rfl
    rw [Program.deeds, List.filterMap_append, hnone, List.nil_append]
    exact ih _ _ _
  | inspect next ih => exact ih _ _ _
  | addHandler type handler next _ ih => exact ih (e.addHandler type handler) w
  | addResetCallback callback next ih => exact ih _ _
  | addLinkCallback callback next ih => exact ih _ _
  | outside step next ih => exact ih _ _ _

/-- What a handler of the handshake does is what the open payload says. -/
theorem handshakes_invocation {invocation : Invocation ω} {payload : Bytes}
    (h : invocation.endpoint.reception.region.Shows payload 0) :
    (invocation.deeds env header).filterMap Done.handshake? =
      invocation.registration.handler.handshakes payload := by
  obtain ⟨⟨type, handler⟩, e, w⟩ := invocation
  have hmessage := h.message
  obtain ⟨cursor, hread⟩ := e.readMessage_eq
  cases handler with
  | custom body => exact handshakes_deeds (body header) e w
  | answerRequest =>
    simp only [Invocation.deeds, Handler.handshakes, hread, ← hmessage]
    cases (ConnectMessage.read e.reception.region).1 <;> rfl
  | acceptResponse =>
    simp only [Invocation.deeds, Handler.handshakes, hread, ← hmessage]
    cases (ConnectMessage.read e.reception.region).1 <;> rfl

/-- What the handlers of a packet find together is what the packet says, as long as those of the
handshake are among the handlers once each. -/
theorem handshakes_called (h : e.Equipped) (payload : Bytes) :
    ((e.handlers.filter (·.type == header.type)).reverse.flatMap fun registration ↦
      registration.handler.handshakes payload) =
      (Frame.handshake? ⟨header, payload⟩).toList := by
  obtain ⟨customs, hhandlers, hcustom⟩ := h
  have hnone : ((customs.filter (·.type == header.type)).reverse.flatMap fun registration ↦
      registration.handler.handshakes payload) = [] := by
    rw [List.flatMap_eq_nil_iff]
    intro registration hmem
    obtain ⟨body, hbody⟩ := hcustom registration (List.mem_filter.mp (List.mem_reverse.mp hmem)).1
    rw [hbody]
    rfl
  rw [hhandlers, List.filter_append, List.reverse_append, List.flatMap_append, hnone,
    List.nil_append]
  unfold Frame.handshake?
  by_cases hrequest : header.type = MessageType.connectRequest
  · simp [builtins, hrequest, Handler.handshakes, MessageType.connectRequest,
      MessageType.connectResponse]
  · by_cases hresponse : header.type = MessageType.connectResponse
    · simp [builtins, hresponse, Handler.handshakes, MessageType.connectRequest,
        MessageType.connectResponse]
    · have hother : (builtins : List (Registration ω)).filter (·.type == header.type) = [] := by
        simp [builtins, Ne.symm hrequest, Ne.symm hresponse]
      rw [hother, if_neg (by simp [hrequest, hresponse])]
      rfl

theorem Aside.limit_le {bound : Nat} (haside : e.Aside e')
    (h : e.reception.region.limit ≤ bound) : e'.reception.region.limit ≤ bound := by
  rwa [haside.reception]

/-- Unless it is opened by the application, the payload reaches no further than that of the
packet. -/
theorem upheld_limit (size : Nat) :
    Upheld env .contented header fun e _ ↦ e.reception.region.limit ≤ headerSize + size where
  change _ h := h
  cursor _ h := h
  incoming {e _ op} hasks h := by
    have hop : ∀ size, op ≠ .openPayload size := fun size hsame ↦ hasks size (hsame ▸ rfl)
    rcases limit_perform e.reception.region hop with hsame | hclosed
    · exact hsame ▸ h
    · exact hclosed ▸ Nat.le_add_right _ _
  outgoing _ h := h
  send _ h := (aside_send _ _ _).limit_le h
  describe _ _ h := (aside_sendDescription _ _).limit_le h
  now h := h
  silent _ _ h := h
  schedule _ _ h := h
  disconnect _ h := aside_disconnect.limit_le h
  request _ _ _ h := (aside_recordPeer _ _).limit_le h
  response _ _ _ h := (aside_acceptResponse _).limit_le h
  failed _ h := h
  handlers _ _ h := h
  resetCallback _ h := h
  linkCallback _ h := h
  available _ h := h
  read _ h := h
  write _ h := h

/-- A handler of the handshake finds a message only in a payload that is long enough for one. -/
theorem types_invocation {invocation : Invocation ω} {payload : Bytes}
    (hstart : ∃ before : Endpoint ω, invocation.endpoint = before.withCursor headerSize ∧
      before.reception.region.limit ≤ headerSize + payload.length) :
    List.Sublist (((invocation.deeds env header).filterMap Done.handshake?).map Prod.fst)
      ((invocation.registration.handler.handshakes payload).map Prod.fst) := by
  obtain ⟨⟨type, handler⟩, e, w⟩ := invocation
  obtain ⟨before, rfl, hlimit⟩ := hstart
  obtain ⟨cursor, hread⟩ := (before.withCursor headerSize).readMessage_eq
  have hmessage : (ConnectMessage.read (before.withCursor headerSize).reception.region).1 =
      before.reception.region.message := rfl
  rw [hmessage] at hread
  have hlong {message : ConnectMessage} (hfound : before.reception.region.message = .ok message) :
      ∃ said, ConnectMessage.decode? payload = some said := by
    have hreach := limit_of_message hfound
    rw [ConnectMessage.decode?_eq, if_pos (by omega)]
    exact ⟨_, rfl⟩
  cases handler with
  | custom body =>
    simp only [Invocation.deeds, handshakes_deeds]
    exact List.Sublist.refl _
  | answerRequest =>
    simp only [Invocation.deeds, Handler.handshakes, hread]
    cases hfound : before.reception.region.message with
    | error error => exact List.nil_sublist _
    | ok message =>
      obtain ⟨said, hsaid⟩ := hlong hfound
      rw [hsaid]
      exact List.Sublist.refl _
  | acceptResponse =>
    simp only [Invocation.deeds, Handler.handshakes, hread]
    cases hfound : before.reception.region.message with
    | error error => exact List.nil_sublist _
    | ok message =>
      obtain ⟨said, hsaid⟩ := hlong hfound
      rw [hsaid]
      exact List.Sublist.refl _

section Handed

variable {s : Station} {found left : ω} {invocations : List (Invocation ω)} {last : Endpoint ω}

/-- The handlers that are called keep within the conduct, and are of the type of the packet. -/
theorem Handed.invoked (h : Handed env e w header s found invocations last left)
    (hwithin : e.Within c) : ∀ invocation ∈ invocations,
      invocation.registration.Within c ∧ invocation.registration.type = header.type :=
  within_of_called h.called fun registration hmem _ ↦ hwithin.handlers registration hmem

/-- What the handlers that are called find together in a payload is what the packet says. -/
theorem Handed.handshakes (h : Handed env e w header s found invocations last left)
    (hequipped : e.Equipped) (payload : Bytes) :
    (invocations.flatMap fun invocation ↦ invocation.registration.handler.handshakes payload) =
      [(⟨header, payload⟩ : Frame)].filterMap Frame.handshake? := by
  have hcalled : (invocations.flatMap fun invocation ↦
      invocation.registration.handler.handshakes payload) =
      (invocations.map Invocation.registration).flatMap fun registration ↦
        registration.handler.handshakes payload := by
    rw [List.flatMap_map]
  rw [hcalled, h.called, handshakes_called hequipped]
  cases hsays : Frame.handshake? ⟨header, payload⟩ with
  | none => rw [List.filterMap_cons_none hsays]; rfl
  | some said => rw [List.filterMap_cons_some hsays]; rfl

end Handed

/-- In a turn, a message is handled only if the packet that is handed over has one. -/
theorem TurnDeeds.message_types (h : TurnDeeds env e w packets deeds) (hequipped : e.Equipped)
    (hwithin : e.Within .contented) :
    List.Sublist ((deeds.filterMap Done.handshake?).map Prod.fst)
      ((packets.filterMap Frame.handshake?).map Prod.fst) := by
  cases h with
  | quiet => exact List.Sublist.refl _
  | @handed header s found invocations last left hhanded =>
    let payload := s.reception.body.drop headerSize
    let received : Endpoint ω := { e with toStation := s }
    have hlimit : received.handing.reception.region.limit ≤ headerSize + payload.length :=
      Nat.le_of_eq (Station.shows_openPacket hhanded.sound).limit
    obtain ⟨hstarts, -⟩ := (upheld_limit payload.length).chained hhanded.chained
      (hhanded.invoked hwithin) (hwithin.received s) hlimit
    rw [List.filterMap_flatMap, List.map_flatMap, ← hhanded.handshakes hequipped,
      List.map_flatMap]
    refine List.Sublist.flatMap_right _ fun invocation hmem ↦ ?_
    obtain ⟨before, hstart, -, hbefore⟩ := hstarts invocation hmem
    exact types_invocation ⟨before, hstart, hbefore⟩

/-- In a turn, the message of the packet that is handed over is handled, if it has one. -/
theorem TurnDeeds.messages (h : TurnDeeds env e w packets deeds) (hequipped : e.Equipped)
    (hwithin : e.Within .reading) :
    deeds.filterMap Done.handshake? = packets.filterMap Frame.handshake? := by
  cases h with
  | quiet => rfl
  | @handed header s found invocations last left hhanded =>
    have hshows := Station.shows_openPacket hhanded.sound
    rw [List.filterMap_flatMap, ← hhanded.handshakes hequipped, List.flatMap_def, List.flatMap_def]
    refine congrArg List.flatten (List.map_congr_left fun invocation hmem ↦ ?_)
    exact handshakes_invocation (shows_of_chained hshows hhanded.chained
      (hhanded.invoked hwithin) (hwithin.received s) hmem)

theorem Chronicle.equipped (h : Chronicle env c first begun packets deeds e w)
    (hfirst : first.handlers = builtins) : e.Equipped := by
  refine ⟨_, hfirst ▸ h.handlers, fun registration hmem ↦ ?_⟩
  obtain ⟨done, -, hmade⟩ := List.mem_filterMap.mp hmem
  unfold Done.registration? at hmade
  split at hmade
  · cases hmade
    exact ⟨_, rfl⟩
  · cases hmade

/-- In a run of an application that keeps within a conduct in which all changes are allowed, the
endpoint does so at all times. -/
theorem Chronicle.within {wider : Conduct ω} (h : Chronicle env c first begun packets deeds e w)
    (hfirst : first.handlers = builtins) (hasks : ∀ request, c.asks request → wider.asks request)
    (hchanges : ∀ step, wider.changes step) : e.Within wider where
  handlers registration hmem :=
    (h.enlists (enlists_builtins hfirst) registration hmem).mono hasks fun step _ ↦ hchanges step
  resetCallbacks callback _ := hchanges callback
  linkCallbacks callback _ := .inr fun event ↦ hchanges (callback event)

/-- In a run of an application that is content with the payloads it is given, messages are handled
only in packets of their type that are handed over with payload enough for one. -/
theorem Chronicle.message_types (h : Chronicle env c first begun packets deeds e w)
    (hfirst : first.handlers = builtins) (hcontent : Content c.asks) :
    List.Sublist ((deeds.filterMap Done.handshake?).map Prod.fst)
      ((packets.filterMap Frame.handshake?).map Prod.fst) := by
  induction h with
  | start => exact List.Sublist.refl _
  | named id _ ih => exact ih
  | run program _ _ ih => rwa [List.filterMap_append, handshakes_deeds, List.append_nil]
  | @turn _ _ _ _ e _ hturn htold ih =>
    have hwithin : e.Within .contented :=
      htold.within hfirst (fun request hasked size hopens ↦ hcontent size (hopens ▸ hasked))
        fun _ ↦ trivial
    rw [List.filterMap_append, List.filterMap_append, List.map_append, List.map_append]
    exact ih.append (hturn.message_types (htold.equipped hfirst) hwithin)

/-- In a run of an application that looks at packets only by reading them, the messages that are
handled are those of the packets that are handed over, in their order. -/
theorem Chronicle.messages (h : Chronicle env c first begun packets deeds e w)
    (hfirst : first.handlers = builtins)
    (hreading : ∀ request, c.asks request → (Conduct.reading : Conduct ω).asks request) :
    deeds.filterMap Done.handshake? = packets.filterMap Frame.handshake? := by
  induction h with
  | start => rfl
  | named id _ ih => exact ih
  | run program _ _ ih => rw [List.filterMap_append, handshakes_deeds, List.append_nil, ih]
  | turn hturn htold ih =>
    rw [List.filterMap_append, List.filterMap_append, ih,
      hturn.messages (htold.equipped hfirst) (htold.within hfirst hreading fun _ ↦ trivial)]

/-- Where the messages that are handled in a run come from. -/
structure Sourced (c : Conduct ω) (packets : List Frame) (deeds : List (Done ω)) : Prop where
  types : Content c.asks → List.Sublist ((deeds.filterMap Done.handshake?).map Prod.fst)
    ((packets.filterMap Frame.handshake?).map Prod.fst)
  messages : (∀ request, c.asks request → (Conduct.reading : Conduct ω).asks request) →
    deeds.filterMap Done.handshake? = packets.filterMap Frame.handshake?

theorem Chronicle.sourced (h : Chronicle env c first begun packets deeds e w)
    (hfirst : first.handlers = builtins) : Sourced c packets deeds :=
  ⟨h.message_types hfirst, h.messages hfirst⟩

end Endpoint

end FramedLink
