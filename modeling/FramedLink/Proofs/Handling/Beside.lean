import FramedLink.Proofs.Handling.Poll

/-!
# Something beside the surroundings

The surroundings of an endpoint may stand beside something else that neither the endpoint nor its
application takes notice of. What is done then is what is done without it: sending, the operations
on the link, handlers, and the judgement of what was collected all commute with putting it there, as
long as the application leaves reading the channel to the endpoint (`advance_beside`). If the
endpoint reads the same as well, so do whole polls (`poll_beside`).
-/

namespace FramedLink

variable {ω φ : Type}

/-- A step that takes no notice of what stands beside the surroundings. -/
def besideStep (φ : Type) (step : ω → ω) (w : ω × φ) : ω × φ :=
  (step w.1, w.2)

def Program.beside (φ : Type) : Program ω → Program (ω × φ)
  | .finish outcome => .finish outcome
  | .ask request next => .ask request fun answer ↦ (next answer).beside φ
  | .inspect next => .inspect fun station ↦ (next station).beside φ
  | .addHandler type handler next =>
    .addHandler type (fun header ↦ (handler header).beside φ) (next.beside φ)
  | .addResetCallback callback next => .addResetCallback (besideStep φ callback) (next.beside φ)
  | .addLinkCallback callback next =>
    .addLinkCallback (fun event ↦ besideStep φ (callback event)) (next.beside φ)
  | .outside step next => .outside (besideStep φ step) fun w ↦ (next w.1).beside φ

def Handler.beside (φ : Type) : Handler ω → Handler (ω × φ)
  | .answerRequest => .answerRequest
  | .acceptResponse => .acceptResponse
  | .custom body => .custom fun header ↦ (body header).beside φ

def Registration.beside (φ : Type) (registration : Registration ω) : Registration (ω × φ) :=
  ⟨registration.type, registration.handler.beside φ⟩

def Endpoint.beside (φ : Type) (e : Endpoint ω) : Endpoint (ω × φ) where
  toStation := e.toStation
  handlers := e.handlers.map (·.beside φ)
  resetCallbacks := e.resetCallbacks.map (besideStep φ)
  linkCallbacks := e.linkCallbacks.map fun callback event ↦ besideStep φ (callback event)

/-- Two environments do the same, with or without something beside the surroundings, except that
they may read in their own ways. -/
structure Environment.Beside (env : Environment ω) (env' : Environment (ω × φ)) : Prop where
  now (w : ω) (f : φ) : env'.now (w, f) = ((env.now w).1, ((env.now w).2, f))
  draw (draw : IdSupply → UInt32 × IdSupply) (w : ω) (f : φ) :
    env'.ids.run draw (w, f) = ((env.ids.run draw w).1, ((env.ids.run draw w).2, f))
  note (event : Event) (w : ω) (f : φ) : env'.note event (w, f) = (env.note event w, f)
  write (octets : Bytes) (w : ω) (f : φ) :
    env'.channel.write octets (w, f) =
      ((env.channel.write octets w).1, ((env.channel.write octets w).2, f))

/-- Two environments do the same throughout, with or without something beside the surroundings. -/
structure Environment.BesideThroughout (env : Environment ω) (env' : Environment (ω × φ)) : Prop
    extends env.Beside env' where
  available (w : ω) (f : φ) :
    env'.channel.available (w, f) =
      ((env.channel.available w).1, ((env.channel.available w).2, f))
  read (size : Nat) (w : ω) (f : φ) :
    env'.channel.read size (w, f) =
      ((env.channel.read size w).1, ((env.channel.read size w).2, f))

def Conduct.sheltered (c : Conduct ω) : Conduct ω :=
  { c with asks := fun request ↦
      c.asks request ∧ request ≠ .channelAvailable ∧ ∀ size, request ≠ .channelRead size }

namespace Endpoint

variable {env : Environment ω} {env' : Environment (ω × φ)} {c : Conduct ω}

/-- What an operation comes to, with something beside the surroundings. -/
def besideOf {α : Type} (f : φ) (result : α × Endpoint ω × ω) :
    α × Endpoint (ω × φ) × (ω × φ) :=
  (result.1, result.2.1.beside φ, (result.2.2, f))

def besideOf' (f : φ) (result : Endpoint ω × ω) : Endpoint (ω × φ) × (ω × φ) :=
  (result.1.beside φ, (result.2, f))

@[simp]
theorem toStation_beside (e : Endpoint ω) : (e.beside φ).toStation = e.toStation := rfl

theorem fireReset_beside (e : Endpoint ω) (w : ω) (f : φ) :
    (e.beside φ).fireReset (w, f) = (e.fireReset w, f) := by
  unfold fireReset beside
  rw [← List.map_reverse, List.foldl_map]
  induction e.resetCallbacks.reverse generalizing w with
  | nil => rfl
  | cons callback callbacks ih => exact ih (callback w)

theorem fireLink_beside (e : Endpoint ω) (event : LinkEvent) (w : ω) (f : φ) :
    (e.beside φ).fireLink event (w, f) = (e.fireLink event w, f) := by
  unfold fireLink beside
  rw [← List.map_reverse, List.foldl_map]
  induction e.linkCallbacks.reverse generalizing w with
  | nil => rfl
  | cons callback callbacks ih => exact ih (callback event w)

theorem send_beside (henv : env.Beside env') (type id : UInt8) (size : Nat) (e : Endpoint ω)
    (w : ω) (f : φ) :
    (e.beside φ).send env' type id size (w, f) = besideOf f (e.send env type id size w) := by
  unfold send
  simp only [toStation_beside]
  cases e.refusedLimit? size with
  | some limit => rfl
  | none =>
    cases e.outgoing.sealFrame type id size e.config.integrity with
    | error error => rfl
    | ok sealed =>
      dsimp only
      rw [henv.write]
      rcases env.channel.write sealed.1 w with ⟨_ | taken, next⟩
      · rfl
      · dsimp only
        split
        · rfl
        · rw [henv.note]
          rfl

theorem sendDescription_beside (henv : env.Beside env') (type id : UInt8) (e : Endpoint ω) (w : ω)
    (f : φ) :
    (e.beside φ).sendDescription env' type id (w, f) =
      besideOf f (e.sendDescription env type id w) := by
  unfold sendDescription
  simp only [toStation_beside]
  rcases e.description.write e.outgoing.reset with ⟨_ | _, outgoing⟩
  · rfl
  · exact send_beside henv type id _ { e with outgoing } w f

theorem disconnect_beside (henv : env.Beside env') (e : Endpoint ω) (w : ω) (f : φ) :
    (e.beside φ).disconnect env' (w, f) = besideOf' f (e.disconnect env w) := by
  unfold disconnect
  by_cases hup : e.link.connected = true
  · rw [toStation_beside, if_pos hup, if_pos hup, henv.draw]
    dsimp only
    rw [henv.note]
    exact Prod.ext rfl (fireLink_beside e _ _ f)
  · rw [toStation_beside, if_neg hup, if_neg hup]
    rfl

theorem dropSilentPeer_beside (henv : env.Beside env') (now : Millis) (e : Endpoint ω) (w : ω)
    (f : φ) :
    (e.beside φ).dropSilentPeer env' now (w, f) = besideOf' f (e.dropSilentPeer env now w) := by
  have hsilent : (e.beside φ).isSilent now = e.isSilent now := rfl
  unfold dropSilentPeer
  rw [hsilent]
  cases e.isSilent now with
  | none => rfl
  | some timeout =>
    dsimp only [toStation_beside]
    rw [henv.note]
    exact disconnect_beside henv e _ f

theorem recordPeer_beside (henv : env.Beside env') (connId : UInt32) (connType : UInt16)
    (e : Endpoint ω) (w : ω) (f : φ) :
    (e.beside φ).recordPeer env' connId connType (w, f) =
      besideOf' f (e.recordPeer env connId connType w) := by
  unfold recordPeer
  by_cases hknown : connId = e.link.remoteId
  · rw [toStation_beside]
    dsimp only
    rw [if_pos hknown, if_pos hknown]
    rfl
  · rw [toStation_beside]
    dsimp only
    rw [if_neg hknown, if_neg hknown, henv.note]
    exact Prod.ext rfl (fireReset_beside e _ f)

theorem dropReplacedPeer_beside (connId : UInt32) (e : Endpoint ω) (w : ω) (f : φ) :
    (e.beside φ).dropReplacedPeer connId (w, f) = besideOf' f (e.dropReplacedPeer connId w) := by
  unfold dropReplacedPeer
  by_cases hreplaced : (e.link.connected && connId != e.link.remoteId) = true
  · rw [toStation_beside, if_pos hreplaced, if_pos hreplaced]
    exact Prod.ext rfl (fireLink_beside e _ _ f)
  · rw [toStation_beside, if_neg hreplaced, if_neg hreplaced]
    rfl

theorem bringUp_beside (henv : env.Beside env') (message : ConnectMessage) (e : Endpoint ω) (w : ω)
    (f : φ) :
    (e.beside φ).bringUp env' message (w, f) = besideOf' f (e.bringUp env message w) := by
  unfold bringUp
  by_cases hup : e.link.connected = true
  · rw [toStation_beside, if_pos hup, if_pos hup]
    rfl
  · rw [toStation_beside, if_neg hup, if_neg hup, henv.note]
    exact Prod.ext rfl (fireLink_beside e _ _ f)

theorem acceptResponse_beside (henv : env.Beside env') (message : ConnectMessage) (e : Endpoint ω)
    (w : ω) (f : φ) :
    (e.beside φ).acceptResponse env' message (w, f) =
      besideOf' f (e.acceptResponse env message w) := by
  let answered := e.answeredAt (env.now w).1 message.limit
  let dropped := answered.dropReplacedPeer message.connId (env.now w).2
  let recorded := dropped.1.recordPeer env message.connId message.connType dropped.2
  have hdropped : ((e.beside φ).answeredAt (env'.now (w, f)).1 message.limit).dropReplacedPeer
      message.connId (env'.now (w, f)).2 = besideOf' f dropped := by
    rw [henv.now]
    exact dropReplacedPeer_beside message.connId answered _ f
  have hrecorded : (besideOf' f dropped).1.recordPeer env' message.connId message.connType
      (besideOf' f dropped).2 = besideOf' f recorded :=
    recordPeer_beside henv message.connId message.connType dropped.1 dropped.2 f
  calc
    (e.beside φ).acceptResponse env' message (w, f) =
        let dropped := ((e.beside φ).answeredAt (env'.now (w, f)).1 message.limit).dropReplacedPeer
          message.connId (env'.now (w, f)).2
        let recorded := dropped.1.recordPeer env' message.connId message.connType dropped.2
        recorded.1.bringUp env' message recorded.2 := rfl
    _ = (besideOf' f recorded).1.bringUp env' message (besideOf' f recorded).2 := by
      dsimp only
      rw [hdropped, hrecorded]
    _ = besideOf' f (e.acceptResponse env message w) :=
      bringUp_beside henv message recorded.1 recorded.2 f

theorem checkConnection_beside (henv : env.Beside env') (e : Endpoint ω) (w : ω) (f : φ) :
    (e.beside φ).checkConnection env' (w, f) = besideOf f (e.checkConnection env w) := by
  let now := (env.now w).1
  let dropped := e.dropSilentPeer env now (env.now w).2
  have hdropped : (e.beside φ).dropSilentPeer env' (env'.now (w, f)).1 (env'.now (w, f)).2 =
      besideOf' f dropped := by
    rw [henv.now]
    exact dropSilentPeer_beside henv now e _ f
  have hnow : (env'.now (w, f)).1 = now := by rw [henv.now]
  have hdue : (besideOf' f dropped).1.requestDue now = dropped.1.requestDue now := rfl
  unfold checkConnection
  dsimp only
  rw [hdropped, hnow, hdue]
  split
  · have hsent := sendDescription_beside henv MessageType.connectRequest
      dropped.1.link.requestIds.take.1
      { dropped.1 with link := { dropped.1.link with
          nextRequest := some (now.after dropped.1.config.connectInterval)
          requestIds := dropped.1.link.requestIds.take.2 } } dropped.2 f
    exact congrArg (fun sent : Except EndpointError Unit × Endpoint (ω × φ) × (ω × φ) ↦
      (sent.1.map fun _ ↦ true, sent.2)) hsent
  · rfl

theorem perform_beside (henv : env.Beside env') {request : Request}
    (hrequest : request ≠ .channelAvailable ∧ ∀ size, request ≠ .channelRead size)
    (e : Endpoint ω) (w : ω) (f : φ) :
    (e.beside φ).perform env' (w, f) request = besideOf f (e.perform env w request) := by
  cases request with
  | incoming op => rfl
  | outgoing op => rfl
  | send type id size => exact send_beside henv type id size e w f
  | sendWritten type id => exact send_beside henv type id e.outgoing.payloadSize e w f
  | requestConnection id => exact sendDescription_beside henv _ id e w f
  | checkConnection => exact checkConnection_beside henv e w f
  | disconnect => exact congrArg (Prod.mk ()) (disconnect_beside henv e w f)
  | poll => rfl
  | handlerCount type =>
    have hcount : (e.beside φ).handlerCount type = e.handlerCount type := List.countP_map ..
    exact congrArg (fun count ↦ (count, e.beside φ, (w, f))) hcount
  | channelAvailable => exact absurd rfl hrequest.1
  | channelRead size => exact absurd rfl (hrequest.2 size)
  | channelWrite octets =>
    exact congrArg (fun written : Except ChannelError Nat × (ω × φ) ↦
      (written.1, e.beside φ, written.2)) (henv.write octets w f)

theorem addHandler_beside (e : Endpoint ω) (type : UInt8) (body : Header → Program ω) :
    (e.beside φ).addHandler type (fun header ↦ (body header).beside φ) =
      (e.addHandler type body).beside φ := by
  simp [addHandler, beside, Registration.beside, Handler.beside]

theorem addResetCallback_beside (e : Endpoint ω) (callback : ω → ω) :
    (e.beside φ).addResetCallback (besideStep φ callback) =
      (e.addResetCallback callback).beside φ := by
  simp [addResetCallback, beside]

theorem addLinkCallback_beside (e : Endpoint ω) (callback : LinkEvent → ω → ω) :
    (e.beside φ).addLinkCallback (fun event ↦ besideStep φ (callback event)) =
      (e.addLinkCallback callback).beside φ := by
  simp [addLinkCallback, beside]

theorem run_beside (henv : env.Beside env') {program : Program ω}
    (hprogram : program.Within c.sheltered) (e : Endpoint ω) (w : ω) (f : φ) :
    (program.beside φ).run env' (e.beside φ) (w, f) = besideOf f (program.run env e w) := by
  induction program generalizing e w with
  | finish outcome => rfl
  | ask request next ih =>
    unfold Program.beside Program.run
    rw [perform_beside henv hprogram.1.2]
    exact ih _ (hprogram.2 _) _ _
  | inspect next ih => exact ih _ (hprogram _) e w
  | addHandler type handler next _ ih =>
    unfold Program.beside Program.run
    rw [addHandler_beside]
    exact ih hprogram.2 _ w
  | addResetCallback callback next ih =>
    unfold Program.beside Program.run
    rw [addResetCallback_beside]
    exact ih hprogram.2 _ w
  | addLinkCallback callback next ih =>
    unfold Program.beside Program.run
    rw [addLinkCallback_beside]
    exact ih hprogram.2 _ w
  | outside step next ih => exact ih _ (hprogram.2 _) e (step w)

theorem readMessage_beside (e : Endpoint ω) :
    (e.beside φ).readMessage = (e.readMessage.1, e.readMessage.2.beside φ) := rfl

theorem runHandler_beside (henv : env.Beside env') (header : Header)
    {registration : Registration ω} (hregistration : registration.Within c.sheltered)
    (e : Endpoint ω) (w : ω) (f : φ) :
    (e.beside φ).runHandler env' header (registration.handler.beside φ) (w, f) =
      besideOf f (e.runHandler env header registration.handler w) := by
  obtain ⟨type, handler⟩ := registration
  cases handler with
  | custom body => exact run_beside henv (hregistration header) e w f
  | answerRequest =>
    unfold Handler.beside runHandler
    rw [readMessage_beside]
    rcases e.readMessage with ⟨_ | message, e⟩
    · rfl
    · dsimp only
      rw [henv.note, recordPeer_beside henv]
      exact sendDescription_beside henv _ 0 _ _ f
  | acceptResponse =>
    unfold Handler.beside runHandler
    rw [readMessage_beside]
    rcases e.readMessage with ⟨_ | message, e⟩
    · rfl
    · dsimp only
      rw [henv.note, acceptResponse_beside henv]
      rfl

theorem runRound_beside (henv : env.Beside env') (header : Header)
    {registrations : List (Registration ω)}
    (hall : ∀ registration ∈ registrations, registration.Within c.sheltered) (round : Round)
    (e : Endpoint ω) (w : ω) (f : φ) :
    runRound env' header (registrations.map (·.beside φ)) round (e.beside φ) (w, f) =
      besideOf f (runRound env header registrations round e w) := by
  induction registrations generalizing round e w with
  | nil => rfl
  | cons registration registrations ih =>
    rw [List.forall_mem_cons] at hall
    rw [List.map_cons]
    unfold runRound
    by_cases htype : registration.type = header.type
    · have hran := runHandler_beside henv header hall.1
        { e with toStation := e.toStation.rewindIncoming } w f
      have htype' : (registration.beside φ).type = header.type := htype
      have hran' : runHandler env' header (registration.beside φ).handler
          { e.beside φ with toStation := (e.beside φ).toStation.rewindIncoming } (w, f) = _ := hran
      rw [if_pos htype, if_pos htype']
      dsimp only
      rw [hran']
      rcases runHandler env header registration.handler
        { e with toStation := e.toStation.rewindIncoming } w with ⟨_ | _, e, w⟩
      · dsimp only [besideOf]
        rw [henv.note]
        exact ih hall.2 _ e _
      · exact ih hall.2 _ e w
    · have htype' : ¬ (registration.beside φ).type = header.type := htype
      rw [if_neg htype, if_neg htype']
      exact ih hall.2 round e w

/-- What is left to do when the handlers of a round have run. -/
def closeRound (env : Environment ω) (header : Header) (registered : List (Registration ω))
    (round : Round) (e : Endpoint ω) (w : ω) : Endpoint ω × ω :=
  ({ e with
      handlers := registered ++ e.handlers
      dispatching := false
      counters := countRound e.counters round },
    if round.matched = 0 then env.note (.unhandled header.type) w else w)

theorem closeRound_beside (henv : env.Beside env') (header : Header)
    (registered : List (Registration ω)) (round : Round) (e : Endpoint ω) (w : ω) (f : φ) :
    closeRound env' header (registered.map (·.beside φ)) round (e.beside φ) (w, f) =
      besideOf' f (closeRound env header registered round e w) := by
  have hrestored : registered.map (·.beside φ) ++ (e.beside φ).handlers =
      (registered ++ e.handlers).map (·.beside φ) := List.map_append.symm
  unfold closeRound
  rw [hrestored]
  by_cases hnone : round.matched = 0
  · rw [if_pos hnone, if_pos hnone, henv.note]
    rfl
  · rw [if_neg hnone, if_neg hnone]
    rfl

theorem dispatch_beside (henv : env.Beside env') (header : Header) {e : Endpoint ω}
    (hwithin : e.Within c.sheltered) (w : ω) (f : φ) :
    (e.beside φ).dispatch env' header (w, f) = besideOf' f (e.dispatch env header w) := by
  let noted := env.note (.dispatching header e.reception.region.payload) w
  let emptied : Endpoint ω := { e with handlers := [], dispatching := true }
  let ran := runRound env header e.handlers.reverse {} emptied noted
  have hran : runRound env' header (e.handlers.map (·.beside φ)).reverse {} (emptied.beside φ)
      (env'.note (.dispatching header e.reception.region.payload) (w, f)) = besideOf f ran := by
    rw [henv.note, ← List.map_reverse]
    apply runRound_beside henv
    intro registration hmem
    exact hwithin.handlers registration (List.mem_reverse.mp hmem)
  calc
    (e.beside φ).dispatch env' header (w, f) =
        let ran := runRound env' header (e.handlers.map (·.beside φ)).reverse {} (emptied.beside φ)
          (env'.note (.dispatching header e.reception.region.payload) (w, f))
        closeRound env' header (e.handlers.map (·.beside φ)) ran.1 ran.2.1 ran.2.2 := rfl
    _ = closeRound env' header (e.handlers.map (·.beside φ)) ran.1 (ran.2.1.beside φ)
        (ran.2.2, f) := by
      rw [hran]
      rfl
    _ = besideOf' f (e.dispatch env header w) :=
      closeRound_beside henv header e.handlers ran.1 ran.2.1 ran.2.2 f

theorem noteStep_beside (henv : env.Beside env') (e : Endpoint ω) (w : ω) (f : φ)
    (step : Station × Option Event) :
    noteStep env' (e.beside φ) (w, f) step = besideOf' f (noteStep env e w step) := by
  obtain ⟨s, _ | event⟩ := step
  · rfl
  · exact congrArg (Prod.mk (({ e with toStation := s } : Endpoint ω).beside φ))
      (henv.note event w f)

theorem completePacket_beside (henv : env.Beside env') {e : Endpoint ω}
    (hwithin : e.Within c.sheltered) (w : ω) (f : φ) :
    (e.beside φ).completePacket env' (w, f) = besideOf f (e.completePacket env w) := by
  unfold completePacket
  rw [toStation_beside]
  cases e.judgePacket with
  | deliver header =>
    let opened : Endpoint ω := { e with toStation := e.openPacket }
    have hopened : opened.Within c.sheltered := hwithin.of_tables rfl
    have hdispatched : Endpoint.dispatch env' header
        { e.beside φ with toStation := e.openPacket } (w, f) = _ :=
      dispatch_beside henv header hopened w f
    dsimp only
    rw [hdispatched]
    rfl
  | badTrailer error =>
    dsimp only
    rw [henv.note]
    rfl
  | unreadable error =>
    dsimp only
    rw [henv.note]
    rfl

/-- What was collected is judged, and handed to handlers, as it is without what stands beside the
surroundings. -/
theorem advance_beside (henv : env.Beside env') (before : Nat) {e : Endpoint ω}
    (hwithin : e.Within c.sheltered) (w : ω) (f : φ) :
    (e.beside φ).advance env' before (w, f) = besideOf f (e.advance env before w) := by
  have hcomplete (e : Endpoint ω) (w : ω) (hwithin : e.Within c.sheltered) :
      (if 0 < (e.beside φ).reception.packetSize ∧
          (e.beside φ).reception.packetSize ≤ (e.beside φ).reception.filled then
        (e.beside φ).completePacket env' (w, f) else (0, e.beside φ, (w, f))) =
      besideOf f (if 0 < e.reception.packetSize ∧ e.reception.packetSize ≤ e.reception.filled then
        e.completePacket env w else (0, e, w)) := by
    by_cases hwhole : 0 < e.reception.packetSize ∧ e.reception.packetSize ≤ e.reception.filled
    · rw [toStation_beside, if_pos hwhole, if_pos hwhole]
      exact completePacket_beside henv hwithin w f
    · rw [toStation_beside, if_neg hwhole, if_neg hwhole]
      rfl
  unfold advance
  by_cases hheader : before < headerSize ∧ headerSize ≤ e.reception.filled
  · rw [toStation_beside, if_pos hheader, if_pos hheader, noteStep_beside henv]
    exact hcomplete _ _ (hwithin.of_tables rfl)
  · rw [toStation_beside, if_neg hheader, if_neg hheader]
    exact hcomplete e w hwithin

theorem readPortion_beside (henv : env.BesideThroughout env') (size : Nat) {e : Endpoint ω}
    (hwithin : e.Within c.sheltered) (w : ω) (f : φ) :
    (e.beside φ).readPortion env' size (w, f) = besideOf f (e.readPortion env size w) := by
  unfold readPortion
  rw [toStation_beside, henv.read]
  cases e.reception.region.checkSlot e.reception.filled size with
  | error error => rfl
  | ok =>
    rcases env.channel.read size w with ⟨⟨stored, _ | reported⟩, w'⟩
    · rfl
    · dsimp only
      by_cases hnone : min reported size = 0
      · rw [if_pos hnone, if_pos hnone]
        rfl
      · let collected : Endpoint ω :=
          { e with toStation := e.collect (stored.take size) (min reported size) }
        have hcollected : collected.Within c.sheltered := hwithin.of_tables rfl
        have hadvanced : Endpoint.advance env' e.reception.filled (collected.beside φ) (w', f) =
            besideOf f (collected.advance env e.reception.filled w') :=
          advance_beside henv.toBeside _ hcollected w' f
        rw [if_neg hnone, if_neg hnone]
        exact congrArg (fun advanced : Nat × Endpoint (ω × φ) × (ω × φ) ↦
          (Turn.received advanced.1, advanced.2)) hadvanced

/-- What is left to do in a turn once octets were found and a late packet was given up. -/
def turnOn (env : Environment ω) (ready : Nat) (now : Millis) (e : Endpoint ω) (w : ω) :
    Turn × Endpoint ω × ω :=
  let waiting : Endpoint ω := { e with toStation := e.toStation.extendDeadline now }
  let size := waiting.reception.portion ready
  if size = 0 then (.idle, waiting, w) else waiting.readPortion env size w

theorem turn_of_some {ready : Nat} {e : Endpoint ω} {w w₁ : ω}
    (hready : env.channel.available w = (.ok ready, w₁)) (hsome : ready ≠ 0) :
    e.turn env w =
      let noted := noteStep env e (env.now w₁).2 (e.expire (env.now w₁).1)
      turnOn env ready (env.now w₁).1 noted.1 noted.2 := by
  unfold turn
  rw [hready]
  exact if_neg hsome

theorem turnOn_beside (henv : env.BesideThroughout env') (ready : Nat) (now : Millis)
    {e : Endpoint ω} (hwithin : e.Within c.sheltered) (w : ω) (f : φ) :
    turnOn env' ready now (e.beside φ) (w, f) = besideOf f (turnOn env ready now e w) := by
  let waiting : Endpoint ω := { e with toStation := e.toStation.extendDeadline now }
  have hwaiting : waiting.Within c.sheltered := hwithin.of_tables rfl
  have hplain : turnOn env ready now e w =
      if waiting.reception.portion ready = 0 then (.idle, waiting, w)
      else waiting.readPortion env (waiting.reception.portion ready) w := rfl
  have hbeside : turnOn env' ready now (e.beside φ) (w, f) =
      if waiting.reception.portion ready = 0 then (.idle, waiting.beside φ, (w, f))
      else (waiting.beside φ).readPortion env' (waiting.reception.portion ready) (w, f) := rfl
  rw [hplain, hbeside]
  by_cases hnone : waiting.reception.portion ready = 0
  · rw [if_pos hnone, if_pos hnone]
    rfl
  · rw [if_neg hnone, if_neg hnone]
    exact readPortion_beside henv _ hwaiting w f

theorem turn_beside (henv : env.BesideThroughout env') {e : Endpoint ω}
    (hwithin : e.Within c.sheltered) (w : ω) (f : φ) :
    (e.beside φ).turn env' (w, f) = besideOf f (e.turn env w) := by
  have havailable := henv.available w f
  rcases hready : env.channel.available w with ⟨error | ready, w'⟩
  · rw [hready] at havailable
    unfold turn
    rw [hready, havailable]
    cases error <;> rfl
  · rw [hready] at havailable
    by_cases hnone : ready = 0
    · unfold turn
      rw [hready, havailable, hnone]
      rfl
    · let noted := noteStep env e (env.now w').2 (e.expire (env.now w').1)
      have hnoted : noted.1.Within c.sheltered := hwithin.of_tables rfl
      rw [turn_of_some havailable hnone, turn_of_some hready hnone, henv.now, toStation_beside]
      dsimp only
      rw [noteStep_beside henv.toBeside]
      exact turnOn_beside henv ready _ hnoted noted.2 f

theorem pollFrom_beside (henv : env.BesideThroughout env') (fuel packets : Nat) {e : Endpoint ω}
    (hwithin : e.Within c.sheltered) (w : ω) (f : φ) :
    pollFrom env' fuel packets (e.beside φ) (w, f) =
      besideOf f (pollFrom env fuel packets e w) := by
  induction fuel generalizing packets e w with
  | zero => rfl
  | succ fuel ih =>
    have hstill : (e.turn env w).2.1.Within c.sheltered := within_turn hwithin w
    unfold pollFrom
    rw [turn_beside henv hwithin]
    rcases hturn : e.turn env w with ⟨outcome, e', w'⟩
    rw [hturn] at hstill
    cases outcome with
    | idle | closed | failed error => rfl
    | received more => exact ih (packets + more) hstill w'

/-- A poll comes to what it comes to without what stands beside the surroundings. -/
theorem poll_beside (henv : env.BesideThroughout env') (fuel : Nat) {e : Endpoint ω}
    (hwithin : e.Within c.sheltered) (w : ω) (f : φ) :
    (e.beside φ).poll env' fuel (w, f) = besideOf f (e.poll env fuel w) := by
  have hadmission : (e.beside φ).admitPoll = e.admitPoll := rfl
  unfold poll
  rw [hadmission]
  cases e.admitPoll with
  | error error => rfl
  | ok => exact pollFrom_beside henv fuel 0 hwithin w f

end Endpoint

end FramedLink
