import FramedLink.Proofs.Link.Handshakes
import FramedLink.Proofs.Texts
import FramedLink.Proofs.Tool.Exchanges
import FramedLink.Tool.Run

/-!
# Rehearsed handshakes

A rehearsal tells what the two ends really said: the request of the host, the answer of the device,
that the host is connected, and whether the device took it for a new one (`report_run`). The report
is put together from what the device makes of the request (`leads_request`) and what the host makes
of the answer (`leads_response`); a device with settings that do not work is refused
(`report_run_refused`).
-/

namespace FramedLink

namespace Tool.Rehearsal

open Endpoint

variable {config : Config} {id : UInt32} {port : Port Empty Unit} {times : Millis → Prop}
variable {request response : ConnectMessage} {e : Endpoint Stage} {w : Stage}

/-! ## The device -/

/-- A device that has not heard of the host yet, and writes it down when it does. -/
structure Unmet (config : Config) (id : UInt32) (e : Endpoint Stage) : Prop where
  resets : e.resetCallbacks = [Bench.write ()]
  fitted : e.Fitted config
  localId : e.link.localId = id
  stranger : e.link.remoteId = 0
  limit : e.link.remoteLimit = none

/-- Nothing was said and written down yet. -/
structure Waits (config : Config) (id : UInt32) (written : Bytes) (journal : List Unit)
    (e : Endpoint Stage) : Prop extends Unmet config id e where
  handlers : e.handlers = handshakeHandlers
  written_eq : written = []
  journal_eq : journal = []

/-- The device has answered a request, and has written down whether the host was new. -/
structure Answered (config : Config) (id : UInt32) (request : ConnectMessage) (written : Bytes)
    (journal : List Unit) (e : Endpoint Stage) : Prop where
  written_eq : written = config.reply id
  journal_eq : journal.isEmpty = (request.connId == 0)

theorem aloof_waits : Aloof (Waits config id) := by
  intro written journal e s h hconfig hlink hregion
  exact { h with
    fitted := h.fitted.of_sizes hconfig (congrArg Array.size hregion)
    localId := (congrArg LinkState.localId hlink).trans h.localId
    stranger := (congrArg LinkState.remoteId hlink).trans h.stranger
    limit := (congrArg LinkState.remoteLimit hlink).trans h.limit }

theorem aloof_answered : Aloof (Answered config id request) := by
  intro written journal e s h _ _ _
  exact ⟨h.written_eq, h.journal_eq⟩

def asRequest (request : ConnectMessage) : Message :=
  ⟨MessageType.connectRequest, 1, request.encode⟩

theorem Unmet.recordPeer (h : Unmet config id e) (port : Port Empty Unit)
    (times : Millis → Prop) (request : ConnectMessage) {w : Stage} (hjournal : w.journal = []) :
    let recorded := e.recordPeer port.environment request.connId request.connType w
    recorded.1.Fitted config ∧ recorded.1.link.localId = id ∧ recorded.1.books.Takes ∧
      recorded.2.lines = w.lines ∧ (w.Shows times → recorded.2.Shows times) ∧
      recorded.2.journal.isEmpty = (request.connId == 0) := by
  have hrecording : Recording port.environment request.connId request.connType e w _ :=
    recording_recordPeer request.connId request.connType
  generalize e.recordPeer port.environment request.connId request.connType w = recorded
    at hrecording ⊢
  have htakes {books : Books} (hlimit : books.limit = none) : books.Takes := by
    intro limit hmem
    rw [hlimit] at hmem
    cases hmem
  cases hrecording with
  | known hsame =>
    have hzero : request.connId = 0 := hsame.symm.trans h.stranger
    refine ⟨⟨h.fitted.config_eq, h.fitted.room⟩, h.localId, htakes h.limit, rfl, fun h ↦ h, ?_⟩
    rw [hjournal, hzero]
    rfl
  | renamed hnew =>
    have hsome : (request.connId == 0) = false :=
      beq_eq_false_iff_ne.mpr fun hzero ↦ hnew (h.stranger.trans hzero.symm)
    have hnoted := w.still_note (.peerReset e.link.remoteId request.connId request.connType)
    have hfired (w : Stage) : e.fireReset w = w.write () := by
      rw [Endpoint.fireReset, h.resets]
      rfl
    refine ⟨⟨h.fitted.config_eq, h.fitted.room⟩, h.localId, htakes h.limit, ?_, ?_, ?_⟩
    · rw [hfired]
      exact hnoted.lines
    · intro hshows
      rw [hfired]
      exact ⟨(hnoted.shows hshows).standing, (hnoted.shows hshows).set⟩
    · rw [hfired, hsome]
      rfl

/-- A request leads to an answer. -/
theorem leads_request (hvalid : config.fault? = none) :
    Leads port times (asRequest request) (Waits config id) (Answered config id request) := by
  intro traffic e w h hpayload hhand hshows handled
  let header := (asRequest request).frame.header
  let started : Endpoint Stage := { e with handlers := [], dispatching := true }
  let begun := w.note (.dispatching header e.reception.region.payload)
  let heard := begun.note (.requestReceived header.id request)
  have hstill :=
    calc
      w.Still begun := w.still_note _
      Bench.Still _ heard := begun.still_note _
  have hmessage : started.reception.region.message = .ok request :=
    Incoming.message_of_payload hpayload
  obtain ⟨cursor, hran⟩ := @runHandler_answerRequest _ port.environment started begun header
    request hmessage
  have hopened : Unmet config id (started.withCursor cursor) :=
    { h with fitted := ⟨h.fitted.config_eq, h.fitted.room⟩ }
  have hjournal : heard.journal = [] :=
    calc
      heard.journal = w.journal := hstill.journal
      _ = [] := h.journal_eq
  obtain ⟨hfitted, hid, htakes, hlines, hshown, hjournal⟩ :=
    hopened.recordPeer port times request hjournal
  let recorded := (started.withCursor cursor).recordPeer port.environment request.connId
    request.connType heard
  have hrecorded : port.AtHand traffic recorded.2.lines := by
    rw [hlines, hstill.lines]
    exact hhand
  have hdescribing := hfitted.describes_port hvalid hrecorded MessageType.connectResponse 0 times
  generalize hdescribed : recorded.1.sendDescription port.environment MessageType.connectResponse 0
    recorded.2 = result at hdescribing
  cases hdescribing with
  | refused hrefuses => exact absurd htakes hrefuses
  | sent _ outgoing w' _ hanswered hkept hshows' =>
    obtain ⟨counters, hdispatch⟩ := @dispatch_handshake_ok _ _ _ _ _ _ _ _
      ⟨MessageType.connectRequest, .answerRequest⟩ h.handlers (.head _) rfl
      (hran.trans hdescribed)
    dsimp only [handled]
    rw [hdispatch]
    dsimp only at hanswered
    rw [h.written_eq, List.nil_append, hid] at hanswered
    refine ⟨_, hanswered, hshows' (hshown (hstill.shows hshows)), rfl, ?_⟩
    rw [hkept]
    exact hjournal

/-! ## The host -/

/-- A host that has asked for a connection. -/
structure Asks (asked : List Unit) (written : Bytes) (journal : List Unit)
    (e : Endpoint Stage) : Prop where
  handlers : e.handlers = handshakeHandlers
  resets : e.resetCallbacks = []
  links : e.linkCallbacks = []
  journal_eq : journal = asked

/-- The host is connected. -/
structure Connected (asked : List Unit) (written : Bytes) (journal : List Unit)
    (e : Endpoint Stage) : Prop where
  connected : e.link.connected = true
  journal_eq : journal = asked

theorem aloof_asks {asked : List Unit} : Aloof (Asks asked) := by
  intro written journal e s h _ _ _
  exact ⟨h.handlers, h.resets, h.links, h.journal_eq⟩

theorem aloof_connected {asked : List Unit} : Aloof (Connected asked) := by
  intro written journal e s h _ hlink _
  exact ⟨(congrArg LinkState.connected hlink).trans h.connected, h.journal_eq⟩

def asAnswer (response : ConnectMessage) : Message :=
  ⟨MessageType.connectResponse, 0, response.encode⟩

/-- An answer leads to a connection. -/
theorem leads_response {asked : List Unit} :
    Leads port times (asAnswer response) (Asks asked) (Connected asked) := by
  intro traffic e w h hpayload hhand hshows handled
  let header := (asAnswer response).frame.header
  let started : Endpoint Stage := { e with handlers := [], dispatching := true }
  let begun := w.note (.dispatching header e.reception.region.payload)
  let heard := begun.note (.responseReceived header.id response)
  have hmessage : started.reception.region.message = .ok response :=
    Incoming.message_of_payload hpayload
  obtain ⟨cursor, hran⟩ := @runHandler_acceptResponse _ port.environment started begun header
    response hmessage
  let accepted := (started.withCursor cursor).acceptResponse port.environment response heard
  obtain ⟨haccepted, hup⟩ : heard.Still accepted.2 ∧ accepted.1.link.connected = true :=
    still_acceptResponse (by exact h.resets ▸ List.forall_mem_nil _)
      (by exact h.links ▸ List.forall_mem_nil _) response heard
  have hstill :=
    calc
      w.Still begun := w.still_note _
      Bench.Still _ heard := begun.still_note _
      Bench.Still _ accepted.2 := haccepted
  have hjournal : accepted.2.journal = asked :=
    calc
      accepted.2.journal = w.journal := hstill.journal
      _ = asked := h.journal_eq
  have hafter : port.AtHand traffic accepted.2.lines := by
    rw [hstill.lines]
    exact hhand
  obtain ⟨counters, hdispatch⟩ := @dispatch_handshake_ok _ _ _ _ _ _ _ _
    ⟨MessageType.connectResponse, .acceptResponse⟩ h.handlers (.tail _ (.head _)) rfl hran
  dsimp only [handled]
  rw [hdispatch]
  exact ⟨traffic.written, hafter, hstill.shows hshows, hup, hjournal⟩

/-- A new end that asks for a connection sends its description, and keeps the rest of its state. -/
theorem checkConnection_new {traffic : Traffic} (hvalid : config.fault? = none)
    (hunchecked : config.quietTimeout = none) (hnew : e.toStation = .initial config id)
    (hhand : port.AtHand traffic w.lines) (hshows : w.Shows times) :
    ∃ e' w', e.checkConnection port.environment w = (.ok true, e', w') ∧
      e'.config = config ∧ e'.reception = e.reception ∧ e'.dispatching = false ∧
      e'.tables = e.tables ∧ w'.journal = w.journal ∧ w'.Shows times ∧
      port.AtHand { traffic with written := traffic.written ++
        (asRequest (config.description id)).frame.wire config.integrity }
          w'.lines := by
  have hread := w.still_now
  have hconfig : e.config = config := congrArg Station.config hnew
  have hlink : e.link = { localId := id } := congrArg Station.link hnew
  have hquiet : e.dropSilentPeer port.environment w.now.1 w.now.2 = (e, w.now.2) := by
    rw [dropSilentPeer, isSilent, hconfig, hunchecked]
  have hdue : e.requestDue w.now.1 = true := by
    rw [requestDue, hlink]
    rfl
  let asking : Endpoint Stage := { e with
    link := { e.link with
      nextRequest := some (w.now.1.after e.config.connectInterval)
      requestIds := e.link.requestIds.advance } }
  have hfirst : e.link.requestIds.next = 1 := by rw [hlink]; rfl
  have hchecked : e.checkConnection port.environment w =
      let (sent, e, w) :=
        asking.sendDescription port.environment MessageType.connectRequest 1 w.now.2
      (sent.map fun _ ↦ true, e, w) := by
    have hnow : port.environment.now w = w.now := rfl
    simp only [checkConnection, hnow, hquiet, hdue, if_true, MessageIds.take, hfirst]
    rfl
  have hfitted : asking.Fitted config := by
    refine ⟨hconfig, ?_⟩
    rw [show asking.outgoing = e.outgoing from rfl, hnew]
    exact (Station.room_initial hvalid id).2
  have hdescribing := hfitted.describes_port hvalid (hread.lines ▸ hhand)
    MessageType.connectRequest 1 times
  rw [hchecked]
  generalize asking.sendDescription port.environment MessageType.connectRequest 1 w.now.2 = result
    at hdescribing ⊢
  cases hdescribing with
  | refused hrefuses =>
    refine absurd ?_ hrefuses
    intro limit hmem
    rw [books, show asking.link.remoteLimit = e.link.remoteLimit from rfl, hlink] at hmem
    cases hmem
  | sent _ outgoing w' _ hwritten hjournal hshows' =>
    have hid : asking.link.localId = id := congrArg LinkState.localId hlink
    have hkept : w'.journal = w.journal :=
      calc
        w'.journal = w.now.2.journal := hjournal
        _ = w.journal := hread.journal
    dsimp only at hwritten
    rw [hid] at hwritten
    exact ⟨_, w', rfl, hconfig, rfl, congrArg Station.dispatching hnew, rfl, hkept,
      hshows' (hread.shows hshows), hwritten⟩

/-- What the four pipes of a stage hold. -/
structure Pipes (a b c d : Bytes) (lines : Lines Empty) : Prop where
  first : lines.1[0]? = some (.holding a)
  second : lines.1[1]? = some (.holding b)
  third : lines.1[2]? = some (.holding c)
  fourth : lines.1[3]? = some (.holding d)

variable {a b c d octets : Bytes} {lines : Lines Empty} {stage : Stage}

def hostPort : Port Empty Unit :=
  .memory 0 1 [2, 3] (by decide)

def devicePort : Port Empty Unit :=
  .memory 2 3 [0, 1] (by decide)

theorem hostPort_atHand : hostPort.AtHand ⟨a, b, [c, d]⟩ lines ↔ Pipes a b c d lines := by
  constructor
  · rintro ⟨hleft, hwritten, hothers⟩
    obtain ⟨hthird, hfourth⟩ := List.cons.inj hothers
    exact ⟨hleft, hwritten, hthird, (List.cons.inj hfourth).1⟩
  · rintro ⟨hfirst, hsecond, hthird, hfourth⟩
    exact ⟨hfirst, hsecond, congrArg₂ List.cons hthird (congrArg (fun pipe ↦ [pipe]) hfourth)⟩

theorem devicePort_atHand : devicePort.AtHand ⟨c, d, [a, b]⟩ lines ↔ Pipes a b c d lines := by
  constructor
  · rintro ⟨hleft, hwritten, hothers⟩
    obtain ⟨hfirst, hsecond⟩ := List.cons.inj hothers
    exact ⟨hfirst, (List.cons.inj hsecond).1, hleft, hwritten⟩
  · rintro ⟨hfirst, hsecond, hthird, hfourth⟩
    exact ⟨hthird, hfourth, congrArg₂ List.cons hfirst (congrArg (fun pipe ↦ [pipe]) hsecond)⟩

/-- What one pipe holds is carried to another. -/
theorem carry_eq {source target : Nat} (happart : source ≠ target)
    (hsource : stage.lines.1[source]? = some (.holding octets))
    (htarget : stage.lines.1[target]? = some (.holding [])) :
    ∃ lines, carry source target stage = (octets, stage.withLines lines) ∧
      lines.1[source]? = some (.holding []) ∧ lines.1[target]? = some (.holding octets) ∧
      ∀ i, source ≠ i → target ≠ i → lines.1[i]? = stage.lines.1[i]? := by
  let emptied : Lines Empty := (stage.pipes.setIfInBounds source (.holding []), stage.streams)
  have hemptied : emptied.1[target]? = some (.holding []) :=
    (Array.getElem?_setIfInBounds_ne happart).trans htarget
  refine ⟨(emptied.1.setIfInBounds target (.holding octets), emptied.2), ?_, ?_, ?_, ?_⟩
  · have htaken : (Pipe.holding octets).takeAll = (octets, .holding []) := rfl
    have hfed : Pipe.feed octets (.holding []) = .holding octets := Pipe.feed_holding [] octets
    have hget := Port.get_pipe hsource
    have hget' : (Bench.pipe target).get (stage.withLines emptied) = .holding [] :=
      Port.get_pipe hemptied
    have hfirst : (Bench.pipe source).run Pipe.takeAll stage =
        (octets, stage.withLines emptied) := by
      rw [Slot.run, hget, htaken]
      rfl
    simp only [carry, hfirst, Slot.modify, hget', hfed]
    rfl
  · exact (Array.getElem?_setIfInBounds_ne happart.symm).trans (Port.getElem?_set hsource)
  · exact Port.getElem?_set hemptied
  · intro i hi hi'
    exact (Array.getElem?_setIfInBounds_ne hi').trans (Array.getElem?_setIfInBounds_ne hi)

theorem carry_request (h : Pipes a octets [] d stage.lines) :
    ∃ lines, carry 1 2 stage = (octets, stage.withLines lines) ∧ Pipes a [] octets d lines := by
  obtain ⟨lines, hcarry, hsource, htarget, hothers⟩ := carry_eq (by decide) h.second h.third
  exact ⟨lines, hcarry, (hothers 0 (by decide) (by decide)).trans h.first, hsource, htarget,
    (hothers 3 (by decide) (by decide)).trans h.fourth⟩

theorem carry_response (h : Pipes [] b c octets stage.lines) :
    ∃ lines, carry 3 0 stage = (octets, stage.withLines lines) ∧ Pipes octets b c [] lines := by
  obtain ⟨lines, hcarry, hsource, htarget, hothers⟩ := carry_eq (by decide) h.fourth h.first
  exact ⟨lines, hcarry, htarget, (hothers 1 (by decide) (by decide)).trans h.second,
    (hothers 2 (by decide) (by decide)).trans h.third, hsource⟩

/-- A connect message is read out of its frame. -/
theorem readMessage_wire (type id : UInt8) (message : ConnectMessage) :
    readMessage ((Message.frame ⟨type, id, message.encode⟩).wire .unchecked) = .ok message := by
  have hannounced : (Message.frame ⟨type, id, message.encode⟩).header.payloadSize = 8 := rfl
  have hdecoded := @Frame.decode_wire maxPayload .unchecked
    (Message.frame ⟨type, id, message.encode⟩) rfl (hannounced ▸ by decide) []
  rw [List.append_nil] at hdecoded
  have hpayload : (Message.frame ⟨type, id, message.encode⟩).payload = message.encode := rfl
  simp only [readMessage, hdecoded, hpayload, ConnectMessage.decode?_encode]

/-! ## The rehearsal -/

variable {hostConfig deviceConfig : Config} {hostId deviceId : UInt32}
variable {host device : Endpoint Stage}

theorem fits_encode {config : Config} (hvalid : config.fault? = none) (message : ConnectMessage) :
    message.encode.length ≤ maxPayload ∧ message.encode.length ≤ config.maxDeclared := by
  have hlength : message.encode.length = 8 := message.length_encode
  have hbounds := config.bounds_of_valid hvalid
  unfold minRegionSize frameOverhead headerSize trailerSize at hbounds
  unfold maxPayload Config.maxDeclared headerSize
  omega

/-- A rehearsal in which every step succeeds. -/
theorem play_eq {asking answering ended : Endpoint Stage} {w₁ w₂ w₃ carried₁ carried₂ : Stage}
    {asked : Bool} {packets packets' : Nat} {requestWire responseWire : Bytes}
    (hasked : host.checkConnection hostPort.environment stage = (.ok asked, asking, w₁))
    (hcarried₁ : carry 1 2 w₁ = (requestWire, carried₁))
    (hpolled₂ : device.poll devicePort.environment (requestWire.length + 1) carried₁ =
      (.done packets, answering, w₂))
    (hcarried₂ : carry 3 0 w₂ = (responseWire, carried₂))
    (hpolled₃ : asking.poll hostPort.environment (responseWire.length + 1) carried₂ =
      (.done packets', ended, w₃)) :
    play host device stage = finish w₃
      (reportOn requestWire responseWire (!w₃.journal.isEmpty) ended.link.connected) := by
  have hhost : hostSide = hostPort.environment := rfl
  have hdevice : deviceSide = devicePort.environment := rfl
  simp only [play, hhost, hdevice, hasked, hcarried₁, hpolled₂, hcarried₂, hpolled₃]

/-- The report on the wires of a request and of an answer. -/
theorem reportOn_wires (request response : ConnectMessage) (deviceSawReset hostConnected : Bool) :
    let requestWire := (asRequest request).frame.wire .unchecked
    let responseWire := (asAnswer response).frame.wire .unchecked
    reportOn requestWire responseWire deviceSawReset hostConnected = .ok
      { request, response, requestWire, responseWire, deviceSawReset, hostConnected } := by
  intro requestWire responseWire
  have hrequest : readMessage requestWire = .ok request :=
    readMessage_wire MessageType.connectRequest 1 request
  have hresponse : readMessage responseWire = .ok response :=
    readMessage_wire MessageType.connectResponse 0 response
  simp only [reportOn, hrequest, hresponse]

theorem held_initial (config : Config) (id : UInt32) :
    (Station.initial config id).reception.held = [] :=
  Reception.held_of_filled rfl

theorem within_handshake (hhandlers : e.handlers = handshakeHandlers) : e.Within .free :=
  within_free fun _ hmem ↦ .inl (hhandlers ▸ hmem)

/-- A new device answers the request that lies before it. -/
theorem poll_request (hdevice : deviceConfig.fault? = none)
    (hmode : deviceConfig.integrity = .unchecked)
    (hother : device.toStation = .initial deviceConfig deviceId)
    (htables : device.tables = (handshakeHandlers, [Bench.write ()], []))
    (hpipes : Pipes [] [] ((asRequest request).frame.wire .unchecked) [] stage.lines)
    (hjournal : stage.journal = []) (hshows : stage.Shows (· = 0)) :
    ∃ answering w', device.poll devicePort.environment
        (((asRequest request).frame.wire .unchecked).length + 1) stage = (.done 1, answering, w') ∧
      Pipes [] [] [] ((asAnswer (deviceConfig.description deviceId)).frame.wire .unchecked)
        w'.lines ∧
      w'.Shows (· = 0) ∧ w'.journal.isEmpty = (request.connId == 0) := by
  obtain ⟨hhandlers, hresets, -⟩ : device.handlers = handshakeHandlers ∧
      device.resetCallbacks = [Bench.write ()] ∧ device.linkCallbacks = [] := by
    simpa only [tables, Prod.mk.injEq] using htables
  have hwaits : Waits deviceConfig deviceId [] stage.journal device := {
    resets := hresets
    fitted := ⟨congrArg Station.config hother, hother ▸ (Station.room_initial hdevice deviceId).2⟩
    localId := hother ▸ rfl
    stranger := hother ▸ rfl
    limit := hother ▸ rfl
    handlers := hhandlers
    written_eq := rfl
    journal_eq := hjournal }
  obtain ⟨answering, w', written, hpolled, hhand, hshows', hanswered⟩ :=
    poll_message (leads_request hdevice) aloof_waits aloof_answered (.inr hmode)
      (fits_encode hdevice request) (receiving_initial hdevice hother) (within_handshake hhandlers)
      (hother ▸ held_initial _ _) (hother ▸ rfl)
      (devicePort.sound (devicePort_atHand.mpr hpipes)) hwaits hshows (punctual_eq _ 0)
      (Nat.lt_succ_self _)
  have hwritten :
      written = (asAnswer (deviceConfig.description deviceId)).frame.wire .unchecked := by
    rw [hanswered.written_eq, Config.reply, hmode]
    rfl
  exact ⟨answering, w', hpolled, hwritten ▸ devicePort_atHand.mp hhand, hshows',
    hanswered.journal_eq⟩

/-- A host that has asked takes up the answer that lies before it. -/
theorem poll_response {asking : Endpoint Stage} (hhost : hostConfig.fault? = none)
    (hmode : hostConfig.integrity = .unchecked) (hreceiving : asking.Receiving hostConfig)
    (hreception : asking.reception = (Station.initial hostConfig hostId).reception)
    (htables : asking.tables = (handshakeHandlers, [], []))
    (hpipes : Pipes ((asAnswer response).frame.wire .unchecked) [] [] [] stage.lines)
    (hshows : stage.Shows (· = 0)) :
    ∃ ended w', asking.poll hostPort.environment
        (((asAnswer response).frame.wire .unchecked).length + 1) stage = (.done 1, ended, w') ∧
      ended.link.connected = true ∧ w'.journal = stage.journal := by
  obtain ⟨hhandlers, hresets, hlinks⟩ : asking.handlers = handshakeHandlers ∧
      asking.resetCallbacks = [] ∧ asking.linkCallbacks = [] := by
    simpa only [tables, Prod.mk.injEq] using htables
  have hasks : Asks stage.journal [] stage.journal asking := ⟨hhandlers, hresets, hlinks, rfl⟩
  obtain ⟨ended, w', written, hpolled, -, -, hconnected⟩ :=
    poll_message leads_response aloof_asks aloof_connected (.inr hmode)
      (fits_encode hhost response) hreceiving (within_handshake hhandlers)
      (hreception ▸ held_initial _ _) (hreception ▸ rfl)
      (hostPort.sound (hostPort_atHand.mpr hpipes)) hasks hshows (punctual_eq _ 0)
      (Nat.lt_succ_self _)
  exact ⟨ended, w', hpolled, hconnected.connected, hconnected.journal_eq⟩

/-- Two new ends that check nothing shake hands, and both say what they are. -/
theorem report_play (host device : Endpoint Stage) (hhost : hostConfig.fault? = none)
    (hdevice : deviceConfig.fault? = none)
    (hmodes : hostConfig.integrity = .unchecked ∧ deviceConfig.integrity = .unchecked)
    (hunchecked : hostConfig.quietTimeout = none)
    (hnew : host.toStation = .initial hostConfig hostId)
    (htables : host.tables = (handshakeHandlers, [], []))
    (hother : device.toStation = .initial deviceConfig deviceId)
    (htables' : device.tables = (handshakeHandlers, [Bench.write ()], []))
    (hpipes : Pipes [] [] [] [] stage.lines) (hjournal : stage.journal = [])
    (hshows : stage.Shows (· = 0)) :
    let request := hostConfig.description hostId
    let response := deviceConfig.description deviceId
    (play host device stage).report = .ok {
      request, response
      requestWire := (asRequest request).frame.wire .unchecked
      responseWire := (asAnswer response).frame.wire .unchecked
      deviceSawReset := hostId != 0
      hostConnected := true } := by
  intro request response
  -- the host asks
  obtain ⟨asking, w₁, hasked, hconfig, hreception, hidle, htables₁, hjournal₁, hshows₁, hhand₁⟩ :=
    checkConnection_new hhost hunchecked hnew (hostPort_atHand.mpr hpipes) hshows
  rw [List.nil_append, hmodes.1] at hhand₁
  obtain ⟨lines₁, hcarried₁, hpipes₁⟩ := carry_request (hostPort_atHand.mp hhand₁)
  -- the device answers
  obtain ⟨answering, w₂, hpolled₂, hanswer, hshows₂, hreset⟩ := @poll_request request
    (w₁.withLines lines₁) deviceConfig deviceId device hdevice hmodes.2 hother htables' hpipes₁
    (hjournal₁.trans hjournal) (hshows₁.withLines _)
  obtain ⟨lines₂, hcarried₂, hpipes₂⟩ := carry_response hanswer
  -- the host takes up the answer
  have hreceiving : asking.Receiving hostConfig := by
    obtain ⟨-, -, hsound, hwanted⟩ := receiving_initial hhost hnew
    exact ⟨hconfig, hidle, hreception ▸ hsound, hreception ▸ hwanted⟩
  obtain ⟨ended, w₃, hpolled₃, hconnected, hjournal₃⟩ := @poll_response response
    (w₂.withLines lines₂) hostConfig hostId asking hhost hmodes.1 hreceiving
    (hreception.trans (congrArg Station.reception hnew)) (htables₁.trans htables) hpipes₂
    (hshows₂.withLines _)
  have hsaw : (!w₃.journal.isEmpty) = (hostId != 0) :=
    calc
      (!w₃.journal.isEmpty) = !w₂.journal.isEmpty := by rw [hjournal₃]; rfl
      _ = !(hostId == 0) := congrArg Bool.not hreset
  let requestWire := (asRequest request).frame.wire .unchecked
  let responseWire := (asAnswer response).frame.wire .unchecked
  calc
    (play host device stage).report =
        reportOn requestWire responseWire (!w₃.journal.isEmpty) ended.link.connected := by
      rw [play_eq hasked hcarried₁ hpolled₂ hcarried₂ hpolled₃, finish]
    _ = reportOn requestWire responseWire (hostId != 0) true := by rw [hsaw, hconnected]
    _ = _ := reportOn_wires request response (hostId != 0) true

def deviceSettings (options : HandshakeOptions) : Config :=
  { connType := options.deviceType, inSize := options.deviceInSize }

def deviceIdOf (options : HandshakeOptions) (ids : IdSupply) : UInt32 :=
  options.deviceId.getD ids.draw.2.draw.1

/-- A hex text is that of the frame of a message. -/
def Shown (type id : UInt8) (message : ConnectMessage) (text : String) : Prop :=
  ∃ wire, Frame.encode type id message.encode .unchecked = .ok wire ∧
    Text.Hex.decode text = .ok wire

/-- A report tells what happens between ends of given settings. -/
structure Truthful (options : HandshakeOptions) (deviceId : UInt32) (report : HandshakeReport) :
    Prop where
  request : report.request = ⟨options.hostId, 244, options.hostType⟩
  response_connId : report.response.connId = deviceId
  response_limit : report.response.limit.toNat = options.deviceInSize - 12
  response_connType : report.response.connType = options.deviceType
  hostConnected : report.hostConnected = true
  deviceSawReset : report.deviceSawReset = true ↔ options.hostId ≠ 0
  requestHex : Shown 0 1 report.request (Text.Hex.encode report.requestWire " ")
  responseHex : Shown 1 0 report.response (Text.Hex.encode report.responseWire " ")

theorem shown_wire (type id : UInt8) (message : ConnectMessage) :
    Shown type id message (Text.Hex.encode
      ((Message.frame ⟨type, id, message.encode⟩).wire .unchecked) " ") := by
  have hsize : message.encode.length ≤ maxPayload := message.length_encode ▸ by decide
  exact ⟨_, @Frame.encode_of_le ⟨type, id, message.encode⟩ hsize .unchecked,
    Text.Hex.decode_encode Text.Hex.separates_space _⟩

/-- A rehearsal with a device of valid settings succeeds. -/
theorem report_run (options : HandshakeOptions) (ids : IdSupply)
    (hdevice : (deviceSettings options).fault? = none) :
    ∃ report, (run options ids).report = .ok report ∧
      Truthful options (deviceIdOf options ids) report := by
  have hhost : ({ connType := options.hostType } : Config).fault? = none := rfl
  obtain ⟨stage₁, hcreated₁, hstill₁, hids⟩ := (stage ids).create_eq hhost hostPort.channel
  obtain ⟨stage₂, hcreated₂, hstill₂, -⟩ := stage₁.create_eq hdevice devicePort.channel
  have hstill := hstill₁.trans hstill₂
  have hpipes : Pipes [] [] [] [] stage₂.lines := hstill.lines ▸ ⟨rfl, rfl, rfl, rfl⟩
  have hshows : stage₂.Shows (· = 0) := hstill.shows ⟨fun _ ↦ rfl, List.forall_mem_nil _⟩
  have hdrawn : deviceIdOf options ids = options.deviceId.getD stage₁.ids.draw.1 := by
    rw [hids]
    rfl
  let host : Endpoint Stage := (Endpoint.ofConfig { connType := options.hostType }
    (stage ids).ids.draw.1).withLocalId options.hostId
  let device : Endpoint Stage := .ofConfig (deviceSettings options) stage₁.ids.draw.1
  let named : Endpoint Stage := options.deviceId.elim device device.withLocalId
  have hnew : (named.addResetCallback (Bench.write ())).toStation =
      .initial (deviceSettings options) (deviceIdOf options ids) := by
    dsimp only [named]
    rw [hdrawn]
    cases options.deviceId <;> rfl
  have htables : (named.addResetCallback (Bench.write ())).tables =
      (handshakeHandlers, [Bench.write ()], []) := by
    dsimp only [named]
    cases options.deviceId <;> rfl
  have hhostNew : host.toStation = .initial { connType := options.hostType } options.hostId := rfl
  have hplayed := report_play host (named.addResetCallback (Bench.write ())) hhost hdevice
    ⟨rfl, rfl⟩ rfl hhostNew rfl hnew htables hpipes hstill.journal hshows
  have hran : run options ids = play host (named.addResetCallback (Bench.write ())) stage₂ := by
    unfold run
    rw [show hostSide = Bench.environment hostPort.channel from rfl, hcreated₁]
    dsimp only
    rw [show deviceSide = Bench.environment devicePort.channel from rfl]
    unfold deviceSettings at hcreated₂
    rw [hcreated₂]
    rfl
  rw [← hran] at hplayed
  refine ⟨_, hplayed, ?_⟩
  constructor
  case request => rfl
  case response_connId => rfl
  case response_limit => exact Config.toNat_advertisedLimit _ hdevice
  case response_connType => rfl
  case hostConnected => rfl
  case deviceSawReset => exact bne_iff_ne
  case requestHex => exact shown_wire 0 1 _
  case responseHex => exact shown_wire 1 0 _

/-- A rehearsal with a device of other settings is refused. -/
theorem report_run_refused (options : HandshakeOptions) (ids : IdSupply)
    (hdevice : (deviceSettings options).fault? ≠ none) :
    ∃ failure, (run options ids).report = .error failure ∧ failure.code = .badSettings := by
  have hhost : ({ connType := options.hostType } : Config).fault? = none := rfl
  obtain ⟨stage₁, hcreated₁, -, -⟩ := (stage ids).create_eq hhost hostPort.channel
  obtain ⟨fault, hfault⟩ := Option.ne_none_iff_exists'.mp hdevice
  have hrefused : Endpoint.create deviceSide (deviceSettings options) stage₁ =
      (.error (.config fault), stage₁) := by
    unfold Endpoint.create
    rw [hfault]
  refine ⟨.ofEndpoint "device setup failed" (.config fault), ?_, rfl⟩
  unfold run
  rw [show hostSide = Bench.environment hostPort.channel from rfl, hcreated₁]
  dsimp only
  unfold deviceSettings at hrefused
  rw [hrefused]
  rfl

/-- A rehearsal reports what happens if the device has valid settings, and is refused for bad
settings otherwise. -/
theorem runHandshake_truthful (layout : Layout) (options : HandshakeOptions)
    (around : Surroundings) :
    let outcome := runHandshake layout options around
    ((deviceSettings options).fault? = none →
      ∃ report, Truthful options (deviceIdOf options around.ids) report ∧
        (run options around.ids).report = .ok report ∧
        outcome.output = report.report layout ∧ outcome.code = .success) ∧
    ((deviceSettings options).fault? ≠ none →
      ∃ failure, (run options around.ids).report = .error failure ∧
        failure.code = .badSettings ∧ outcome.output = [] ∧ outcome.code = .badSettings) := by
  dsimp only [runHandshake]
  constructor
  · intro hdevice
    obtain ⟨report, hreport, htruthful⟩ := report_run options around.ids hdevice
    rw [hreport]
    exact ⟨report, htruthful, rfl, rfl, rfl⟩
  · intro hdevice
    obtain ⟨failure, hreport, hcode⟩ := report_run_refused options around.ids hdevice
    rw [hreport]
    exact ⟨failure, rfl, hcode, rfl, hcode⟩

/-- A device with 64 octets for what comes in answers; with 8 it is refused. -/
theorem runHandshake_truthful_sizes :
    let around : Surroundings := { folder := {}, input := [], ids := { next := 1 }, time := 0 }
    let options (size : Nat) : HandshakeOptions := ⟨0xC0FFEE, 3, some 0xD00D, 7, size⟩
    (∃ report, Truthful (options 64) 0xD00D report ∧ report.response.limit.toNat = 52 ∧
      report.deviceSawReset = true ∧ (runHandshake .json (options 64) around).code = .success) ∧
    (runHandshake .json (options 8) around).code = .badSettings := by
  intro around options
  obtain ⟨report, htruthful, -, -, hcode⟩ := (runHandshake_truthful .json (options 64) around).1 rfl
  obtain ⟨-, -, -, -, hrefused⟩ :=
    (runHandshake_truthful .json (options 8) around).2 (Option.some_ne_none _)
  exact ⟨⟨report, htruthful, htruthful.response_limit, htruthful.deviceSawReset.mpr (by decide),
    hcode⟩, hrefused⟩

end Tool.Rehearsal

end FramedLink
