import FramedLink.Proofs.Handling.Written
import FramedLink.Proofs.Link.Agreement
import FramedLink.Proofs.Link.Replies
import FramedLink.Proofs.Tool.Ports

/-!
# The books of an endpoint

What an endpoint counts while it only answers handshakes depends on little: the id and the limit of
its peer, whether the link is up, and the frames themselves. `Books` are just that, and each frame
changes them in a way that can be written down without the endpoint (`Books.handshake`).

An endpoint at a port keeps such books (`Endpoint.Replying.runRound`), and what it has written are
its answers, as many as it has counted (`Endpoint.Replying`).
-/

namespace FramedLink

/-- What is remembered of the peer, as far as anything that is counted depends on it, and what is
counted. -/
structure Books where
  remoteId : UInt32 := 0
  limit : Option UInt16 := none
  connected : Bool := false
  counters : Counters := {}
  deriving DecidableEq, Repr

namespace Books

def meet (connId : UInt32) (books : Books) : Books :=
  if books.remoteId = connId then books
  else { books with
    remoteId := connId
    counters := { books.counters with peerResets := books.counters.peerResets + 1 } }

/-- Whether the peer takes a message of the handshake, as far as is known. -/
def Takes (books : Books) : Prop :=
  ∀ limit ∈ books.limit, limit = 0 ∨ ConnectMessage.size ≤ limit.toNat

instance (books : Books) : Decidable books.Takes :=
  inferInstanceAs (Decidable (∀ limit ∈ books.limit, _))

def fail (books : Books) : Books :=
  { books with
    counters := { books.counters with handlerErrors := books.counters.handlerErrors + 1 } }

def send (books : Books) : Books :=
  { books with counters := { books.counters with framesSent := books.counters.framesSent + 1 } }

/-- A connect request: the peer is taken note of, and answered if it takes the answer. -/
def request (message : ConnectMessage) (books : Books) : Books :=
  let met := books.meet message.connId
  if met.Takes then met.send else met.fail

/-- The link comes up, unless it was up before. -/
def raise (books : Books) : Books :=
  if books.connected then books
  else { books with
    connected := true
    counters := { books.counters with connects := books.counters.connects + 1 } }

/-- A connect response: the peer's limit is kept, and the link is up to this peer. -/
def response (message : ConnectMessage) (books : Books) : Books :=
  let answered := { books with
    limit := some message.limit
    connected := books.connected && books.remoteId == message.connId }
  (answered.meet message.connId).raise

/-- What the handlers of the handshake make of a frame. -/
def handshake (frame : Frame) (books : Books) : Books :=
  if frame.header.type = MessageType.connectRequest then
    (ConnectMessage.decode? frame.payload).elim books.fail books.request
  else if frame.header.type = MessageType.connectResponse then
    (ConnectMessage.decode? frame.payload).elim books.fail books.response
  else books

def close (round : Endpoint.Round) (books : Books) : Books :=
  { books with counters := Endpoint.countRound books.counters round }

/-- It makes no difference when the failure of a handler is counted. -/
theorem close_fail (matched failed : Nat) (books : Books) :
    books.close ⟨matched, failed + 1⟩ = books.fail.close ⟨matched, failed⟩ := by
  have hsum : books.counters.handlerErrors + (failed + 1) =
      books.counters.handlerErrors + 1 + failed := by omega
  simp only [close, fail, Endpoint.countRound, hsum]

end Books

/-- How many handlers of the handshake there are for a type. -/
def MessageType.handshakes (type : UInt8) : Nat :=
  if type = MessageType.connectRequest ∨ type = MessageType.connectResponse then 1 else 0

def Config.description (config : Config) (id : UInt32) : ConnectMessage :=
  ⟨id, config.advertisedLimit, config.connType⟩

/-- The answer to a connect request, as an end of given settings writes it. -/
def Config.reply (config : Config) (id : UInt32) : Bytes :=
  (Message.frame ⟨MessageType.connectResponse, 0, (config.description id).encode⟩).wire
    config.integrity

namespace Endpoint

variable {σ ι : Type} {port : Port σ ι} {config : Config} {times : Millis → Prop}
variable {e e' : Endpoint (Bench σ ι)} {w w' : Bench σ ι} {id : UInt32} {traffic : Traffic}
variable {journal : List ι}

def books (e : Endpoint (Bench σ ι)) : Books :=
  ⟨e.link.remoteId, e.link.remoteLimit, e.link.connected, e.counters⟩

theorem tooLarge_iff (h : e.Fitted config) (hvalid : config.fault? = none) :
    TooLarge config e ConnectMessage.size ↔ ¬ e.books.Takes := by
  have hroom := h.describes hvalid
  rw [h.room] at hroom
  have hfits : ¬ config.outSize - frameOverhead < ConnectMessage.size := by omega
  simp only [TooLarge, hfits, or_false, Books.Takes, books, not_forall, not_or, Nat.not_le,
    exists_prop]

/-- How sending a description through a port can end: it is written as one frame, or refused because
the peer does not take it. -/
inductive Describing (port : Port σ ι) (config : Config) (type id : UInt8) (traffic : Traffic)
    (times : Millis → Prop) (e : Endpoint (Bench σ ι)) (w : Bench σ ι) :
    Except EndpointError Unit × Endpoint (Bench σ ι) × Bench σ ι → Prop where
  | sent (htakes : e.books.Takes) (outgoing : Outgoing) (w' : Bench σ ι)
      (hroom : outgoing.region.size = e.outgoing.region.size)
      (hhand :
        let description : ConnectMessage :=
          ⟨e.link.localId, config.advertisedLimit, config.connType⟩
        let frame := (Message.frame ⟨type, id, description.encode⟩).wire config.integrity
        port.AtHand { traffic with written := traffic.written ++ frame } w'.lines)
      (hjournal : w'.journal = w.journal) (hshows : w.Shows times → w'.Shows times) :
      Describing port config type id traffic times e w
        (.ok (), { e with
          outgoing
          counters := { e.counters with framesSent := e.counters.framesSent + 1 } }, w')
  | refused (htakes : ¬ e.books.Takes) (error : EndpointError) (outgoing : Outgoing)
      (hroom : outgoing.region.size = e.outgoing.region.size) :
      Describing port config type id traffic times e w (.error error, { e with outgoing }, w)

/-- Sending a description through a port comes to this. -/
theorem Fitted.describes_port (h : e.Fitted config) (hvalid : config.fault? = none)
    (hhand : port.AtHand traffic w.lines) (type id : UInt8) (times : Millis → Prop) :
    Describing port config type id traffic times e w
      (e.sendDescription port.environment type id w) := by
  obtain ⟨filled, hsize, hpayload, hsent⟩ :=
    @sendDescription_eq _ port.environment e w type id (h.describes hvalid)
  have hfilled : Fitted config { e with outgoing := filled } := h.of_sizes rfl hsize
  have hlarge : TooLarge config { e with outgoing := filled } ConnectMessage.size ↔
      ¬ e.books.Takes := tooLarge_iff hfilled hvalid
  have hsending := hfilled.sending port.environment hvalid type id ConnectMessage.size w
  rw [hsent]
  generalize ({ e with outgoing := filled } : Endpoint (Bench σ ι)).send port.environment type id
    ConnectMessage.size w = result at hsending ⊢
  obtain ⟨outcome, e', w'⟩ := result
  obtain ⟨region, hregion, hleft⟩ := hsending.left
  have hroom : (Outgoing.mk region headerSize).region.size = e.outgoing.region.size :=
    hregion.trans hsize
  by_cases htakes : e.books.Takes
  · obtain ⟨octets, -, hencoded, hanswer, hworld⟩ :=
      hsending.written fun h ↦ hlarge.mp h htakes
    obtain ⟨lines, hwritten, hwrite⟩ := port.write octets hhand
    have hwrite : port.environment.channel.write octets w =
        (.ok octets.length, w.withLines lines) := hwrite
    have hok : outcome = .ok () := hanswer.mpr ⟨_, congrArg Prod.fst hwrite, Nat.le_refl _⟩
    subst hok
    rw [hwrite] at hworld
    rw [hpayload] at hencoded
    obtain ⟨rfl, -⟩ := Frame.wire_of_encode hencoded
    have hstill := (w.withLines lines).still_note (.sent type id (filled.payloadOf 8))
    obtain rfl : e' = { e with
        outgoing := ⟨region, headerSize⟩
        counters := { e.counters with framesSent := e.counters.framesSent + 1 } } := hleft
    obtain rfl : w' = (w.withLines lines).note (.sent type id (filled.payloadOf 8)) := hworld
    refine .sent htakes _ _ hroom ?_ hstill.journal fun hshows ↦
      hstill.shows (hshows.withLines lines)
    rw [hstill.lines, ← h.config_eq]
    rw [← h.config_eq] at hwritten
    exact hwritten
  · obtain ⟨wanted, max, hrefused⟩ := hsending.refused.mpr (hlarge.mpr htakes)
    have hsame := hsending.untouched (hlarge.mpr htakes)
    dsimp only at hrefused hsame
    subst hrefused hsame
    obtain rfl : e' = { e with outgoing := ⟨region, headerSize⟩ } := hleft
    exact .refused htakes _ _ hroom

/-- A change of a bench that notes an event. -/
def Notes (step : Bench σ ι → Bench σ ι) : Prop :=
  ∃ event, step = Bench.note event

/-- Besides the handlers of the handshake, an application may register what it likes. -/
theorem within_free (h : ∀ registration ∈ e.handlers, registration ∈ handshakeHandlers ∨
    ∃ type body, registration = ⟨type, .custom body⟩) : e.Within .free := by
  refine ⟨?_, fun _ _ ↦ trivial, fun _ _ ↦ .inr fun _ ↦ trivial⟩
  intro registration hmem
  rcases h registration hmem with hmem | ⟨type, body, rfl⟩
  · exact (within_ofConfig .free {} 0).handlers registration hmem
  · exact fun header ↦ (body header).within_free

theorem still_fireReset (h : ∀ callback ∈ e.resetCallbacks, Notes callback) (w : Bench σ ι) :
    w.Still (e.fireReset w) := by
  unfold Endpoint.fireReset
  apply List.foldlRecOn _ _ (.refl w)
  intro w₁ hstill callback hmem
  obtain ⟨event, rfl⟩ := h callback (List.mem_reverse.mp hmem)
  exact hstill.trans (w₁.still_note event)

theorem still_fireLink (h : ∀ callback ∈ e.linkCallbacks, ∀ event, Notes (callback event))
    (event : LinkEvent) (w : Bench σ ι) : w.Still (e.fireLink event w) := by
  unfold Endpoint.fireLink
  apply List.foldlRecOn _ _ (.refl w)
  intro w₁ hstill callback hmem
  obtain ⟨noted, hnotes⟩ := h callback (List.mem_reverse.mp hmem) event
  rw [hnotes]
  exact hstill.trans (w₁.still_note noted)

/-- An endpoint at a port that only answers, in the middle of a round: what was written there since
the beginning are its answers, as many as it has counted. -/
structure Replying (port : Port σ ι) (config : Config) (id : UInt32) (start : Traffic)
    (times : Millis → Prop) (journal : List ι) (e : Endpoint (Bench σ ι)) (w : Bench σ ι) :
    Prop where
  fitted : e.Fitted config
  handlers : e.handlers = []
  localId : e.link.localId = id
  resets : ∀ callback ∈ e.resetCallbacks, Notes callback
  links : ∀ callback ∈ e.linkCallbacks, ∀ event, Notes (callback event)
  traffic : port.AtHand { start with
    written := start.written ++
      (List.replicate e.counters.framesSent (config.reply id)).flatten } w.lines
  journal_eq : w.journal = journal
  shows : w.Shows times

namespace Replying

variable {start : Traffic} {connId : UInt32} {connType : UInt16} {message : ConnectMessage}

theorem still (h : Replying port config id start times journal e w) (hstill : w.Still w') :
    Replying port config id start times journal e w' :=
  { h with
    traffic := hstill.lines ▸ h.traffic
    journal_eq := hstill.journal.trans h.journal_eq
    shows := hstill.shows h.shows }

/-- Changes of the link make no difference, but for the id of this end. -/
theorem relinked (h : Replying port config id start times journal e w) (hrelinks : e.Relinks e')
    (hid : e'.link.localId = e.link.localId) :
    Replying port config id start times journal e' w := by
  obtain ⟨link, _, _, _, rfl⟩ := hrelinks
  exact ⟨⟨h.fitted.config_eq, h.fitted.room⟩, h.handlers, hid.trans h.localId, h.resets, h.links,
    h.traffic, h.journal_eq, h.shows⟩

theorem recording (h : Replying port config id start times journal e w)
    {result : Endpoint (Bench σ ι) × Bench σ ι}
    (hrecording : Recording port.environment connId connType e w result) :
    Replying port config id start times journal result.1 result.2 ∧
      result.1.books = e.books.meet connId := by
  have hsame : result.1.link.localId = e.link.localId := by
    obtain ⟨counters, hrecorded⟩ := hrecording.link
    rw [hrecorded]
  have hkept := h.relinked hrecording.relinks hsame
  cases hrecording with
  | known hknown => exact ⟨hkept, (if_pos hknown).symm⟩
  | renamed hnew =>
    have hnoted := w.still_note (.peerReset e.link.remoteId connId connType)
    exact ⟨(hkept.still hnoted).still (still_fireReset h.resets _), (if_neg hnew).symm⟩

theorem describe (h : Replying port config id start times journal e w)
    (hvalid : config.fault? = none) :
    let described := e.sendDescription port.environment MessageType.connectResponse 0 w
    Replying port config id start times journal described.2.1 described.2.2 ∧
      (described.1 = .ok () ∧ e.books.Takes ∧ described.2.1.books = e.books.send ∨
        (∃ error, described.1 = .error error) ∧ ¬ e.books.Takes ∧
          described.2.1.books = e.books) := by
  have hdescribing := h.fitted.describes_port hvalid h.traffic MessageType.connectResponse 0 times
  dsimp only
  generalize e.sendDescription port.environment MessageType.connectResponse 0 w = result
    at hdescribing ⊢
  cases hdescribing with
  | sent htakes outgoing w' hroom hhand hjournal hshows =>
    refine ⟨?_, .inl ⟨rfl, htakes, rfl⟩⟩
    refine ⟨⟨h.fitted.config_eq, hroom.trans h.fitted.room⟩, h.handlers, h.localId, h.resets,
      h.links, ?_, hjournal.trans h.journal_eq, hshows h.shows⟩
    have hanswer : (Message.frame ⟨MessageType.connectResponse, 0, ConnectMessage.encode
        ⟨e.link.localId, config.advertisedLimit, config.connType⟩⟩).wire config.integrity =
          config.reply id := by
      rw [h.localId]
      rfl
    dsimp only at hhand ⊢
    rw [hanswer, List.append_assoc] at hhand
    rw [List.replicate_succ', List.flatten_append, List.flatten_singleton]
    exact hhand
  | refused htakes error outgoing hroom =>
    exact ⟨{ h with fitted := ⟨h.fitted.config_eq, hroom.trans h.fitted.room⟩ },
      .inr ⟨⟨error, rfl⟩, htakes, rfl⟩⟩

/-- The link goes down if it was up to another peer. -/
theorem replacement (h : Replying port config id start times journal e w)
    {result : Endpoint (Bench σ ι) × Bench σ ι} (hreplacement : Replacement connId e w result) :
    Replying port config id start times journal result.1 result.2 ∧
      result.1.books =
        { e.books with connected := e.books.connected && e.books.remoteId == connId } := by
  cases hreplacement with
  | same hsame =>
    refine ⟨h, ?_⟩
    have hstill : (e.link.connected && e.link.remoteId == connId) = e.link.connected := by
      cases hup : e.link.connected with
      | false => rfl
      | true => rw [Bool.true_and, beq_iff_eq.mpr (hsame hup)]
    simp only [books, hstill]
  | replaced hup hnew =>
    have hrelinks : e.Relinks { e with link := { e.link with connected := false } } :=
      ⟨_, _, _, _, rfl⟩
    refine ⟨(h.relinked hrelinks rfl).still (still_fireLink h.links _ w), ?_⟩
    simp only [books, beq_eq_false_iff_ne.mpr hnew, Bool.and_false]

theorem raising (h : Replying port config id start times journal e w)
    {result : Endpoint (Bench σ ι) × Bench σ ι}
    (hraising : Raising port.environment message e w result) :
    Replying port config id start times journal result.1 result.2 ∧
      result.1.books = e.books.raise := by
  cases hraising with
  | idle hup => exact ⟨h, (if_pos hup).symm⟩
  | up hdown =>
    have hrelinks : e.Relinks { e with
        link := { e.link with connected := true }
        counters := { e.counters with connects := e.counters.connects + 1 } } :=
      ⟨_, _, _, _, rfl⟩
    have hnoted := (h.relinked hrelinks rfl).still (w.still_note (.connected message))
    refine ⟨hnoted.still (still_fireLink h.links _ _), ?_⟩
    have hraised : e.books.raise = { e.books with
        connected := true
        counters := { e.counters with connects := e.counters.connects + 1 } } :=
      if_neg (Bool.eq_false_iff.mp hdown)
    exact hraised.symm

theorem acceptResponse (h : Replying port config id start times journal e w)
    (message : ConnectMessage) :
    let accepted := e.acceptResponse port.environment message w
    Replying port config id start times journal accepted.1 accepted.2 ∧
      accepted.1.books = e.books.response message := by
  obtain ⟨dropped, recorded, hdropped, hrecorded, hraised⟩ :=
    @acceptResponse_steps _ port.environment e w message
  let answered := e.answeredAt w.now.1 message.limit
  have hrelinks : e.Relinks answered := ⟨_, _, _, _, rfl⟩
  have hanswered : Replying port config id start times journal answered w.now.2 :=
    (h.relinked hrelinks rfl).still w.still_now
  obtain ⟨hkept, hbooks⟩ := hanswered.replacement hdropped
  obtain ⟨hmet, hmeet⟩ := hkept.recording hrecorded
  obtain ⟨hup, hraise⟩ := hmet.raising hraised
  exact ⟨hup, by rw [hraise, hmeet, hbooks]; rfl⟩

/-- A handler of the handshake begins at the start of the payload, and reads its message there. -/
theorem readMessage (h : Replying port config id start times journal e w) {payload : Bytes}
    (hshows : e.reception.region.Shows payload 0) :
    ∃ cursor, Replying port config id start times journal (e.withCursor cursor) w ∧
      ((∃ message, ConnectMessage.decode? payload = some message ∧
          e.readMessage = (.ok message, e.withCursor cursor)) ∨
        ConnectMessage.decode? payload = none ∧
          ∃ error, e.readMessage = (.error error, e.withCursor cursor)) := by
  obtain ⟨cursor, hread⟩ := e.readMessage_eq
  refine ⟨cursor, { h with fitted := ⟨h.fitted.config_eq, h.fitted.room⟩ }, ?_⟩
  rcases Nat.lt_or_ge payload.length ConnectMessage.size with hshort | hlong
  · obtain ⟨error, herror⟩ := hshows.exists_error hshort
    rw [herror] at hread
    have hnone : ConnectMessage.decode? payload = none := by
      rw [ConnectMessage.decode?_eq, if_neg (Nat.not_le_of_lt hshort)]
    exact .inr ⟨hnone, _, hread⟩
  · obtain ⟨message, hsome, hmessage⟩ := hshows.exists_message hlong
    rw [hmessage] at hread
    exact .inl ⟨message, hsome, hread⟩

/-- What the handlers of the handshake leave in the books, the failure of a handler included. -/
def booked (result : Except EndpointError Unit × Endpoint (Bench σ ι) × Bench σ ι) : Books :=
  match result.1 with
  | .ok () => result.2.1.books
  | .error _ => result.2.1.books.fail

theorem booked_ok {result : Except EndpointError Unit × Endpoint (Bench σ ι) × Bench σ ι}
    (h : result.1 = .ok ()) : booked result = result.2.1.books := by
  rw [booked, h]

theorem booked_error {result : Except EndpointError Unit × Endpoint (Bench σ ι) × Bench σ ι}
    {error : EndpointError} (h : result.1 = .error error) :
    booked result = result.2.1.books.fail := by
  rw [booked, h]

theorem runHandler (h : Replying port config id start times journal e w)
    (hvalid : config.fault? = none) {registration : Registration (Bench σ ι)}
    (hmem : registration ∈ handshakeHandlers) {header : Header} {payload : Bytes}
    (htype : registration.type = header.type) (hshows : e.reception.region.Shows payload 0) :
    let ran := e.runHandler port.environment header registration.handler w
    Replying port config id start times journal ran.2.1 ran.2.2 ∧
      booked ran = e.books.handshake ⟨header, payload⟩ := by
  obtain ⟨cursor, hmoved, hread⟩ := h.readMessage hshows
  simp only [handshakeHandlers, List.mem_cons, List.not_mem_nil, or_false] at hmem
  rcases hmem with rfl | rfl
  case inl =>
    have hentered : e.books.handshake ⟨header, payload⟩ =
        (ConnectMessage.decode? payload).elim e.books.fail e.books.request := if_pos htype.symm
    rw [hentered]
    rcases hread with ⟨message, hmessage, hread⟩ | ⟨hmessage, error, hread⟩
    · have hnoted := hmoved.still (w.still_note (.requestReceived header.id message))
      obtain ⟨hmet, hmeet⟩ :=
        hnoted.recording (recording_recordPeer message.connId message.connType)
      have hbooks : (e.withCursor cursor).books = e.books := rfl
      rw [hbooks] at hmeet
      obtain ⟨hdescribed, houtcome⟩ := hmet.describe hvalid
      rw [hmeet] at houtcome
      simp only [Endpoint.runHandler, hread]
      refine ⟨hdescribed, ?_⟩
      rw [hmessage, Option.elim_some, Books.request]
      rcases houtcome with ⟨hsent, htakes, hsend⟩ | ⟨⟨error, hfailed⟩, htakes, hkept⟩
      · rw [if_pos htakes, ← hsend]
        exact booked_ok hsent
      · rw [if_neg htakes, ← hkept]
        exact booked_error hfailed
    · simp only [Endpoint.runHandler, hread]
      rw [hmessage]
      exact ⟨hmoved, rfl⟩
  case inr =>
    have hapart : MessageType.connectResponse ≠ MessageType.connectRequest := by decide
    have hother : ¬ header.type = MessageType.connectRequest := fun h ↦ hapart (htype.trans h)
    have hentered : e.books.handshake ⟨header, payload⟩ =
        (ConnectMessage.decode? payload).elim e.books.fail e.books.response :=
      (if_neg hother).trans (if_pos htype.symm)
    rw [hentered]
    rcases hread with ⟨message, hmessage, hread⟩ | ⟨hmessage, error, hread⟩
    · have hnoted := hmoved.still (w.still_note (.responseReceived header.id message))
      obtain ⟨haccepted, hbooks⟩ := hnoted.acceptResponse message
      simp only [Endpoint.runHandler, hread]
      rw [hmessage]
      exact ⟨haccepted, hbooks⟩
    · simp only [Endpoint.runHandler, hread]
      rw [hmessage]
      exact ⟨hmoved, rfl⟩

theorem runRound (h : Replying port config id start times journal e w)
    (hvalid : config.fault? = none) (header : Header) {payload : Bytes}
    (hshows : (e.withCursor headerSize).reception.region.Shows payload 0) (round : Round) :
    let ran := Endpoint.runRound port.environment header handshakeHandlers.reverse round e w
    let matched := round.matched + MessageType.handshakes header.type
    Replying port config id start times journal ran.2.1 ran.2.2 ∧ ran.1.matched = matched ∧
      ran.2.1.books.close ran.1 =
        (e.books.handshake ⟨header, payload⟩).close ⟨matched, round.failed⟩ := by
  by_cases htype : header.type = MessageType.connectRequest ∨
      header.type = MessageType.connectResponse
  case pos =>
    obtain ⟨registration, hmem, htype⟩ : ∃ registration : Registration (Bench σ ι),
        registration ∈ handshakeHandlers ∧ registration.type = header.type := by
      rcases htype with htype | htype
      · exact ⟨_, .head _, htype.symm⟩
      · exact ⟨_, .tail _ (.head _), htype.symm⟩
    have hmatched : MessageType.handshakes header.type = 1 := if_pos ‹_›
    have hstart : Replying port config id start times journal (e.withCursor headerSize) w :=
      { h with fitted := ⟨h.fitted.config_eq, h.fitted.room⟩ }
    obtain ⟨hran, hbooks⟩ := hstart.runHandler hvalid hmem htype hshows
    have hsame : (e.withCursor headerSize).books = e.books := rfl
    rw [hsame] at hbooks
    dsimp only
    rw [runRound_handshake round e w hmem htype, hmatched, ← hbooks]
    generalize (e.withCursor headerSize).runHandler port.environment header registration.handler w
      = result at hran ⊢
    obtain ⟨outcome, e', w'⟩ := result
    cases outcome with
    | ok => exact ⟨hran, rfl, rfl⟩
    | error error =>
      exact ⟨hran.still (w'.still_note _), rfl, Books.close_fail _ _ _⟩
  case neg =>
    obtain ⟨hrequest, hresponse⟩ := not_or.mp htype
    have hmatched : MessageType.handshakes header.type = 0 := if_neg htype
    have hnone : Endpoint.runRound port.environment header handshakeHandlers.reverse round e w =
        (round, e, w) := by
      have hreverse : (handshakeHandlers : List (Registration (Bench σ ι))).reverse =
          [⟨MessageType.connectResponse, .acceptResponse⟩,
            ⟨MessageType.connectRequest, .answerRequest⟩] := rfl
      rw [hreverse, Endpoint.runRound, if_neg (Ne.symm hresponse), Endpoint.runRound,
        if_neg (Ne.symm hrequest), Endpoint.runRound]
    have hbooks : e.books.handshake ⟨header, payload⟩ = e.books :=
      (if_neg hrequest).trans (if_neg hresponse)
    dsimp only
    rw [hnone, hmatched, hbooks]
    exact ⟨h, rfl, rfl⟩

end Replying

end Endpoint

end FramedLink
