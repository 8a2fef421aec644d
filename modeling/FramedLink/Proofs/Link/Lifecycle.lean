import FramedLink.Proofs.Link.Reports

/-!
# The life of a link

Whether the link is up, when the peer last answered, what it can receive, two counters and the
reports to those who follow the link are changed in different places, and still they always agree.
From the record of all that was noted and reported an account of the link can be drawn up
(`Balanced`), and every operation keeps it in step with the state of the endpoint (`Lifecycle`).

Only a connect response brings the link up. While a packet is in hand it is known which one it is,
and how far its payload reaches, unless the application opens a wider one (`InHand`).
-/

namespace FramedLink

variable {ω : Type}

section Context

variable {α : Type}

/-- How many entries of a list have a property that depends on what stands before them. -/
def countAfter (p : List α → α → Bool) (before : List α) : List α → Nat
  | [] => 0
  | entry :: rest => (if p before entry then 1 else 0) + countAfter p (before ++ [entry]) rest

theorem countAfter_append (p : List α → α → Bool) (before entries : List α) (entry : α) :
    countAfter p before (entries ++ [entry]) =
      countAfter p before entries + if p (before ++ entries) entry then 1 else 0 := by
  induction entries generalizing before with
  | nil => simp [countAfter]
  | cons first rest ih =>
    calc
      countAfter p before (first :: rest ++ [entry]) = (if p before first then 1 else 0) +
          countAfter p (before ++ [first]) (rest ++ [entry]) := rfl
      _ = (if p before first then 1 else 0) + (countAfter p (before ++ [first]) rest +
          if p (before ++ [first] ++ rest) entry then 1 else 0) := by rw [ih]
      _ = countAfter p before (first :: rest) +
          if p (before ++ first :: rest) entry then 1 else 0 := by
        rw [← Nat.add_assoc, List.append_assoc]
        rfl

end Context

def LinkEvent.isUp : LinkEvent → Bool
  | .connected .. => true
  | .disconnected _ => false

/-- Reports of a link that came up and of one that went down take turns, beginning with the
former. -/
def Alternating (events : List LinkEvent) : Prop :=
  ∀ i event, events[i]? = some event → (event.isUp = true ↔ i % 2 = 0)

namespace Alternating

variable {events : List LinkEvent} {event : LinkEvent}

theorem nil : Alternating [] := by
  intro i event h
  simp at h

theorem concat (h : Alternating events) (hevent : event.isUp = true ↔ events.length % 2 = 0) :
    Alternating (events ++ [event]) := by
  intro i other hother
  rcases Nat.lt_or_ge i events.length with hi | hi
  · rw [List.getElem?_append_left hi] at hother
    exact h i other hother
  · rw [List.getElem?_append_right hi, List.getElem?_singleton] at hother
    split at hother
    case isTrue hlast =>
      obtain rfl := Option.some_inj.mp hother
      have hlength : i = events.length := by omega
      rw [hlength]
      exact hevent
    case isFalse => cases hother

/-- The last report is of a link that came up if their number is odd. -/
theorem last_iff (h : Alternating events) :
    (events.getLast?.bind LinkEvent.up?).isSome = true ↔ events.length % 2 = 1 := by
  rcases List.eq_nil_or_concat events with rfl | ⟨earlier, last, rfl⟩
  · simp
  · rw [List.concat_eq_append] at h ⊢
    have hlast := h earlier.length last (by simp)
    rw [List.getLast?_concat, List.length_append, List.length_singleton]
    have hup : (last.up?).isSome = last.isUp := by cases last <;> rfl
    rw [Option.bind_some, hup, hlast]
    omega

end Alternating

def Observation.knownAfter (known : UInt32) : Observation → UInt32
  | .noted (.peerReset _ connId _) => connId
  | .noted (.disconnected ..) => 0
  | _ => known

/-- The id under which the peer is known, zero if none is. -/
def knownPeer (record : List Observation) : UInt32 :=
  record.foldl Observation.knownAfter 0

def Observation.replaces (before : List Observation) : Observation → Bool
  | .noted (.responseReceived _ message) =>
    (reportedUp before).isSome && message.connId != knownPeer before
  | _ => false

/-- How many connect responses came from another peer than the one that the link was up with. -/
def replacements (record : List Observation) : Nat :=
  countAfter Observation.replaces [] record

def Observation.dispatched? : Observation → Option Frame
  | .noted event => event.dispatched?
  | .reported _ => none

/-- The packet that was dispatched last. -/
def lastPacket (record : List Observation) : Option Frame :=
  (record.filterMap Observation.dispatched?).getLast?

/-- A report that the link came up follows the dispatch of a connect response, whose payload holds
what the response says if the application is content with the payloads it is given. -/
def ComesUp (content : Prop) (before : List Observation) (seen : Observation) : Prop :=
  ∀ connId connType, seen = .reported (.connected connId connType) →
    ∃ packet, lastPacket before = some packet ∧
      packet.header.type = MessageType.connectResponse ∧
      (content → ConnectMessage.size ≤ packet.payload.length)

@[simp]
theorem reports_noted (record : List Observation) (event : Event) :
    reports (record ++ [.noted event]) = reports record := by
  rw [reports_append]
  exact List.append_nil _

@[simp]
theorem reports_reported (record : List Observation) (event : LinkEvent) :
    reports (record ++ [.reported event]) = reports record ++ [event] :=
  reports_append ..

@[simp]
theorem knownPeer_append (record : List Observation) (seen : Observation) :
    knownPeer (record ++ [seen]) = seen.knownAfter (knownPeer record) :=
  List.foldl_append

theorem replacements_append (record : List Observation) (seen : Observation) :
    replacements (record ++ [seen]) =
      replacements record + if seen.replaces record then 1 else 0 :=
  countAfter_append ..

theorem lastPacket_append (record : List Observation) (seen : Observation) :
    lastPacket (record ++ [seen]) = seen.dispatched?.or (lastPacket record) := by
  unfold lastPacket
  rw [List.filterMap_append]
  cases hseen : seen.dispatched? with
  | none => simp [List.filterMap, hseen]
  | some packet => simp [List.filterMap, hseen]

/-- Events that tell nothing about the link, the peer or a packet. -/
def Event.IsAside (event : Event) : Prop :=
  event.dispatched? = none ∧ (∀ known, (Observation.noted event).knownAfter known = known) ∧
    ∀ before, (Observation.noted event).replaces before = false

/-- The last report tells whether the link is up. -/
theorem reportedUp_isSome_iff {record : List Observation} :
    (reportedUp record).isSome = true ↔
      ∃ connId connType, (reports record).getLast? = some (.connected connId connType) := by
  unfold reportedUp
  cases (reports record).getLast? with
  | none => simp
  | some event => cases event <;> simp [LinkEvent.up?]

/-! ## The account of a link -/

/-- What can be said of a link. A report is owed while it is decided that the link goes down and not
yet reported. -/
structure Account where
  packet : Option Frame
  connected : Bool
  remoteId : UInt32
  connects : Nat
  disconnects : Nat
  owed : Nat := 0

/-- A record bears an account out. -/
structure Balanced (content : Prop) (record : List Observation) (account : Account) : Prop where
  packet : lastPacket record = account.packet
  connected : (reportedUp record).isSome = account.connected
  remoteId : knownPeer record = account.remoteId
  alternating : Alternating (reports record)
  connects : (reports record).countP LinkEvent.isUp = account.connects
  disconnects : (reports record).countP (!·.isUp) + account.owed =
    account.disconnects + replacements record
  up : InContext (ComesUp content) record

namespace Balanced

variable {content : Prop} {record : List Observation} {account : Account}

theorem start : Balanced content [] ⟨none, false, 0, 0, 0, 0⟩ :=
  ⟨rfl, rfl, rfl, .nil, rfl, rfl, inContext_nil _⟩

/-- The parity of the reports tells whether the link is up. -/
theorem connected_iff (h : Balanced content record account) :
    account.connected = true ↔ (reports record).length % 2 = 1 := by
  rw [← h.connected]
  exact h.alternating.last_iff

theorem note (h : Balanced content record account) (event : Event) :
    Balanced content (record ++ [.noted event])
      { account with
        packet := event.dispatched?.or account.packet
        remoteId := (Observation.noted event).knownAfter account.remoteId
        owed := account.owed + if (Observation.noted event).replaces record then 1 else 0 } where
  packet := by
    rw [lastPacket_append, h.packet]
    rfl
  connected := by
    rw [reportedUp_noted]
    exact h.connected
  remoteId := by
    rw [knownPeer_append, h.remoteId]
  alternating := by
    rw [reports_noted]
    exact h.alternating
  connects := by
    rw [reports_noted]
    exact h.connects
  disconnects := by
    have hbefore := h.disconnects
    rw [reports_noted, replacements_append]
    dsimp only
    omega
  up := h.up.append fun _ _ hreported ↦ nomatch hreported

/-- A note that tells nothing about the link, the peer or a packet changes nothing. -/
theorem note_aside (h : Balanced content record account) {event : Event} (hevent : event.IsAside) :
    Balanced content (record ++ [.noted event]) account := by
  obtain ⟨hpacket, hknown, hreplaces⟩ := hevent
  have hnoted := h.note event
  rw [hpacket, hknown, hreplaces] at hnoted
  exact hnoted

theorem count (h : Balanced content record account) :
    Balanced content record
      { account with
        disconnects := account.disconnects + 1
        owed := account.owed + 1 } where
  packet := h.packet
  connected := h.connected
  remoteId := h.remoteId
  alternating := h.alternating
  connects := h.connects
  disconnects := by
    have hbefore := h.disconnects
    dsimp only
    omega
  up := h.up

/-- A report is no longer owed once it is made. -/
theorem down (h : Balanced content record account) (hup : account.connected = true) {owed : Nat}
    (howed : account.owed = owed + 1) (connId : UInt32) :
    Balanced content (record ++ [.reported (.disconnected connId)])
      { account with
        connected := false
        owed } where
  packet := by
    rw [lastPacket_append, h.packet]
    rfl
  connected := by
    rw [reportedUp_reported]
    rfl
  remoteId := by
    rw [knownPeer_append, h.remoteId]
    rfl
  alternating := by
    have hodd := h.connected_iff.mp hup
    rw [reports_reported]
    apply h.alternating.concat
    rw [hodd]
    exact iff_of_false Bool.false_ne_true Nat.one_ne_zero
  connects := by
    rw [reports_reported, List.countP_append, h.connects]
    rfl
  disconnects := by
    have hbefore := h.disconnects
    have hone : [LinkEvent.disconnected connId].countP (!·.isUp) = 1 := rfl
    have hsame : replacements (record ++ [.reported (.disconnected connId)]) =
        replacements record := replacements_append ..
    rw [reports_reported, List.countP_append, hone, hsame]
    dsimp only
    omega
  up := h.up.append fun _ _ hreported ↦ nomatch hreported

theorem raise (h : Balanced content record account) (hdown : account.connected = false)
    {connId : UInt32} {connType : UInt16}
    (hcomes : ComesUp content record (.reported (.connected connId connType))) :
    Balanced content (record ++ [.reported (.connected connId connType)])
      { account with
        connected := true
        connects := account.connects + 1 } where
  packet := by
    rw [lastPacket_append, h.packet]
    rfl
  connected := by
    rw [reportedUp_reported]
    rfl
  remoteId := by
    rw [knownPeer_append, h.remoteId]
    rfl
  alternating := by
    have heven : ¬ (reports record).length % 2 = 1 := fun hodd ↦ by
      rw [h.connected_iff.mpr hodd] at hdown
      cases hdown
    have hzero : (reports record).length % 2 = 0 := by omega
    rw [reports_reported]
    exact h.alternating.concat ⟨fun _ ↦ hzero, fun _ ↦ rfl⟩
  connects := by
    rw [reports_reported, List.countP_append, h.connects]
    rfl
  disconnects := by
    have hsame : replacements (record ++ [.reported (.connected connId connType)]) =
        replacements record := replacements_append ..
    rw [reports_reported, List.countP_append, hsame]
    exact h.disconnects
  up := h.up.append hcomes

end Balanced

namespace Endpoint

variable {env : Environment ω} {content : Prop} {packet : Option Frame}
variable {e e' : Endpoint (Observed ω)} {w w' : Observed ω} {event : Event}

/-- The account of an endpoint that owes no report. -/
def account (e : Endpoint ω) (packet : Option Frame) : Account :=
  { packet
    connected := e.link.connected
    remoteId := e.link.remoteId
    connects := e.counters.connects
    disconnects := e.counters.disconnects }

/-- The link of an endpoint is as the record says, and the limit and the last answer of the peer are
known just while it is up. -/
structure Lifecycle (content : Prop) (packet : Option Frame) (e : Endpoint (Observed ω))
    (w : Observed ω) : Prop where
  balanced : Balanced content w.record (e.account packet)
  limit : e.link.remoteLimit.isSome = e.link.connected
  response : e.link.lastResponse.isSome = e.link.connected

theorem Lifecycle.of_eq (h : Lifecycle content packet e w) (hrecord : w'.record = w.record)
    (haccount : e'.account packet = e.account packet)
    (hlimit : e'.link.remoteLimit = e.link.remoteLimit)
    (hresponse : e'.link.lastResponse = e.link.lastResponse) : Lifecycle content packet e' w' := by
  have hconnected : e'.link.connected = e.link.connected := congrArg Account.connected haccount
  constructor
  · rw [hrecord, haccount]
    exact h.balanced
  · rw [hlimit, hconnected]
    exact h.limit
  · rw [hresponse, hconnected]
    exact h.response

theorem Lifecycle.note (h : Lifecycle content packet e w) (hevent : event.IsAside) :
    Lifecycle content packet e ((Observed.environment env).note event w) :=
  ⟨h.balanced.note_aside hevent, h.limit, h.response⟩

theorem Lifecycle.send (h : Lifecycle content packet e w) (type id : UInt8) (size : Nat) :
    Lifecycle content packet (e.send (Observed.environment env) type id size w).2.1
      (e.send (Observed.environment env) type id size w).2.2 := by
  have hattempt : Attempt (Observed.environment env) type id size e w
      (e.send (Observed.environment env) type id size w) := attempt_send type id size
  generalize e.send (Observed.environment env) type id size w = result at hattempt ⊢
  cases hattempt with
  | refused error => exact h.of_eq rfl rfl rfl rfl
  | cut frame sealed error _ _ => exact h.of_eq rfl rfl rfl rfl
  | sent frame sealed _ _ =>
    let after : Endpoint (Observed ω) :=
      { e with
        outgoing := sealed.reset
        counters := { e.counters with framesSent := e.counters.framesSent + 1 } }
    have hwritten : Lifecycle content packet after
        ((Observed.environment env).channel.write frame w).2 := h.of_eq rfl rfl rfl rfl
    exact hwritten.note ⟨rfl, fun _ ↦ rfl, fun _ ↦ rfl⟩

theorem Lifecycle.sendDescription (h : Lifecycle content packet e w) (type id : UInt8) :
    Lifecycle content packet (e.sendDescription (Observed.environment env) type id w).2.1
      (e.sendDescription (Observed.environment env) type id w).2.2 := by
  have hwritten (outgoing : Outgoing) : Lifecycle content packet { e with outgoing } w :=
    h.of_eq rfl rfl rfl rfl
  unfold Endpoint.sendDescription
  split
  · exact (hwritten _).send type id _
  · exact hwritten _

/-- Taking the link down is counted and reported. -/
theorem Lifecycle.disconnect (h : Lifecycle content packet e w) (hfollowed : Followed e w) :
    Lifecycle content packet (e.disconnect (Observed.environment env) w).1
      (e.disconnect (Observed.environment env) w).2 := by
  have hdisconnection : Disconnection (Observed.environment env) e w
    (e.disconnect (Observed.environment env) w) := disconnection_disconnect
  generalize e.disconnect (Observed.environment env) w = result at hdisconnection ⊢
  cases hdisconnection with
  | idle _ => exact h
  | down hup drawn hdrawn =>
    have hrecord : drawn.2.record = w.record := by
      rw [← hdrawn]
      rfl
    have hdown := ((h.balanced.note (.disconnected e.link.remoteId drawn.1)).count).down hup rfl
      e.link.remoteId
    rw [← hrecord] at hdown
    refine ⟨?_, rfl, rfl⟩
    rw [hfollowed.record_fireLink]
    exact hdown

/-- A new id of the peer is taken over as it is noted. -/
theorem Recording.balanced {connId : UInt32} {connType : UInt16}
    {result : Endpoint (Observed ω) × Observed ω}
    (hrecording : Recording (Observed.environment env) connId connType e w result)
    (hwithin : e.Within observing) (h : Balanced content w.record (e.account packet)) :
    Balanced content result.2.record (result.1.account packet) := by
  cases hrecording with
  | known _ => exact h
  | renamed _ =>
    rw [record_fireReset hwithin]
    exact h.note (.peerReset e.link.remoteId connId connType)

theorem Lifecycle.recordPeer (h : Lifecycle content packet e w) (hwithin : e.Within observing)
    (connId : UInt32) (connType : UInt16) :
    Lifecycle content packet (e.recordPeer (Observed.environment env) connId connType w).1
      (e.recordPeer (Observed.environment env) connId connType w).2 := by
  have hrecording : Recording (Observed.environment env) connId connType e w
      (e.recordPeer (Observed.environment env) connId connType w) :=
    recording_recordPeer connId connType
  have hbalanced := hrecording.balanced hwithin h.balanced
  obtain ⟨counters, hlink⟩ := hrecording.link
  refine ⟨hbalanced, ?_, ?_⟩
  · rw [hlink]
    exact h.limit
  · rw [hlink]
    exact h.response

/-- A peer that is replaced is reported as owed since its successor was heard of. -/
theorem Replacement.balanced {message : ConnectMessage}
    {result : Endpoint (Observed ω) × Observed ω}
    (hdropped : Replacement message.connId e w result) (hfollowed : Followed e w)
    (h : Balanced content w.record
      { e.account packet with
        owed := if e.link.connected && message.connId != e.link.remoteId then 1 else 0 }) :
    Balanced content result.2.record (result.1.account packet) := by
  cases hdropped with
  | same hsame =>
    have hnone : ¬ (e.link.connected && message.connId != e.link.remoteId) = true := by
      rw [Bool.and_eq_true, bne_iff_ne, not_and, Decidable.not_not]
      exact fun hup ↦ (hsame hup).symm
    rw [if_neg hnone] at h
    exact h
  | replaced hup hnew =>
    have hone : (e.link.connected && message.connId != e.link.remoteId) = true := by
      rw [Bool.and_eq_true, bne_iff_ne]
      exact ⟨hup, hnew.symm⟩
    rw [if_pos hone] at h
    rw [hfollowed.record_fireLink]
    exact h.down hup rfl _

/-- A link that comes up is counted and reported, while the packet of a response is in hand. -/
theorem Raising.balanced {message : ConnectMessage} {result : Endpoint (Observed ω) × Observed ω}
    (hraised : Raising (Observed.environment env) message e w result)
    (hfollowed : Followed result.1 result.2) (h : Balanced content w.record (e.account packet))
    (hcomes : ∀ record, lastPacket record = packet →
      ComesUp content record (.reported (.connected message.connId message.connType))) :
    Balanced content result.2.record (result.1.account packet) := by
  cases hraised with
  | idle _ => exact h
  | up hdown =>
    have hnoted : Balanced content (w.record ++ [.noted (.connected message)])
        (e.account packet) := h.note_aside ⟨rfl, fun _ ↦ rfl, fun _ ↦ rfl⟩
    have hreported := hfollowed.record_fireLink (.connected message.connId message.connType)
      ((Observed.environment env).note (.connected message) w)
    exact hreported ▸ hnoted.raise hdown (hcomes _ hnoted.packet)

/-- A connect response that is accepted while its packet is in hand. -/
theorem Lifecycle.acceptResponse (h : Lifecycle content packet e w) (hfollowed : Followed e w)
    (hwithin : e.Within observing) (id : UInt8) (message : ConnectMessage)
    (hcomes : ∀ record, lastPacket record = packet →
      ComesUp content record (.reported (.connected message.connId message.connType))) :
    let accepted := e.acceptResponse (Observed.environment env) message
      ((Observed.environment env).note (.responseReceived id message) w)
    Lifecycle content packet accepted.1 accepted.2 := by
  intro accepted
  let heard := (Observed.environment env).note (.responseReceived id message) w
  obtain ⟨dropped, recorded, hdropped, hrecorded, hraised⟩ :=
    @acceptResponse_steps _ (Observed.environment env) e heard message
  let answered := e.answeredAt ((Observed.environment env).now heard).1 message.limit
  have hheard_followed : Followed e heard := hfollowed.note (fun _ ↦ rfl) rfl
  have hanswered : Followed answered ((Observed.environment env).now heard).2 :=
    hheard_followed.of_eq rfl rfl fun hup ↦ ⟨hup, rfl⟩
  have hwithin_answered : answered.Within observing := hwithin.of_tables rfl
  have hheard := h.balanced.note (.responseReceived id message)
  rw [Observation.replaces, h.balanced.connected, h.balanced.remoteId] at hheard
  have hdropped_balanced : Balanced content dropped.2.record (dropped.1.account packet) :=
    hdropped.balanced hanswered (by rw [← Nat.zero_add (ite _ _ _)]; exact hheard)
  have hrecorded_balanced : Balanced content recorded.2.record (recorded.1.account packet) :=
    hrecorded.balanced (hwithin_answered.of_aside hdropped.aside) hdropped_balanced
  have hfinal : Followed accepted.1 accepted.2 :=
    hheard_followed.acceptResponse hwithin message
  obtain ⟨connected, hdropped_eq, -⟩ := hdropped.link
  obtain ⟨_, hrecorded_eq⟩ := hrecorded.link
  obtain ⟨_, haccepted_eq⟩ := hraised.link
  refine ⟨hraised.balanced hfinal hrecorded_balanced hcomes, ?_, ?_⟩
  · change accepted.1 = _ at haccepted_eq
    rw [haccepted_eq, hrecorded_eq, hdropped_eq]
    rfl
  · change accepted.1 = _ at haccepted_eq
    rw [haccepted_eq, hrecorded_eq, hdropped_eq]
    rfl

/-! ## While a packet is in hand -/

/-- What is asked of a region moves the end of the payload only to open another one, or to close
it. -/
theorem limit_perform (inc : Incoming) {op : Incoming.Op} (hop : ∀ size, op ≠ .openPayload size) :
    (inc.perform op).2.limit = inc.limit ∨ (inc.perform op).2.limit = headerSize := by
  cases op with
  | read type =>
    left
    cases htake : inc.take type.size with
    | error error => simp only [Incoming.perform, Incoming.read, htake, Except.map]
    | ok taken =>
      obtain ⟨octets, next⟩ := taken
      obtain ⟨cursor, rfl⟩ := Incoming.eq_of_take htake
      simp only [Incoming.perform, Incoming.read, htake, Except.map]
  | skip count =>
    left
    cases hadvance : inc.advance count with
    | error error => simp only [Incoming.perform, Incoming.skip, hadvance, Except.map]
    | ok cursor => simp only [Incoming.perform, Incoming.skip, hadvance, Except.map]
  | store offset octets =>
    left
    simp only [Incoming.perform]
    split <;> rfl
  | slot offset size =>
    left
    simp only [Incoming.perform]
    split <;> rfl
  | openPayload size => exact absurd rfl (hop size)
  | rewind => exact .inl rfl
  | reset => exact .inr rfl
  | discardFront count filled => exact .inl rfl

/-- What was taken ended inside the payload. -/
theorem cursor_of_take {inc next : Incoming} {count : Nat} {octets : Bytes}
    (h : inc.take count = .ok (octets, next)) :
    next = { inc with cursor := inc.cursor + count } ∧ inc.cursor + count ≤ inc.limit := by
  unfold Incoming.take Incoming.advance at h
  split at h
  case isTrue hfits =>
    cases h
    exact ⟨rfl, hfits⟩
  case isFalse => cases h

/-- A message is read only from a payload that is long enough for it. -/
theorem limit_of_message {inc : Incoming} {message : ConnectMessage}
    (h : inc.message = .ok message) : headerSize + ConnectMessage.size ≤ inc.limit := by
  unfold Incoming.message ConnectMessage.read at h
  split at h
  case h_1 => cases h
  case h_2 first h₁ =>
    obtain ⟨rfl, -⟩ := cursor_of_take h₁
    split at h
    case h_1 => cases h
    case h_2 second h₂ =>
      obtain ⟨rfl, -⟩ := cursor_of_take h₂
      split at h
      case h_1 => cases h
      case h_2 third h₃ => exact (cursor_of_take h₃).2

/-- Applications that leave the record alone and make only requests of certain kinds. -/
def observingWith (asks : Request → Prop) : Conduct (Observed ω) :=
  { observing with asks }

/-- Whether an application is content with the payloads that it is given to read. -/
def Content (asks : Request → Prop) : Prop :=
  ∀ size, ¬ asks (.incoming (.openPayload size))

/-- A followed link, with what the packet that was dispatched last has to do with the end of the
open payload. -/
structure Kept (content : Prop) (fits : Option Frame → Nat → Prop) (e : Endpoint (Observed ω))
    (w : Observed ω) : Prop where
  followed : Followed e w
  lifecycle : ∃ packet, Lifecycle content packet e w ∧ fits packet e.reception.region.limit

/-- A packet with a given header is in hand, and the open payload reaches no further than its own,
if the application is content with it. -/
def InHand (content : Prop) (header : Header) (packet : Option Frame) (limit : Nat) : Prop :=
  ∃ payload, packet = some ⟨header, payload⟩ ∧ (content → limit ≤ headerSize + payload.length)

/-- What is known of the open payload outlives all that an application asks of it, and is enough to
tell where a connect response comes from. -/
structure Durable (asks : Request → Prop) (header : Header)
    (fits : Option Frame → Nat → Prop) : Prop where
  closed {packet limit} : fits packet limit → fits packet headerSize
  opened {packet limit size} (next : Nat) : asks (.incoming (.openPayload size)) →
    fits packet limit → fits packet next
  response {packet limit} : header.type = MessageType.connectResponse → fits packet limit →
    headerSize + ConnectMessage.size ≤ limit →
      ∃ frame, packet = some frame ∧ frame.header.type = MessageType.connectResponse ∧
        (Content asks → ConnectMessage.size ≤ frame.payload.length)

variable {header : Header} {asks : Request → Prop} {fits : Option Frame → Nat → Prop}

theorem durable_inHand (asks : Request → Prop) (header : Header) :
    Durable asks header (InHand (Content asks) header) where
  closed := by
    rintro packet limit ⟨payload, rfl, -⟩
    exact ⟨payload, rfl, fun _ ↦ Nat.le_add_right _ _⟩
  opened := by
    rintro packet limit size next hasks ⟨payload, rfl, -⟩
    exact ⟨payload, rfl, fun hcontent ↦ absurd hasks (hcontent size)⟩
  response := by
    rintro packet limit htype ⟨payload, rfl, hbound⟩ hreach
    refine ⟨_, rfl, htype, fun hcontent ↦ ?_⟩
    have hle := hbound hcontent
    dsimp only
    omega

theorem durable_true (asks : Request → Prop) (hheader : header.type ≠ MessageType.connectResponse) :
    Durable asks header fun _ _ ↦ True where
  closed _ := trivial
  opened _ _ _ := trivial
  response htype := absurd htype hheader

theorem Kept.step (h : Kept content fits e w) (hfollowed : Followed e' w')
    (hlifecycle : ∀ packet, Lifecycle content packet e w → Lifecycle content packet e' w')
    (hlimit : e'.reception.region.limit = e.reception.region.limit) : Kept content fits e' w' := by
  obtain ⟨packet, hbefore, hfits⟩ := h.lifecycle
  exact ⟨hfollowed, packet, hlifecycle packet hbefore, hlimit ▸ hfits⟩

/-- What has nothing to do with receiving keeps the payload open as it is. -/
theorem Kept.aside (h : Kept content fits e w) (hfollowed : Followed e' w')
    (hlifecycle : ∀ packet, Lifecycle content packet e w → Lifecycle content packet e' w')
    (haside : e.Aside e') : Kept content fits e' w' :=
  h.step hfollowed hlifecycle (by rw [haside.reception])

theorem Kept.incoming (h : Kept content fits e w) (hdurable : Durable asks header fits)
    {op : Incoming.Op} (hasks : asks (.incoming op)) :
    Kept content fits { e with reception :=
      { e.reception with region := (e.reception.region.perform op).2 } } w := by
  obtain ⟨packet, hbefore, hfits⟩ := h.lifecycle
  refine ⟨h.followed.of_eq rfl rfl fun hup ↦ ⟨hup, rfl⟩, packet,
    hbefore.of_eq rfl rfl rfl rfl, ?_⟩
  by_cases hop : ∃ size, op = .openPayload size
  case pos =>
    obtain ⟨size, rfl⟩ := hop
    exact hdurable.opened _ hasks hfits
  case neg =>
    rcases limit_perform e.reception.region fun size hsame ↦ hop ⟨size, hsame⟩ with hsame | hclosed
    · exact hsame ▸ hfits
    · exact hclosed ▸ hdurable.closed hfits

/-- A followed link stays in step in every round of handlers that leave the record alone. -/
theorem upheld_kept (hdurable : Durable asks header fits) :
    Upheld (Observed.environment env) (observingWith asks) header
      (Kept (Content asks) fits) := by
  have hfollowed := @upheld_followed ω env header
  have hwider {e : Endpoint (Observed ω)} (h : e.Within (observingWith asks)) :
      e.Within observing := h.mono (fun _ _ ↦ trivial) (fun _ h ↦ h) (fun _ h ↦ h)
  exact
    { change := fun hchange h ↦ h.step (hfollowed.change hchange h.followed)
        (fun _ hbefore ↦ hbefore.of_eq (hchange _) rfl rfl rfl) rfl
      cursor := fun n h ↦ h.step (hfollowed.cursor n h.followed)
        (fun _ hbefore ↦ hbefore.of_eq rfl rfl rfl rfl) rfl
      incoming := fun hasks h ↦ h.incoming hdurable hasks
      outgoing := fun _ h ↦ h.step (hfollowed.outgoing trivial h.followed)
        (fun _ hbefore ↦ hbefore.of_eq rfl rfl rfl rfl) rfl
      send := fun {_ _ type id size} _ h ↦ h.aside (hfollowed.send (.inl trivial) h.followed)
        (fun _ hbefore ↦ hbefore.send type id size) (aside_send type id size)
      describe := fun {_ _ type} id hwhich h ↦
        h.aside (hfollowed.describe id hwhich h.followed)
          (fun _ hbefore ↦ hbefore.sendDescription type id) (aside_sendDescription type id)
      now := fun h ↦ h.step (hfollowed.now h.followed)
        (fun _ hbefore ↦ hbefore.of_eq rfl rfl rfl rfl) rfl
      silent := fun remoteId timeout h ↦ h.step (hfollowed.silent remoteId timeout h.followed)
        (fun _ hbefore ↦ hbefore.note ⟨rfl, fun _ ↦ rfl, fun _ ↦ rfl⟩) rfl
      schedule := fun nextRequest requestIds h ↦
        h.step (hfollowed.schedule nextRequest requestIds h.followed)
          (fun _ hbefore ↦ hbefore.of_eq rfl rfl rfl rfl) rfl
      disconnect := fun hwithin h ↦ h.aside (hfollowed.disconnect (hwider hwithin) h.followed)
        (fun _ hbefore ↦ hbefore.disconnect h.followed) aside_disconnect
      request := fun {_ _ message} htype hwithin hmessage h ↦
        h.aside (hfollowed.request htype (hwider hwithin) hmessage h.followed)
          (fun _ hbefore ↦ (hbefore.note ⟨rfl, fun _ ↦ rfl, fun _ ↦ rfl⟩).recordPeer
            (hwider hwithin) message.connId message.connType) (aside_recordPeer _ _)
      response := fun {_ _ message} htype hwithin hmessage h ↦ by
        obtain ⟨packet, hbefore, hfits⟩ := h.lifecycle
        obtain ⟨frame, rfl, hresponse⟩ :=
          hdurable.response htype hfits (limit_of_message hmessage)
        refine ⟨hfollowed.response htype (hwider hwithin) hmessage h.followed, some frame,
          hbefore.acceptResponse h.followed (hwider hwithin) header.id message ?_, ?_⟩
        · exact fun record hlast connId connType _ ↦ ⟨frame, hlast, hresponse⟩
        · rw [(aside_acceptResponse message).reception]
          exact hfits
      failed := fun error h ↦ h.step (hfollowed.failed error h.followed)
        (fun _ hbefore ↦ hbefore.note ⟨rfl, fun _ ↦ rfl, fun _ ↦ rfl⟩) rfl
      handlers := fun handlers dispatching h ↦
        h.step (hfollowed.handlers handlers dispatching h.followed)
          (fun _ hbefore ↦ hbefore.of_eq rfl rfl rfl rfl) rfl
      resetCallback := fun hcallback h ↦ h.step (hfollowed.resetCallback hcallback h.followed)
        (fun _ hbefore ↦ hbefore.of_eq rfl rfl rfl rfl) rfl
      linkCallback := fun hcallback h ↦ h.step (hfollowed.linkCallback hcallback h.followed)
        (fun _ hbefore ↦ hbefore.of_eq rfl rfl rfl rfl) rfl
      available := fun _ h ↦ h.step (hfollowed.available trivial h.followed)
        (fun _ hbefore ↦ hbefore.of_eq rfl rfl rfl rfl) rfl
      read := fun _ h ↦ h.step (hfollowed.read trivial h.followed)
        (fun _ hbefore ↦ hbefore.of_eq rfl rfl rfl rfl) rfl
      write := fun _ h ↦ h.step (hfollowed.write trivial h.followed)
        (fun _ hbefore ↦ hbefore.of_eq rfl rfl rfl rfl) rfl }

/-- A followed link, whichever packet was dispatched last. -/
abbrev Settled (content : Prop) : Endpoint (Observed ω) → Observed ω → Prop :=
  Kept content fun _ _ ↦ True

theorem Settled.step (h : Settled content e w) (hfollowed : Followed e' w')
    (hrecord : w'.record = w.record) (haccount : ∀ packet, e'.account packet = e.account packet)
    (hlimit : e'.link.remoteLimit = e.link.remoteLimit)
    (hresponse : e'.link.lastResponse = e.link.lastResponse) : Settled content e' w' := by
  obtain ⟨packet, hbefore, -⟩ := h.lifecycle
  exact ⟨hfollowed, packet, hbefore.of_eq hrecord (haccount packet) hlimit hresponse, trivial⟩

/-- A followed link stays in step through receiving, and while a packet is in hand more is known. -/
theorem phased_settled (asks : Request → Prop) :
    Phased (Observed.environment env) (observingWith asks) (Settled (Content asks))
      (fun header ↦ Kept (Content asks) (InHand (Content asks) header)) where
  station {e w s} hlink hchanges h := by
    have haccount (packet : Option Frame) :
        ({ e with toStation := s } : Endpoint (Observed ω)).account packet = e.account packet := by
      simp only [Counters.changes, Prod.mk.injEq] at hchanges
      simp only [account, hlink, hchanges]
    have hfollowed : Followed { e with toStation := s } w :=
      (@steady_followed ω env).station hlink h.followed
    exact Settled.step h hfollowed rfl haccount (congrArg LinkState.remoteLimit hlink)
      (congrArg LinkState.lastResponse hlink)
  note {e w event} hevent h := by
    obtain ⟨packet, hbefore, -⟩ := h.lifecycle
    refine ⟨steady_followed.note hevent h.followed, ?_⟩
    have hnoted := hbefore.balanced.note event
    cases event <;>
      first | exact ⟨_, ⟨hnoted, hbefore.limit, hbefore.response⟩, trivial⟩ | cases hevent
  now h :=
    Settled.step h ((upheld_followed (.plain 0 0 0)).now h.followed) rfl (fun _ ↦ rfl) rfl rfl
  available h := Settled.step h (steady_followed.available h.followed) rfl (fun _ ↦ rfl) rfl rfl
  read size h := Settled.step h (steady_followed.read size h.followed) rfl (fun _ ↦ rfl) rfl rfl
  begins {e w} header hopen h := by
    obtain ⟨packet, hbefore, -⟩ := h.lifecycle
    refine ⟨steady_followed.note trivial h.followed,
      some ⟨header, e.reception.region.payload⟩,
      ⟨hbefore.balanced.note _, hbefore.limit, hbefore.response⟩, _, rfl, fun _ ↦ ?_⟩
    unfold Incoming.capacity at hopen
    rw [Incoming.payload, Region.length_slice, Nat.min_eq_left hopen]
    omega
  upheld header := upheld_kept (durable_inHand asks header)
  counted round h := h.step ((@steady_followed ω env).station rfl h.followed)
    (fun _ hbefore ↦ hbefore.of_eq rfl rfl rfl rfl) rfl
  unhandled h := h.step (steady_followed.note trivial h.followed)
    (fun _ hbefore ↦ hbefore.note ⟨rfl, fun _ ↦ rfl, fun _ ↦ rfl⟩) rfl
  ends h := by
    obtain ⟨packet, hbefore, -⟩ := h.lifecycle
    exact ⟨h.followed, packet, hbefore, trivial⟩

/-! ## Coming up -/

theorem connects_send {env : Environment ω} {e : Endpoint ω} {w : ω} (type id : UInt8)
    (size : Nat) : (e.send env type id size w).2.1.counters.connects = e.counters.connects := by
  have hattempt : Attempt env type id size e w (e.send env type id size w) :=
    attempt_send type id size
  generalize e.send env type id size w = result at hattempt ⊢
  cases hattempt <;> rfl

theorem connects_sendDescription {env : Environment ω} {e : Endpoint ω} {w : ω} (type id : UInt8) :
    (e.sendDescription env type id w).2.1.counters.connects = e.counters.connects := by
  unfold Endpoint.sendDescription
  split
  · exact connects_send type id _
  · rfl

/-- Apart from a connect response nothing counts as the link coming up. -/
theorem upheld_connects {env : Environment ω} {c : Conduct ω} {header : Header}
    (hheader : header.type ≠ MessageType.connectResponse) (connects : Nat) :
    Upheld env c header fun e _ ↦ e.counters.connects = connects where
  change _ h := h
  cursor _ h := h
  incoming _ h := h
  outgoing _ h := h
  send _ h := (connects_send _ _ _).trans h
  describe _ _ h := (connects_sendDescription _ _).trans h
  now h := h
  silent _ _ h := h
  schedule _ _ h := h
  disconnect {e w} _ h := by
    have hdisconnection : Disconnection env e w (e.disconnect env w) := disconnection_disconnect
    generalize e.disconnect env w = result at hdisconnection ⊢
    cases hdisconnection <;> exact h
  request {e w message} _ _ _ h := by
    have hrecording := @recording_recordPeer ω env e
      (env.note (.requestReceived header.id message) w) message.connId message.connType
    dsimp only
    generalize e.recordPeer env message.connId message.connType _ = result at hrecording ⊢
    cases hrecording <;> exact h
  response htype := absurd htype hheader
  failed _ h := h
  handlers _ _ h := h
  resetCallback _ h := h
  linkCallback _ h := h
  available _ h := h
  read _ h := h
  write _ h := h

end Endpoint

namespace Lookout

variable {env : Environment ω} {asks : Request → Prop} {p : Lookout ω}

def named (id : UInt32) (p : Lookout ω) : Lookout ω :=
  { p with endpoint := p.endpoint.withLocalId id }

/-- What a followed endpoint can come to when the application makes only requests of certain kinds:
its id may be changed, it polls, and the application runs programs that leave the record alone. -/
inductive Conducted (env : Environment ω) (asks : Request → Prop) : Lookout ω → Prop where
  | start (config : Config) (localId : UInt32) (world : ω) :
    Conducted env asks (fresh config localId world)
  | named {p : Lookout ω} (id : UInt32) :
    Conducted env asks p → Conducted env asks (p.named id)
  | poll {p : Lookout ω} (fuel : Nat) : Conducted env asks p → Conducted env asks (p.poll env fuel)
  | run {p : Lookout ω} (program : Program (Observed ω)) :
    program.Within (Endpoint.observingWith asks) → Conducted env asks p →
      Conducted env asks (p.run env program)

theorem Conducted.settled (h : Conducted env asks p) :
    p.endpoint.Settled (Endpoint.Content asks) p.surroundings ∧
      p.endpoint.Within (Endpoint.observingWith asks) := by
  induction h with
  | start config localId world =>
    have hfresh : Reachable env (fresh config localId world) := .start config localId world
    obtain ⟨hfollowed, hwithin⟩ := hfresh.followed
    have hbegun : (Endpoint.ofConfig config localId : Endpoint (Observed ω)).Within
        (Endpoint.observingWith asks) := Endpoint.within_ofConfig _ config localId
    exact ⟨⟨hfollowed, none, ⟨.start, rfl, rfl⟩, trivial⟩, hbegun.handlers, hbegun.resetCallbacks,
      hwithin.linkCallbacks⟩
  | @named p id _ ih =>
    have hfollowed : (p.named id).endpoint.Followed p.surroundings :=
      ih.1.followed.of_eq rfl rfl fun hup ↦ ⟨hup, rfl⟩
    exact ⟨Endpoint.Settled.step ih.1 hfollowed rfl (fun _ ↦ rfl) rfl rfl, ih.2.of_tables rfl⟩
  | poll fuel _ ih => exact (Endpoint.phased_settled asks).poll fuel ih.2 ih.1
  | run program hprogram _ ih =>
    have hheader : (Header.plain 2 0 0).type ≠ MessageType.connectResponse := by decide
    exact (Endpoint.upheld_kept (Endpoint.durable_true asks hheader)).run hprogram ih.2 ih.1

/-- A program brings no link up. -/
theorem Conducted.connects_run (h : Conducted env asks p) {program : Program (Observed ω)}
    (hprogram : program.Within (Endpoint.observingWith asks)) :
    (p.run env program).endpoint.counters.connects = p.endpoint.counters.connects := by
  have hheader : (Header.plain 2 0 0).type ≠ MessageType.connectResponse := by decide
  exact ((Endpoint.upheld_connects hheader p.endpoint.counters.connects).run hprogram h.settled.2
    rfl).1

/-- Whatever happens to an endpoint, the reports about its link alternate, and between operations
they agree with its state and its counters. The link comes up while a connect response is being
dispatched, which is long enough if the application is content with the payloads it is given, and by
nothing else that is done. -/
theorem Conducted.reports_agree (h : Conducted env asks p) :
    let seen := reports p.surroundings.record
    let link := p.endpoint.link
    Alternating seen ∧
      (link.connected = true ↔
        ∃ connId connType, seen.getLast? = some (.connected connId connType)) ∧
      (link.connected = true ↔ link.remoteLimit.isSome = true) ∧
      (link.connected = true ↔ link.lastResponse.isSome = true) ∧
      p.endpoint.counters.connects = seen.countP LinkEvent.isUp ∧
      seen.countP (!·.isUp) =
        p.endpoint.counters.disconnects + replacements p.surroundings.record ∧
      link.remoteId = knownPeer p.surroundings.record ∧
      InContext (ComesUp (Endpoint.Content asks)) p.surroundings.record ∧
      ∀ program, program.Within (Endpoint.observingWith asks) →
        (reports (p.run env program).surroundings.record).countP LinkEvent.isUp =
          seen.countP LinkEvent.isUp := by
  intro seen link
  obtain ⟨packet, hkept, -⟩ := h.settled.1.lifecycle
  have hconnected : (reportedUp p.surroundings.record).isSome = link.connected :=
    hkept.balanced.connected
  refine ⟨hkept.balanced.alternating, ?_, ?_, ?_, hkept.balanced.connects.symm,
    hkept.balanced.disconnects, hkept.balanced.remoteId.symm, hkept.balanced.up, ?_⟩
  · rw [← hconnected]
    exact reportedUp_isSome_iff
  · rw [hkept.limit]
  · rw [hkept.response]
  · intro program hprogram
    have hran : Conducted env asks (p.run env program) := .run program hprogram h
    obtain ⟨packet', hkept', -⟩ := hran.settled.1.lifecycle
    calc
      (reports (p.run env program).surroundings.record).countP LinkEvent.isUp =
          (p.run env program).endpoint.counters.connects := hkept'.balanced.connects
      _ = p.endpoint.counters.connects := h.connects_run hprogram
      _ = seen.countP LinkEvent.isUp := hkept.balanced.connects.symm

/-- A link that comes up by a response and is taken down again. -/
theorem reports_agree_response :
    let env := Wire.environment (fun app : Unit ↦ (0, app)) .near
    let p := ((fresh (.ofSizes 18 18) 7 (.fresh (fun _ ↦ ⟨[], 1⟩) ())).run env
      (Observed.arrive .near
        (Frame.wire .unchecked ⟨.plain 1 0 8, ConnectMessage.encode ⟨1, 52, 7⟩⟩))).poll env 19
    let down := p.run env (.ask .disconnect fun _ ↦ .finish (.ok ()))
    reports p.surroundings.record = [.connected 1 7] ∧ p.endpoint.link.connected = true ∧
      p.endpoint.counters.connects = 1 ∧
      (reports down.surroundings.record).countP LinkEvent.isUp = 1 := by
  intro env p down
  have harrives : (Observed.arrive .near (Frame.wire .unchecked
      ⟨.plain 1 0 8, ConnectMessage.encode ⟨1, 52, 7⟩⟩) : Program (Observed (Wire Unit))).Within
        (Endpoint.observingWith (· = .disconnect)) := ⟨fun _ ↦ rfl, fun _ ↦ trivial⟩
  have hp : Conducted env (· = .disconnect) p := .poll 19 (.run _ harrives (.start _ _ _))
  have hseen : reports p.surroundings.record = [.connected 1 7] := by decide +kernel
  obtain ⟨-, hconnected, -, -, hconnects, -, -, -, hprogram⟩ := Conducted.reports_agree hp
  have hdown := hprogram (.ask .disconnect fun _ ↦ .finish (.ok ())) ⟨rfl, fun _ ↦ trivial⟩
  rw [hseen] at hconnected hconnects hdown
  exact ⟨hseen, hconnected.mpr ⟨1, 7, rfl⟩, hconnects, hdown⟩

/-- A handler for connect responses that opens eight octets of payload, whatever the packet has,
lets an empty one bring the link up. -/
theorem connected_without_payload :
    let env := Wire.environment (fun app : Unit ↦ (0, app)) .near
    ∃ p, Conducted env (fun _ ↦ True) p ∧ p.endpoint.link.connected = true ∧
      reports p.surroundings.record = [.connected 0 0] ∧
      p.surroundings.record.filterMap Observation.dispatched? = [⟨.plain 1 0 0, []⟩] := by
  intro env
  let opening : Program (Observed (Wire Unit)) :=
    .addHandler MessageType.connectResponse
      (fun _ ↦ .ask (.incoming (.openPayload 8)) fun _ ↦ .finish (.ok ())) (.finish (.ok ()))
  let arriving : Program (Observed (Wire Unit)) :=
    Observed.arrive .near (Frame.wire .unchecked ⟨.plain 1 0 0, []⟩)
  let p := (((fresh (.ofSizes 18 18) 7 (.fresh (fun _ ↦ ⟨[], 1⟩) ())).run env opening).run env
    arriving).poll env 11
  have hopening : opening.Within (Endpoint.observingWith fun _ ↦ True) :=
    ⟨fun _ ↦ ⟨trivial, fun _ ↦ trivial⟩, trivial⟩
  have harriving : arriving.Within (Endpoint.observingWith fun _ ↦ True) :=
    ⟨fun _ ↦ rfl, fun _ ↦ trivial⟩
  have hp : Conducted env (fun _ ↦ True) p :=
    .poll 11 (.run _ harriving (.run _ hopening (.start _ _ _)))
  exact ⟨p, hp, by decide +kernel, by decide +kernel, by decide +kernel⟩

end Lookout

end FramedLink
