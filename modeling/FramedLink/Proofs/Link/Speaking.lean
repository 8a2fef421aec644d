import FramedLink.Proofs.Handling.Undisturbed

/-!
# What an end sends

An application that leaves the handshake to the endpoints, looks at packets only by reading them and
leaves the channel to its endpoint is courteous. `Speaking` is what then holds of an end of a wire
at all times, also while a packet is handled: all that was noted as sent is dispatched at the other
end or still in the pipe, in this order and as encoded frames; the link is up as its notes say; on a
link that is up the limit of the peer is known; and whatever was sent over such a link, or by the
handshake, is small enough for the peer.
-/

namespace FramedLink

/-- What an application can ask without interfering in the handshake, in the region of received
packets or in the channel. -/
def Request.Courteous : Request → Prop
  | .incoming (.read _) | .incoming (.skip _) | .incoming .rewind => True
  | .incoming _ => False
  | .send type _ _ | .sendWritten type _ => 2 ≤ type
  | .channelRead _ | .channelWrite _ => False
  | _ => True

/-- Courteous applications. Among the surroundings they leave the octets in the pipes and the notes
alone; caps, clocks and everything of their own they may change. -/
def Wire.courteous {σ : Type} : Conduct (Wire σ) where
  asks := Request.Courteous
  changes step := ∀ w,
    (∀ x, ((step w).toward x).queue.octets = (w.toward x).queue.octets) ∧
      (step w).noted = w.noted

/-- What an end has sent is within what its peer takes if it was sent by the handshake or over a
link that was up. A message of the handshake announces the limit of its sender. -/
def SentWithin (config peer : Config) (before : List Event) (event : Event) : Prop :=
  ∀ frame ∈ event.sent?,
    frame.payload.length ≤ maxPayload ∧
      (frame.header.type < 2 ∨ linkUp before = true →
        frame.payload.length ≤ peer.maxDeclared) ∧
      (frame.header.type < 2 → ∃ message : ConnectMessage,
        frame.payload = message.encode ∧ message.limit = config.advertisedLimit)

/-- What an application has sent is within a limit, or was sent over a link that was up. -/
def SentFairly (limit : Nat) (before : List Event) (event : Event) : Prop :=
  ∀ frame ∈ event.sent?, 2 ≤ frame.header.type →
    frame.payload.length ≤ limit ∨ linkUp before = true

instance (limit : Nat) (before : List Event) (event : Event) :
    Decidable (SentFairly limit before event) :=
  inferInstanceAs (Decidable (∀ frame ∈ event.sent?, _))

/-- An end of valid settings advertises less than it takes, and more than nothing. -/
theorem Config.toNat_advertisedLimit (config : Config) (h : config.fault? = none) :
    config.advertisedLimit.toNat = config.inSize - (headerSize + 4) := by
  have hbounds := config.bounds_of_valid h
  have hsize : min (config.inSize - (headerSize + 4)) maxPayload =
      config.inSize - (headerSize + 4) := by
    unfold maxInSize at hbounds
    omega
  rw [advertisedLimit, hsize, UInt16.toNat_ofNat', Nat.mod_eq_of_lt]
  unfold maxInSize maxPayload headerSize at hbounds
  unfold headerSize
  omega

/-- A courteous application only moves the reading cursor. -/
theorem Incoming.perform_of_courteous {inc : Incoming} {op : Incoming.Op}
    (h : Request.Courteous (.incoming op)) :
    ∃ cursor, (inc.perform op).2 = { inc with cursor } := by
  cases op with
  | read type =>
    cases htake : inc.take type.size with
    | error error => exact ⟨inc.cursor, by simp only [perform, read, htake, Except.map]⟩
    | ok taken =>
      obtain ⟨octets, next⟩ := taken
      obtain ⟨cursor, rfl⟩ := Incoming.eq_of_take htake
      exact ⟨cursor, by simp only [perform, read, htake, Except.map]⟩
  | skip count =>
    cases hadvance : inc.advance count with
    | error error => exact ⟨inc.cursor, by simp only [perform, skip, hadvance, Except.map]⟩
    | ok cursor => exact ⟨cursor, by simp only [perform, skip, hadvance, Except.map]⟩
  | rewind => exact ⟨headerSize, rfl⟩
  | store _ _ => exact h.elim
  | slot _ _ => exact h.elim
  | openPayload _ => exact h.elim
  | reset => exact h.elim
  | discardFront _ _ => exact h.elim

/-- Whatever is asked of an outgoing region, it keeps its size. -/
theorem Outgoing.size_perform (out : Outgoing) (op : Outgoing.Op) :
    (out.perform op).2.region.size = out.region.size := by
  cases op with
  | write field =>
    cases hfield : field.encode with
    | error error => simp only [perform, write, hfield, Except.bind]
    | ok octets =>
      cases hadvance : out.advance octets.length with
      | error error => simp only [perform, write, writeBytes, hfield, hadvance, Except.bind,
          Except.map]
      | ok cursor => simp only [perform, write, writeBytes, hfield, hadvance, Except.bind,
          Except.map, Region.size_overwrite]
  | skip count =>
    cases hadvance : out.advance count with
    | error error => simp only [perform, skip, hadvance, Except.map]
    | ok cursor => simp only [perform, skip, hadvance, Except.map]
  | reset => rfl
  | patch offset octets => exact Region.size_overwrite _ _ _
  | fillSpare octets => exact Region.size_overwrite _ _ _
  | sealFrame type id size mode =>
    cases hsealed : out.sealFrame type id size mode with
    | error error => simp only [perform, hsealed]
    | ok result =>
      simp only [perform, hsealed]
      exact Outgoing.size_of_sealFrame hsealed

namespace Wire

variable {σ : Type} {x : End} {w w' w'' : Wire σ}

/-- A change of the surroundings in which an end sends nothing and its link stays as it is. -/
structure Quiet (x : End) (w w' : Wire σ) : Prop where
  octets : (w'.toward x.other).queue.octets = (w.toward x.other).queue.octets
  other : w'.noted x.other = w.noted x.other
  sends : sends (w'.noted x) = sends (w.noted x)
  link : linkUp (w'.noted x) = linkUp (w.noted x)
  context {P : List Event → Event → Prop} :
    (∀ before event, event.sent? = none → P before event) →
      InContext P (w.noted x) → InContext P (w'.noted x)

@[refl]
theorem Quiet.refl (w : Wire σ) : Quiet x w w :=
  ⟨rfl, rfl, rfl, rfl, fun _ h ↦ h⟩

theorem Quiet.trans (h : Quiet x w w') (h' : Quiet x w' w'') : Quiet x w w'' where
  octets := h'.octets.trans h.octets
  other := h'.other.trans h.other
  sends := h'.sends.trans h.sends
  link := h'.link.trans h.link
  context hsilent hcontext := h'.context hsilent (h.context hsilent hcontext)

instance : Trans (@Quiet σ x) (@Quiet σ x) (@Quiet σ x) :=
  ⟨Quiet.trans⟩

theorem Quiet.of_noted (hnoted : w'.noted = w.noted)
    (hoctets : (w'.toward x.other).queue.octets = (w.toward x.other).queue.octets) :
    Quiet x w w' := by
  refine ⟨hoctets, ?_, ?_, ?_, ?_⟩
  · rw [hnoted]
  · rw [hnoted]
  · rw [hnoted]
  · intro P _ h
    rwa [hnoted]

theorem sends_note {event : Event} (h : event.sent? = none) :
    sends ((w.note x event).noted x) = sends (w.noted x) := by
  rw [noted_note, sends_of_silent _ h]

theorem linkUp_note (event : Event) :
    linkUp ((w.note x event).noted x) = Event.linkAfter (linkUp (w.noted x)) event := by
  rw [noted_note, linkUp_append]
  rfl

theorem quiet_note {event : Event} (hsent : event.sent? = none)
    (hlink : ∀ up, Event.linkAfter up event = up) : Quiet x w (w.note x event) where
  octets := rfl
  other := noted_note_other x event w
  sends := sends_note hsent
  link := (linkUp_note event).trans (hlink _)
  context hsilent hcontext := by
    rw [noted_note]
    exact hcontext.append (hsilent _ _ hsent)

end Wire

namespace Endpoint

variable {σ : Type} {clock : σ → Millis × σ} {x : End} {config peer : Config}
variable {theirs : List Event} {e e' : Endpoint (Wire σ)} {w w' : Wire σ}

theorem quiet_fireReset (hwithin : e.Within Wire.courteous) : Wire.Quiet x w (e.fireReset w) := by
  apply @Upheld.fireReset _ _ (fun _ w' ↦ Wire.Quiet x w w') e w ?_ hwithin (.refl w)
  intro w' step hstep h
  exact h.trans (.of_noted (hstep w').2 ((hstep w').1 x.other))

theorem quiet_fireLink (event : LinkEvent) (hwithin : e.Within Wire.courteous) :
    Wire.Quiet x w (e.fireLink event w) := by
  apply @Upheld.fireLink _ _ (fun _ w' ↦ Wire.Quiet x w w') e w ?_ (fun _ ↦ id) hwithin event
    (.refl w)
  intro w' step hstep h
  exact h.trans (.of_noted (hstep w').2 ((hstep w').1 x.other))

/-! ## The invariant of a speaker -/

/-- What holds at an end at all times, as long as it and its application are courteous; `theirs` is
what the other end has noted. -/
structure Speaking (x : End) (config peer : Config) (theirs : List Event)
    (e : Endpoint (Wire σ)) (w : Wire σ) : Prop where
  config_eq : e.config = config
  room : e.outgoing.region.size = config.outSize
  link : linkUp (w.noted x) = e.link.connected
  known : e.link.connected = true → e.link.remoteLimit = some peer.advertisedLimit
  theirs_eq : w.noted x.other = theirs
  sent : InContext (SentWithin config peer) (w.noted x)
  underway : ∃ frames, sends (w.noted x) = deliveries theirs ++ frames ∧
    (w.toward x.other).queue.octets = frames.flatMap (Frame.wire config.integrity)

theorem sentWithin_of_silent (config peer : Config) (before : List Event) (event : Event)
    (h : event.sent? = none) : SentWithin config peer before event := by
  intro frame hframe
  rw [h] at hframe
  exact nomatch hframe

theorem Speaking.quiet (h : Speaking x config peer theirs e w) (hquiet : Wire.Quiet x w w') :
    Speaking x config peer theirs e w' where
  config_eq := h.config_eq
  room := h.room
  link := hquiet.link.trans h.link
  known := h.known
  theirs_eq := hquiet.other.trans h.theirs_eq
  sent := hquiet.context (sentWithin_of_silent config peer) h.sent
  underway := by
    rw [hquiet.sends, hquiet.octets]
    exact h.underway

/-- The invariant says little of the endpoint itself. -/
theorem Speaking.of_eq (h : Speaking x config peer theirs e w) (hconfig : e'.config = e.config)
    (hroom : e'.outgoing.region.size = e.outgoing.region.size)
    (hconnected : e'.link.connected = e.link.connected)
    (hlimit : e'.link.remoteLimit = e.link.remoteLimit) :
    Speaking x config peer theirs e' w where
  config_eq := hconfig.trans h.config_eq
  room := hroom.trans h.room
  link := h.link.trans hconnected.symm
  known hup :=
    calc
      e'.link.remoteLimit = e.link.remoteLimit := hlimit
      _ = some peer.advertisedLimit := h.known (hconnected ▸ hup)
  theirs_eq := h.theirs_eq
  sent := h.sent
  underway := h.underway

/-- What is noted of the link is how the link is then. -/
theorem Speaking.note (h : Speaking x config peer theirs e w) {event : Event}
    (hsent : event.sent? = none) (hconfig : e'.config = e.config)
    (hroom : e'.outgoing.region.size = e.outgoing.region.size)
    (hlink : ∀ up, event.linkAfter up = e'.link.connected)
    (hknown : e'.link.connected = true → e'.link.remoteLimit = some peer.advertisedLimit) :
    Speaking x config peer theirs e' (w.note x event) where
  config_eq := hconfig.trans h.config_eq
  room := hroom.trans h.room
  link := (Wire.linkUp_note event).trans (hlink _)
  known := hknown
  theirs_eq := (Wire.noted_note_other x event w).trans h.theirs_eq
  sent := by
    rw [Wire.noted_note]
    exact h.sent.append (sentWithin_of_silent config peer _ event hsent)
  underway := by
    rw [Wire.sends_note hsent]
    exact h.underway

/-- Over a link that is up, nothing is sent that the peer does not take. -/
theorem Speaking.size_le (h : Speaking x config peer theirs e w) (hpeer : peer.fault? = none)
    (hup : linkUp (w.noted x) = true) {size : Nat} (hallowed : e.refusedLimit? size = none) :
    size ≤ peer.maxDeclared := by
  have hbounds := (peer.bounds_of_valid hpeer).1
  have hlimit := peer.toNat_advertisedLimit hpeer
  have hpositive : peer.advertisedLimit ≠ 0 := by
    intro hzero
    rw [hzero] at hlimit
    unfold minRegionSize frameOverhead headerSize at hbounds
    unfold headerSize at hlimit
    have hnone : (0 : UInt16).toNat = 0 := rfl
    omega
  have hfits : size ≤ peer.advertisedLimit.toNat := by
    unfold Station.refusedLimit? at hallowed
    rw [h.known (h.link.symm.trans hup)] at hallowed
    dsimp only at hallowed
    split at hallowed
    case isTrue => cases hallowed
    case isFalse hnot => exact Nat.le_of_not_lt fun hlt ↦ hnot ⟨hpositive, hlt⟩
  unfold Config.maxDeclared
  omega

/-- Sending keeps the invariant, if what the handshake sends is a message of its sender. -/
theorem Speaking.send (h : Speaking x config peer theirs e w) (hconfig : config.fault? = none)
    (hpeer : peer.fault? = none) {type id : UInt8} {size : Nat}
    (hshake : type < 2 → size ≤ peer.maxDeclared ∧ ∃ message : ConnectMessage,
      e.outgoing.payloadOf size = message.encode ∧ message.limit = config.advertisedLimit) :
    Speaking x config peer theirs (e.send (Wire.environment clock x) type id size w).2.1
      (e.send (Wire.environment clock x) type id size w).2.2 := by
  have hattempt : Attempt (Wire.environment clock x) type id size e w
    (e.send (Wire.environment clock x) type id size w) := attempt_send type id size
  generalize e.send (Wire.environment clock x) type id size w = result at hattempt ⊢
  have hroom : frameOverhead ≤ e.outgoing.region.size := by
    have hbounds := (config.bounds_of_valid hconfig).2.2.1
    unfold minRegionSize at hbounds
    rw [h.room]
    omega
  cases hattempt with
  | refused error => exact h.of_eq rfl rfl rfl rfl
  | cut frame sealed error hsealed hcut =>
    exact absurd (hcut frame.length rfl) (Nat.lt_irrefl _)
  | sent octets sealed hallowed hsealed =>
    obtain ⟨hmax, hlength, hpayload, hoctets⟩ := Outgoing.sealFrame_ok hroom hsealed
    obtain ⟨frames, hsends, hqueue⟩ := h.underway
    let frame : Frame := ⟨.plain type id (UInt16.ofNat size), e.outgoing.payloadOf size⟩
    let written := ((Wire.environment clock x).channel.write octets w).2
    have hevent :
        SentWithin config peer (w.noted x) (.sent type id (e.outgoing.payloadOf size)) := by
      intro frame hframe
      obtain rfl := Option.mem_some_iff.mp hframe
      refine ⟨by rwa [hlength], ?_, fun htype ↦ (hshake htype).2⟩
      rw [hlength]
      rintro (htype | hup)
      · exact (hshake htype).1
      · exact h.size_le hpeer hup hallowed
    have hfed : (written.toward x.other).queue.octets =
        (w.toward x.other).queue.octets ++ octets :=
      congrArg (fun pipe : Pipe ↦ pipe.queue.octets) (Function.update_self x.other _ w.toward)
    have hnoted (event : Event) : (written.note x event).noted x = w.noted x ++ [event] :=
      Wire.noted_note x event written
    constructor
    case config_eq => exact h.config_eq
    case room => exact (Outgoing.size_of_sealFrame hsealed).trans h.room
    case link => exact (Wire.linkUp_note _).trans h.link
    case known => exact h.known
    case theirs_eq => exact (Wire.noted_note_other x _ written).trans h.theirs_eq
    case sent =>
      rw [hpayload]
      exact (hnoted _).symm ▸ h.sent.append hevent
    case underway =>
      refine ⟨frames ++ [frame], ?_, ?_⟩
      · rw [hpayload]
        calc
          sends ((written.note x _).noted x) = sends (w.noted x) ++ [frame] := by
            rw [hnoted, sends_sent, hlength]
          _ = deliveries theirs ++ (frames ++ [frame]) := by rw [hsends, List.append_assoc]
      · rw [List.flatMap_append, List.flatMap_singleton, ← hqueue]
        calc
          (written.toward x.other).queue.octets = (w.toward x.other).queue.octets ++ octets := hfed
          _ = (w.toward x.other).queue.octets ++ frame.wire config.integrity := by
            rw [hoctets, h.config_eq]

theorem Speaking.sendDescription (h : Speaking x config peer theirs e w)
    (hconfig : config.fault? = none) (hpeer : peer.fault? = none) (type id : UInt8) :
    Speaking x config peer theirs
      (e.sendDescription (Wire.environment clock x) type id w).2.1
      (e.sendDescription (Wire.environment clock x) type id w).2.2 := by
  have hroom : frameOverhead + ConnectMessage.size ≤ e.outgoing.region.size := by
    rw [h.room]
    exact (config.bounds_of_valid hconfig).2.2.1
  have hsmall : ConnectMessage.size ≤ peer.maxDeclared := by
    have hbounds := (peer.bounds_of_valid hpeer).1
    unfold minRegionSize frameOverhead headerSize at hbounds
    unfold ConnectMessage.size Config.maxDeclared headerSize
    omega
  obtain ⟨outgoing, hsize, hpayload, hsent⟩ :=
    @sendDescription_eq _ (Wire.environment clock x) e w type id hroom
  rw [hsent]
  have hwritten : Speaking x config peer theirs { e with outgoing } w :=
    h.of_eq rfl hsize rfl rfl
  exact hwritten.send hconfig hpeer fun _ ↦
    ⟨hsmall, e.description, hpayload, congrArg Config.advertisedLimit h.config_eq⟩

theorem Speaking.disconnect (h : Speaking x config peer theirs e w)
    (hwithin : e.Within Wire.courteous) :
    Speaking x config peer theirs (e.disconnect (Wire.environment clock x) w).1
      (e.disconnect (Wire.environment clock x) w).2 := by
  have hdisconnection : Disconnection (Wire.environment clock x) e w
    (e.disconnect (Wire.environment clock x) w) := disconnection_disconnect
  generalize e.disconnect (Wire.environment clock x) w = result at hdisconnection ⊢
  cases hdisconnection with
  | idle _ => exact h
  | down _ drawn hdrawn =>
    have hquiet : Wire.Quiet x w drawn.2 := hdrawn ▸ .of_noted rfl rfl
    have hkept : Speaking x config peer theirs e drawn.2 := h.quiet hquiet
    apply Speaking.quiet (hkept.note rfl ?_ ?_ ?_ ?_) (quiet_fireLink _ hwithin)
    · rfl
    · rfl
    · intro _
      rfl
    · intro hup
      exact nomatch hup

theorem Replacement.quiet {connId : UInt32} {result : Endpoint (Wire σ) × Wire σ}
    (h : Replacement connId e w result) (hwithin : e.Within Wire.courteous) :
    Wire.Quiet x w result.2 := by
  cases h with
  | same _ => exact .refl w
  | replaced _ _ => exact quiet_fireLink _ hwithin

theorem Recording.quiet {connId : UInt32} {connType : UInt16}
    {result : Endpoint (Wire σ) × Wire σ}
    (h : Recording (Wire.environment clock x) connId connType e w result)
    (hwithin : e.Within Wire.courteous) : Wire.Quiet x w result.2 := by
  cases h with
  | known _ => exact .refl w
  | renamed _ => exact (Wire.quiet_note rfl fun _ ↦ rfl).trans (quiet_fireReset hwithin)

theorem Speaking.recordPeer (h : Speaking x config peer theirs e w)
    (hwithin : e.Within Wire.courteous) (connId : UInt32) (connType : UInt16) :
    Speaking x config peer theirs
      (e.recordPeer (Wire.environment clock x) connId connType w).1
      (e.recordPeer (Wire.environment clock x) connId connType w).2 := by
  have hrecording : Recording (Wire.environment clock x) connId connType e w
    (e.recordPeer (Wire.environment clock x) connId connType w) := recording_recordPeer _ _
  obtain ⟨counters, hrecorded⟩ := hrecording.link
  rw [hrecorded]
  exact Speaking.of_eq (h.quiet (hrecording.quiet hwithin)) rfl rfl rfl rfl

/-- An accepted response makes the limit of the peer known, and the link is up. -/
theorem Speaking.acceptResponse (h : Speaking x config peer theirs e w)
    (hwithin : e.Within Wire.courteous) {message : ConnectMessage}
    (hlimit : message.limit = peer.advertisedLimit) :
    Speaking x config peer theirs
      (e.acceptResponse (Wire.environment clock x) message w).1
      (e.acceptResponse (Wire.environment clock x) message w).2 := by
  obtain ⟨dropped, recorded, hdropped, hrecorded, hraised⟩ :=
    @acceptResponse_steps _ (Wire.environment clock x) e w message
  have hanswered : (e.answeredAt ((Wire.environment clock x).now w).1 message.limit).Within
      Wire.courteous := hwithin.of_tables rfl
  have hdropped_within : dropped.1.Within Wire.courteous := hanswered.of_aside hdropped.aside
  have hrecorded_within : recorded.1.Within Wire.courteous :=
    hdropped_within.of_aside hrecorded.aside
  have hquiet :=
    calc
      Wire.Quiet x w ((Wire.environment clock x).now w).2 := .of_noted rfl rfl
      Wire.Quiet x _ dropped.2 := hdropped.quiet hanswered
      Wire.Quiet x _ recorded.2 := hrecorded.quiet hdropped_within
  have hkept : Speaking x config peer theirs e recorded.2 := h.quiet hquiet
  obtain ⟨connected, hdropped_eq, hup⟩ := hdropped.link
  obtain ⟨counters, hrecorded_eq⟩ := hrecorded.link
  rw [hdropped_eq] at hrecorded_eq
  rw [hrecorded_eq] at hraised hrecorded_within
  generalize e.acceptResponse (Wire.environment clock x) message w = result at hraised ⊢
  cases hraised with
  | idle hconnected =>
    constructor
    case config_eq => exact h.config_eq
    case room => exact h.room
    case link =>
      calc
        linkUp (recorded.2.noted x) = e.link.connected := hkept.link
        _ = true := (hup hconnected).1
        _ = connected := hconnected.symm
    case known =>
      intro _
      exact congrArg some hlimit
    case theirs_eq => exact hkept.theirs_eq
    case sent => exact hkept.sent
    case underway => exact hkept.underway
  | up _ =>
    apply Speaking.quiet (hkept.note rfl ?_ ?_ ?_ ?_) (quiet_fireLink _ hrecorded_within)
    · rfl
    · rfl
    · intro _
      rfl
    · intro _
      exact congrArg some hlimit

/-! ## The invariant while a packet is handled -/

/-- A packet that a speaker handles: if it is a connect response, then one of the peer. -/
structure Conversing (x : End) (config peer : Config) (theirs : List Event) (header : Header)
    (e : Endpoint (Wire σ)) (w : Wire σ) : Prop where
  speaking : Speaking x config peer theirs e w
  response : header.type = MessageType.connectResponse →
    ∀ message, e.reception.region.message = .ok message → message.limit = peer.advertisedLimit

theorem Conversing.of_aside {header : Header} (h : Conversing x config peer theirs header e w)
    (haside : e.Aside e') (hspeaking : Speaking x config peer theirs e' w') :
    Conversing x config peer theirs header e' w' := by
  refine ⟨hspeaking, ?_⟩
  rw [haside.reception]
  exact h.response

theorem Conversing.quiet {header : Header} (h : Conversing x config peer theirs header e w)
    (hquiet : Wire.Quiet x w w') : Conversing x config peer theirs header e w' :=
  ⟨h.speaking.quiet hquiet, h.response⟩

/-- Handling a packet keeps the invariant. -/
theorem upheld_conversing (hconfig : config.fault? = none) (hpeer : peer.fault? = none)
    (header : Header) :
    Upheld (Wire.environment clock x) Wire.courteous header
      (Conversing x config peer theirs header) where
  change hstep h := h.quiet (.of_noted (hstep _).2 ((hstep _).1 x.other))
  cursor _ h := ⟨h.speaking.of_eq rfl rfl rfl rfl, h.response⟩
  incoming hasks h := by
    refine ⟨h.speaking.of_eq rfl rfl rfl rfl, ?_⟩
    obtain ⟨cursor, hmoved⟩ := Incoming.perform_of_courteous hasks
    dsimp only
    rw [hmoved]
    exact h.response
  outgoing _ h := ⟨h.speaking.of_eq rfl (Outgoing.size_perform _ _) rfl rfl, h.response⟩
  send hasks h := by
    apply h.of_aside (aside_send _ _ _)
    apply h.speaking.send hconfig hpeer
    intro hshake
    have happlication : 2 ≤ _ := hasks.elim id And.left
    exact absurd hshake (UInt8.not_lt.mpr happlication)
  describe id _ h :=
    h.of_aside (aside_sendDescription _ _) (h.speaking.sendDescription hconfig hpeer _ id)
  now h := h.quiet (.of_noted rfl rfl)
  silent _ _ h := h.quiet (Wire.quiet_note rfl fun _ ↦ rfl)
  schedule _ _ h := ⟨h.speaking.of_eq rfl rfl rfl rfl, h.response⟩
  disconnect hwithin h := h.of_aside aside_disconnect (h.speaking.disconnect hwithin)
  request {e w message} _ hwithin _ h := by
    have hnoted : Conversing x config peer theirs header e
        (w.note x (.requestReceived header.id message)) :=
      h.quiet (Wire.quiet_note rfl fun _ ↦ rfl)
    exact hnoted.of_aside (aside_recordPeer _ _) (hnoted.speaking.recordPeer hwithin _ _)
  response {e w message} htype hwithin hmessage h := by
    have hnoted : Conversing x config peer theirs header e
        (w.note x (.responseReceived header.id message)) :=
      h.quiet (Wire.quiet_note rfl fun _ ↦ rfl)
    exact hnoted.of_aside (aside_acceptResponse _)
      (hnoted.speaking.acceptResponse hwithin (h.response htype _ hmessage))
  failed _ h := h.quiet (Wire.quiet_note rfl fun _ ↦ rfl)
  handlers _ _ h := ⟨h.speaking.of_eq rfl rfl rfl rfl, h.response⟩
  resetCallback _ h := ⟨h.speaking.of_eq rfl rfl rfl rfl, h.response⟩
  linkCallback _ h := ⟨h.speaking.of_eq rfl rfl rfl rfl, h.response⟩
  available _ h := h
  read hasks _ := hasks.elim
  write hasks _ := hasks.elim

end Endpoint

end FramedLink
