import FramedLink.Proofs.Handling.Fanout
import FramedLink.Proofs.Codec

/-!
# What is written

A frame is built in the outgoing region, in the place of whatever was there before, and it is the
encoding of the payload all the same. `Sending` says what an attempt to send comes to: the payload
is refused and the channel is left alone, or the frame is written, once, and the answer of the
channel decides; nothing else changes but the outgoing region and one counter. It needs no more than
that the region has the size of the settings (`Fitted`), and so it holds whenever an application can
ask for it, also while a packet is handled (`Occurs`).

If a channel takes everything, then all that was ever written is a row of such frames (`Written`),
and decoding it gets them back, as many as were counted (`Course.send_writes_encoding`).
-/

namespace FramedLink

variable {ω : Type}

namespace Endpoint

variable {env : Environment ω} {c : Conduct ω} {config : Config}
variable {e e' : Endpoint ω} {w w' : ω} {polls : List (Polled ω)}

/-- What sending goes by and what it counts. -/
def outbox (e : Endpoint ω) : Config × Outgoing × Nat :=
  (e.config, e.outgoing, e.counters.framesSent)

theorem Relinks.outbox (h : e.Relinks e') : e'.outbox = e.outbox := by
  obtain ⟨_, _, _, _, rfl⟩ := h
  rfl

/-- An endpoint with given settings, and an outgoing region of the size that they say. -/
structure Fitted (config : Config) (e : Endpoint ω) : Prop where
  config_eq : e.config = config
  room : e.outgoing.region.size = config.outSize

theorem Fitted.of_sizes (h : e.Fitted config) (hconfig : e'.config = e.config)
    (hroom : e'.outgoing.region.size = e.outgoing.region.size) : e'.Fitted config :=
  ⟨hconfig.trans h.config_eq, hroom.trans h.room⟩

theorem Fitted.of_outbox (h : e.Fitted config) (hsame : e'.outbox = e.outbox) :
    e'.Fitted config :=
  h.of_sizes (congrArg Prod.fst hsame) (congrArg (fun outbox ↦ outbox.2.1.region.size) hsame)

/-- There is room for a connect message. -/
theorem Fitted.describes (h : e.Fitted config) (hvalid : config.fault? = none) :
    frameOverhead + ConnectMessage.size ≤ e.outgoing.region.size := by
  rw [h.room]
  exact (config.bounds_of_valid hvalid).2.2.1

theorem Fitted.receives {s : Station} (h : e.Fitted config) (hstation : e.toStation.Receives s) :
    ({ e with toStation := s } : Endpoint ω).Fitted config := by
  obtain ⟨_, _, _, _, _, _, rfl⟩ := hstation
  exact ⟨h.config_eq, h.room⟩

theorem Fitted.send (h : e.Fitted config) (type id : UInt8) (size : Nat) :
    (e.send env type id size w).2.1.Fitted config :=
  h.of_sizes (aside_send type id size).config (link_send type id size).2

theorem fitted_created (hcreated : create env config w = (.ok e, w')) : e.Fitted config := by
  obtain ⟨hvalid, id, rfl, -⟩ := created_eq hcreated
  have hbounds := (config.bounds_of_valid hvalid).2.2.1
  refine ⟨rfl, ?_⟩
  have hsize : (ofConfig config id : Endpoint ω).outgoing.region.size =
      max config.outSize frameOverhead := Array.size_replicate
  rw [hsize]
  exact Nat.max_eq_left (Nat.le_trans (Nat.le_add_right _ _) hbounds)

theorem upheld_fitted (hvalid : config.fault? = none) (header : Header) :
    Upheld env c header fun e _ ↦ e.Fitted config where
  change _ h := h
  cursor _ h := ⟨h.config_eq, h.room⟩
  incoming _ h := ⟨h.config_eq, h.room⟩
  outgoing _ h := h.of_sizes rfl (Outgoing.size_perform _ _)
  send _ h := h.send _ _ _
  describe {e w type} id _ h := by
    obtain ⟨outgoing, hsize, -, hsent⟩ :=
      @sendDescription_eq ω env e w type id (h.describes hvalid)
    rw [hsent]
    have hwritten : Fitted config { e with outgoing } := h.of_sizes rfl hsize
    exact hwritten.send _ _ _
  now h := h
  silent _ _ h := h
  schedule _ _ h := ⟨h.config_eq, h.room⟩
  disconnect _ h := h.of_outbox relinks_disconnect.outbox
  request _ _ _ h := h.of_outbox (relinks_recordPeer _ _).outbox
  response _ _ _ h := h.of_outbox (relinks_acceptResponse _).outbox
  failed _ h := h
  handlers _ _ h := ⟨h.config_eq, h.room⟩
  resetCallback _ h := ⟨h.config_eq, h.room⟩
  linkCallback _ h := ⟨h.config_eq, h.room⟩
  available _ h := h
  read _ h := h
  write _ h := h

theorem preserved_fitted (hvalid : config.fault? = none) :
    Preserved env c fun e _ ↦ e.Fitted config where
  upheld := upheld_fitted hvalid
  receives hstation _ h := h.receives hstation
  counted _ h := ⟨h.config_eq, h.room⟩
  named _ h := ⟨h.config_eq, h.room⟩

end Endpoint

/-- A frame is built if its payload has room, and otherwise it is too large. -/
theorem Outgoing.sealFrame_cases (out : Outgoing) (type id : UInt8) (size : Nat) (mode : Integrity)
    (hmax : out.payloadCapacity ≤ maxPayload) :
    out.payloadCapacity < size ∧
        out.sealFrame type id size mode = .error (.tooLarge size out.payloadCapacity) ∨
      size ≤ out.payloadCapacity ∧
        ∃ octets sealed, out.sealFrame type id size mode = .ok (octets, sealed) := by
  rcases Nat.lt_or_ge out.payloadCapacity size with hlarge | hroom
  · refine .inl ⟨hlarge, ?_⟩
    unfold sealFrame
    exact if_neg fun hfits ↦ Nat.not_le_of_lt hlarge hfits.2
  · exact .inr ⟨hroom, exists_sealFrame (Nat.le_trans hroom hmax) hroom type id mode⟩

/-- Sealing gives what encoding the payload gives. -/
theorem Outgoing.encode_of_sealFrame {out sealed : Outgoing} {type id : UInt8} {size : Nat}
    {mode : Integrity} {octets : Bytes} (hroom : frameOverhead ≤ out.region.size)
    (h : out.sealFrame type id size mode = .ok (octets, sealed)) :
    Frame.encode type id (out.payloadOf size) mode = .ok octets := by
  obtain ⟨hmax, hlength, -, rfl⟩ := sealFrame_ok hroom h
  rw [Frame.encode, Frame.ofPayload, hlength, if_pos hmax]
  rfl

namespace Endpoint

variable {env : Environment ω} {c : Conduct ω} {config : Config}
variable {e e' : Endpoint ω} {w w' : ω} {polls : List (Polled ω)}

/-- A payload is too large for the peer, or for the outgoing region. -/
def TooLarge (config : Config) (e : Endpoint ω) (size : Nat) : Prop :=
  (∃ limit ∈ e.link.remoteLimit, limit ≠ 0 ∧ limit.toNat < size) ∨
    config.outSize - frameOverhead < size

/-- In a region of the size that the settings say, a frame is built just if its payload leaves room
for header and trailer. -/
theorem Fitted.sealFrame_cases (h : e.Fitted config) (hvalid : config.fault? = none)
    (type id : UInt8) (size : Nat) :
    config.outSize - frameOverhead < size ∧
        e.outgoing.sealFrame type id size config.integrity =
          .error (.tooLarge size (config.outSize - frameOverhead)) ∨
      size ≤ config.outSize - frameOverhead ∧
        ∃ octets sealed,
          e.outgoing.sealFrame type id size config.integrity = .ok (octets, sealed) := by
  have hmost := (config.bounds_of_valid hvalid).2.2.2
  have hcapacity : e.outgoing.payloadCapacity = config.outSize - frameOverhead := by
    rw [Outgoing.payloadCapacity, h.room]
  rw [← hcapacity]
  apply Outgoing.sealFrame_cases
  rw [hcapacity]
  exact Nat.sub_le_of_le_add hmost

/-- What an attempt to send the first octets of the payload comes to. -/
structure Sending (env : Environment ω) (config : Config) (type id : UInt8) (size : Nat)
    (e : Endpoint ω) (w : ω) (result : Except EndpointError Unit × Endpoint ω × ω) : Prop where
  /-- It is refused for its size just if that is too large. -/
  refused : (∃ wanted max, result.1 = .error (.frame (.tooLarge wanted max))) ↔
    e.TooLarge config size
  /-- Then nothing happens outside. -/
  untouched : e.TooLarge config size → result.2.2 = w
  /-- Otherwise the frame is written, once, and it is sent if the channel takes all of it. -/
  written : ¬ e.TooLarge config size → ∃ octets,
    (e.outgoing.payloadOf size).length = size ∧
    Frame.encode type id (e.outgoing.payloadOf size) config.integrity = .ok octets ∧
    (result.1 = .ok () ↔
      ∃ taken, (env.channel.write octets w).1 = .ok taken ∧ octets.length ≤ taken) ∧
    result.2.2 =
      if result.1.isOk then
        env.note (.sent type id (e.outgoing.payloadOf size)) (env.channel.write octets w).2
      else (env.channel.write octets w).2
  /-- A frame that is sent is counted, the writing cursor is back at the start, and everything else
  is as before. -/
  left : ∃ region : Region, region.size = e.outgoing.region.size ∧
    result.2.1 = { e with
      outgoing := ⟨region, headerSize⟩
      counters := { e.counters with
        framesSent := e.counters.framesSent + if result.1.isOk then 1 else 0 } }

theorem refusedLimit?_eq_none_iff {s : Station} {size : Nat} :
    s.refusedLimit? size = none ↔
      ¬ ∃ limit ∈ s.link.remoteLimit, limit ≠ 0 ∧ limit.toNat < size := by
  unfold Station.refusedLimit?
  cases s.link.remoteLimit with
  | none => simp
  | some limit => simp

/-- A payload that is too large is refused. -/
theorem Fitted.send_of_tooLarge (h : e.Fitted config) (env : Environment ω)
    (hvalid : config.fault? = none) (type id : UInt8) {size : Nat}
    (hlarge : e.TooLarge config size) (w : ω) :
    ∃ max, e.send env type id size w =
      (.error (.frame (.tooLarge size max)), e.rewindOutgoing, w) := by
  unfold Endpoint.send
  cases hlimit : e.refusedLimit? size with
  | some limit => exact ⟨limit, rfl⟩
  | none =>
    rcases h.sealFrame_cases hvalid type id size with ⟨-, hsealed⟩ | ⟨hsmall, -⟩
    · rw [h.config_eq, hsealed]
      exact ⟨_, rfl⟩
    · refine absurd hlarge ?_
      rintro (hpeer | hregion)
      · exact refusedLimit?_eq_none_iff.mp hlimit hpeer
      · exact Nat.not_lt_of_le hsmall hregion

/-- Any other payload is allowed, and sealed. -/
theorem Fitted.seals (h : e.Fitted config) (hvalid : config.fault? = none) (type id : UInt8)
    {size : Nat} (hfits : ¬ e.TooLarge config size) :
    e.refusedLimit? size = none ∧ ∃ octets sealed,
      e.outgoing.sealFrame type id size config.integrity = .ok (octets, sealed) := by
  obtain ⟨hpeer, hregion⟩ := not_or.mp hfits
  refine ⟨refusedLimit?_eq_none_iff.mpr hpeer, ?_⟩
  rcases h.sealFrame_cases hvalid type id size with ⟨hlarge, -⟩ | ⟨-, hsealed⟩
  · exact absurd hlarge hregion
  · exact hsealed

theorem Fitted.sending (h : e.Fitted config) (env : Environment ω)
    (hvalid : config.fault? = none) (type id : UInt8) (size : Nat) (w : ω) :
    Sending env config type id size e w (e.send env type id size w) := by
  by_cases hlarge : e.TooLarge config size
  · obtain ⟨max, hrefused⟩ := h.send_of_tooLarge env hvalid type id hlarge w
    rw [hrefused]
    exact ⟨⟨fun _ ↦ hlarge, fun _ ↦ ⟨size, max, rfl⟩⟩, fun _ ↦ rfl, fun hfits ↦ absurd hlarge hfits,
      e.outgoing.region, rfl, rfl⟩
  · obtain ⟨hallowed, octets, sealed, hsealed⟩ := h.seals hvalid type id hlarge
    have hroom : frameOverhead ≤ e.outgoing.region.size :=
      Nat.le_trans (Nat.le_add_right _ _) (h.describes hvalid)
    have hencoded := Outgoing.encode_of_sealFrame hroom hsealed
    obtain ⟨-, hlength, hpayload, -⟩ := Outgoing.sealFrame_ok hroom hsealed
    have hsealing {result : Except EndpointError Unit × Endpoint ω × ω}
        (hother : ∀ wanted max, result.1 ≠ .error (.frame (.tooLarge wanted max)))
        (hanswer : result.1 = .ok () ↔
          ∃ taken, (env.channel.write octets w).1 = .ok taken ∧ octets.length ≤ taken)
        (hworld : result.2.2 =
          if result.1.isOk then
            env.note (.sent type id (e.outgoing.payloadOf size)) (env.channel.write octets w).2
          else (env.channel.write octets w).2)
        (hleft : result.2.1 = { e with
          outgoing := ⟨sealed.region, headerSize⟩
          counters := { e.counters with
            framesSent := e.counters.framesSent + if result.1.isOk then 1 else 0 } }) :
        Sending env config type id size e w result :=
      ⟨⟨fun ⟨wanted, max, h⟩ ↦ absurd h (hother wanted max), fun h ↦ absurd h hlarge⟩,
        fun h ↦ absurd h hlarge, fun _ ↦ ⟨octets, hlength, hencoded, hanswer, hworld⟩,
        sealed.region, Outgoing.size_of_sealFrame hsealed, hleft⟩
    rw [← h.config_eq] at hsealed
    unfold Endpoint.send
    rw [hallowed, hsealed]
    dsimp only
    rw [hpayload]
    rcases hwrite : env.channel.write octets w with ⟨error | taken, w'⟩
    · exact hsealing (fun _ _ h ↦ nomatch h) (by simp [hwrite]) (by rw [hwrite]; rfl) rfl
    · dsimp only
      split
      case isTrue hshort =>
        exact hsealing (fun _ _ h ↦ nomatch h) (by simpa [hwrite] using hshort)
          (by rw [hwrite]; rfl) rfl
      case isFalse hwhole =>
        exact hsealing (fun _ _ h ↦ nomatch h) (by simpa [hwrite] using hwhole)
          (by rw [hwrite]; rfl) rfl

/-- To send a description is to send its octets. -/
theorem Fitted.describing (h : e.Fitted config) (env : Environment ω)
    (hvalid : config.fault? = none) (type id : UInt8) (w : ω) :
    ∃ outgoing : Outgoing,
      outgoing.payloadOf ConnectMessage.size =
        ConnectMessage.encode ⟨e.link.localId, config.advertisedLimit, config.connType⟩ ∧
      Sending env config type id ConnectMessage.size { e with outgoing } w
        (e.sendDescription env type id w) := by
  obtain ⟨outgoing, hsize, hpayload, hsent⟩ :=
    @sendDescription_eq ω env e w type id (h.describes hvalid)
  have hwritten : Fitted config { e with outgoing } := h.of_sizes rfl hsize
  refine ⟨outgoing, ?_, ?_⟩
  · rw [← h.config_eq]
    exact hpayload
  · rw [hsent]
    exact hwritten.sending env hvalid type id _ w

/-! ## Whenever an application can send -/

/-- A moment at which an application has hold of an endpoint: in a program between two polls, or in
a handler of a packet that is handed over. -/
inductive Occurs (env : Environment ω) (e : Endpoint ω) (w : ω) : Moment ω → Prop where
  | program (program : Program ω) {moment : Moment ω}
      (hcomes : (Moment.mk program e w).Comes env moment) : Occurs env e w moment
  | handler {header : Header} {s : Station} {found : ω} {invocations : List (Invocation ω)}
      {e' : Endpoint ω} {w' : ω} {invocation : Invocation ω} {first moment : Moment ω}
      (hstation : e.toStation.Receives s)
      (hfanned : FannedOut env header { e with toStation := s } found invocations e' w')
      (hmem : invocation ∈ invocations) (hstart : first ∈ invocation.start? header)
      (hcomes : first.Comes env moment) : Occurs env e w moment

/-- The outgoing region is as it should be when a handler of a packet is called. -/
theorem Fitted.called {header : Header} {s : Station} {found : ω}
    {invocations : List (Invocation ω)} {invocation : Invocation ω} (h : e.Fitted config)
    (hvalid : config.fault? = none) (hwithin : e.Within c) (hstation : e.toStation.Receives s)
    (hfanned : FannedOut env header { e with toStation := s } found invocations e' w')
    (hmem : invocation ∈ invocations) :
    invocation.endpoint.Fitted config ∧ invocation.endpoint.Within c := by
  let received : Endpoint ω := { e with toStation := s }
  have hreceived : received.Within c := hwithin.of_tables rfl
  have hall : ∀ invocation ∈ invocations,
      invocation.registration.Within c ∧ invocation.registration.type = header.type :=
    within_of_called hfanned.called fun registration hmem _ ↦ hreceived.handlers registration hmem
  have hfitted : received.Fitted config := h.receives hstation
  obtain ⟨last, left, hchained, -⟩ := hfanned.chained
  obtain ⟨hcalled, -⟩ := (upheld_fitted hvalid header).chained hchained hall
    (hwithin.received s) ⟨hfitted.config_eq, hfitted.room⟩
  obtain ⟨before, hbefore, hbeforeWithin, hbeforeFitted⟩ := hcalled invocation hmem
  rw [hbefore]
  exact ⟨⟨hbeforeFitted.config_eq, hbeforeFitted.room⟩, hbeforeWithin.of_tables rfl⟩

/-- The outgoing region is as it should be at every such moment. -/
theorem Fitted.occurs (h : e.Fitted config) (hvalid : config.fault? = none)
    (hwithin : e.Within .free) {moment : Moment ω} (hoccurs : Occurs env e w moment) :
    moment.endpoint.Fitted config := by
  have hcomes (header : Header) {first : Moment ω} (hcomes : first.Comes env moment)
      (hfirst : first.endpoint.Within .free) (hfitted : first.endpoint.Fitted config) :
      moment.endpoint.Fitted config :=
    ((upheld_fitted hvalid header).comes hcomes first.program.within_free hfirst hfitted).1
  cases hoccurs with
  | program program hprogram => exact hcomes (.plain 0 0 0) hprogram hwithin h
  | @handler header s _ invocations _ _ invocation _ _ hstation hfanned hmem hstart hlater =>
    obtain ⟨hfitted, hstill⟩ := h.called hvalid hwithin hstation hfanned hmem
    obtain ⟨-, hendpoint, -⟩ := @Invocation.result_of_start ω env header _ _ hstart
    exact hcomes header hlater (hendpoint ▸ hstill) (hendpoint ▸ hfitted)

end Endpoint

def Event.isCreation : Event → Bool
  | .created .. => true
  | _ => false

theorem Event.IsReception.isCreation {event : Event} (h : event.IsReception) :
    event.isCreation = false := by
  cases event <;> first | rfl | cases h

/-- The surroundings keep a log of the octets that the channel takes from an endpoint, which begins
when that is created. The channel takes everything. -/
structure Environment.Logged (env : Environment ω) (log : ω → Bytes) : Prop where
  available (w : ω) : log (env.channel.available w).2 = log w
  read (size : Nat) (w : ω) : log (env.channel.read size w).2 = log w
  takes (octets : Bytes) (w : ω) : (env.channel.write octets w).1 = .ok octets.length
  write (octets : Bytes) (w : ω) : log (env.channel.write octets w).2 = log w ++ octets
  now (w : ω) : log (env.now w).2 = log w
  draw (draw : IdSupply → UInt32 × IdSupply) (w : ω) : log (env.ids.run draw w).2 = log w
  created (id : UInt32) (config : Config) (w : ω) : log (env.note (.created id config) w) = []
  note {event : Event} (hevent : event.isCreation = false) (w : ω) :
    log (env.note event w) = log w

/-- Surroundings with such a log beside them. -/
def Environment.logging (env : Environment ω) : Environment (ω × Bytes) where
  channel :=
    { available := fun w ↦
        let (answer, next) := env.channel.available w.1
        (answer, next, w.2)
      read := fun size w ↦
        let (reading, next) := env.channel.read size w.1
        (reading, next, w.2)
      write := fun octets w ↦
        let (answer, next) := env.channel.write octets w.1
        (answer, next, w.2 ++ octets) }
  now w :=
    let (now, next) := env.now w.1
    (now, next, w.2)
  ids := ⟨fun w ↦ env.ids.get w.1, fun supply w ↦ (env.ids.set supply w.1, w.2)⟩
  note event w := (env.note event w.1, if event.isCreation then [] else w.2)

/-- In any surroundings with a channel in memory such a log can be kept. -/
theorem Environment.logged_logging {env : Environment ω} {incoming outgoing : Slot ω Pipe}
    (hmemory : env.channel = .memory incoming outgoing) : env.logging.Logged Prod.snd where
  available _ := rfl
  read _ _ := rfl
  takes octets w := by
    simp only [logging, hmemory]
    rfl
  write _ _ := rfl
  now _ := rfl
  draw _ _ := rfl
  created _ _ _ := rfl
  note hevent _ := by
    simp only [logging, hevent]
    rfl

/-- Applications that leave the writing to their endpoint, and the log alone. -/
structure Conduct.Keeps (c : Conduct ω) (log : ω → Bytes) : Prop where
  asks (octets : Bytes) : ¬ c.asks (.channelWrite octets)
  changes {step : ω → ω} : c.changes step → ∀ w, log (step w) = log w
  watches (callback : LinkEvent → ω → ω) : ¬ c.watches callback

/-- The widest conduct of such applications. -/
def Conduct.keeping (log : ω → Bytes) : Conduct ω where
  asks request := ∀ octets, request ≠ .channelWrite octets
  changes step := ∀ w, log (step w) = log w

theorem Conduct.keeps_keeping (log : ω → Bytes) : (keeping log).Keeps log where
  asks octets h := h octets rfl
  changes h := h
  watches _ h := h

namespace Conduct.Keeps

variable {c : Conduct ω} {log : ω → Bytes} {e : Endpoint ω}

theorem fireReset (hkeeps : c.Keeps log) (hwithin : e.Within c) (w : ω) :
    log (e.fireReset w) = log w :=
  Endpoint.Upheld.fireReset (I := fun _ w' ↦ log w' = log w)
    (fun hstep h ↦ (hkeeps.changes hstep _).trans h) hwithin rfl

theorem fireLink (hkeeps : c.Keeps log) (hwithin : e.Within c) (event : LinkEvent) (w : ω) :
    log (e.fireLink event w) = log w :=
  Endpoint.Upheld.fireLink (I := fun _ w' ↦ log w' = log w)
    (fun hstep h ↦ (hkeeps.changes hstep _).trans h) hkeeps.watches hwithin event rfl

end Conduct.Keeps

namespace Environment.Logged

variable {env : Environment ω} {c : Conduct ω} {log : ω → Bytes} {e : Endpoint ω} {w w' : ω}

theorem passes (hlog : env.Logged log) (h : env.Passes w w') : log w' = log w := by
  induction h with
  | refl => rfl
  | available _ ih => rw [hlog.available, ih]
  | read size _ ih => rw [hlog.read, ih]
  | now _ ih => rw [hlog.now, ih]
  | note hevent _ ih => rw [hlog.note hevent.isCreation, ih]

theorem disconnect (hlog : env.Logged log) (hkeeps : c.Keeps log) (hwithin : e.Within c) :
    log (e.disconnect env w).2 = log w := by
  have h : Endpoint.Disconnection env e w (e.disconnect env w) := Endpoint.disconnection_disconnect
  generalize e.disconnect env w = result at h ⊢
  cases h with
  | idle _ => rfl
  | down _ drawn hdrawn => rw [hkeeps.fireLink hwithin, hlog.note rfl, ← hdrawn, hlog.draw]

theorem recording (hlog : env.Logged log) (hkeeps : c.Keeps log) (hwithin : e.Within c)
    {connId : UInt32} {connType : UInt16} {result : Endpoint ω × ω}
    (h : Endpoint.Recording env connId connType e w result) : log result.2 = log w := by
  cases h with
  | known _ => rfl
  | renamed _ => rw [hkeeps.fireReset hwithin, hlog.note rfl]

theorem acceptResponse (hlog : env.Logged log) (hkeeps : c.Keeps log) (hwithin : e.Within c)
    (message : ConnectMessage) : log (e.acceptResponse env message w).2 = log w := by
  obtain ⟨dropped, recorded, hdropped, hrecorded, hraised⟩ :=
    @Endpoint.acceptResponse_steps ω env e w message
  have hanswered : (e.answeredAt (env.now w).1 message.limit).Within c := hwithin.of_tables rfl
  have hdroppedWithin := hanswered.of_aside hdropped.aside
  have hrecordedWithin := hdroppedWithin.of_aside hrecorded.aside
  have hlast : log (e.acceptResponse env message w).2 = log recorded.2 := by
    generalize e.acceptResponse env message w = result at hraised ⊢
    cases hraised with
    | idle _ => rfl
    | up _ => rw [hkeeps.fireLink hrecordedWithin, hlog.note rfl]
  have hfirst : log dropped.2 = log w := by
    cases hdropped with
    | same _ => exact hlog.now w
    | replaced _ _ => rw [hkeeps.fireLink hanswered, hlog.now]
  rw [hlast, hlog.recording hkeeps hdroppedWithin hrecorded, hfirst]

end Environment.Logged

theorem decodeAll_wires {max : Nat} {mode : Integrity} {frames : List Frame}
    (hframes : ∀ frame ∈ frames,
      frame.payload.length = frame.header.payloadSize ∧ frame.header.payloadSize ≤ max) :
    decodeAll max mode (frames.flatMap (Frame.wire mode)) = ⟨frames, [], none⟩ := by
  induction frames with
  | nil => rw [List.flatMap_nil, decodeAll_eq]; rfl
  | cons frame frames ih =>
    obtain ⟨⟨hsize, hmax⟩, hlater⟩ := List.forall_mem_cons.mp hframes
    rw [List.flatMap_cons, decodeAll_eq, Frame.decode_wire hsize hmax]
    simp only [ih hlater]

namespace Endpoint

variable {env : Environment ω} {c : Conduct ω} {config : Config} {log : ω → Bytes}
variable {e e' : Endpoint ω} {w w' : ω} {polls : List (Polled ω)}

/-- All that was written is a row of encoded frames, and each of them was counted. -/
structure Written (config : Config) (log : ω → Bytes) (e : Endpoint ω) (w : ω) : Prop where
  fitted : e.Fitted config
  logged : ∃ frames : List Frame,
    (∀ frame ∈ frames, frame.payload.length = frame.header.payloadSize) ∧
    frames.length = e.counters.framesSent ∧
    log w = frames.flatMap (Frame.wire config.integrity)

theorem Written.of_counted (h : Written config log e w) (hfitted : e'.Fitted config)
    (hcount : e'.counters.framesSent = e.counters.framesSent) (hlog : log w' = log w) :
    Written config log e' w' := by
  obtain ⟨frames, hsizes, hlength, hframes⟩ := h.logged
  exact ⟨hfitted, frames, hsizes, hlength.trans hcount.symm, hlog.trans hframes⟩

theorem Written.of_outbox (h : Written config log e w) (hsame : e'.outbox = e.outbox)
    (hlog : log w' = log w) : Written config log e' w' :=
  h.of_counted (h.fitted.of_outbox hsame) (congrArg (fun outbox ↦ outbox.2.2) hsame) hlog

/-- To send is to write one more frame and count it, or to write nothing. -/
theorem Written.send (h : Written config log e w) (hvalid : config.fault? = none)
    (hlog : env.Logged log) (type id : UInt8) (size : Nat) :
    Written config log (e.send env type id size w).2.1 (e.send env type id size w).2.2 := by
  have hfitted : (e.send env type id size w).2.1.Fitted config := h.fitted.send type id size
  have hsending := h.fitted.sending env hvalid type id size w
  generalize e.send env type id size w = result at hfitted hsending ⊢
  obtain ⟨region, -, hleft⟩ := hsending.left
  by_cases hlarge : e.TooLarge config size
  · obtain ⟨wanted, max, herror⟩ := hsending.refused.mpr hlarge
    rw [herror] at hleft
    refine h.of_counted hfitted ?_ (congrArg log (hsending.untouched hlarge))
    rw [hleft]
    rfl
  · obtain ⟨octets, hlength, hencoded, hanswer, hworld⟩ := hsending.written hlarge
    have hok : result.1 = .ok () :=
      hanswer.mpr ⟨octets.length, hlog.takes octets w, Nat.le_refl _⟩
    rw [hok] at hleft hworld
    obtain ⟨hoctets, hmax⟩ := Frame.wire_of_encode hencoded
    obtain ⟨frames, hsizes, hcount, hframes⟩ := h.logged
    let payload := e.outgoing.payloadOf size
    let frame : Frame := ⟨.plain type id (UInt16.ofNat payload.length), payload⟩
    have hsize : frame.payload.length = frame.header.payloadSize :=
      (UInt16.toNat_ofNat_of_lt' (Nat.lt_succ_of_le hmax)).symm
    refine ⟨hfitted, frames ++ [frame], ?_, ?_, ?_⟩
    · rw [List.forall_mem_append, List.forall_mem_singleton]
      exact ⟨hsizes, hsize⟩
    · rw [List.length_append, hcount, hleft]
      rfl
    · calc
        log result.2.2 = log (env.note (.sent type id payload) (env.channel.write octets w).2) :=
          congrArg log hworld
        _ = log (env.channel.write octets w).2 := hlog.note rfl _
        _ = log w ++ octets := hlog.write octets w
        _ = (frames ++ [frame]).flatMap (Frame.wire config.integrity) := by
          rw [List.flatMap_append, List.flatMap_singleton, hframes, hoctets]

theorem upheld_written (hvalid : config.fault? = none) (hlog : env.Logged log)
    (hkeeps : c.Keeps log) (header : Header) :
    Upheld env c header (Written config log) where
  change hstep h := h.of_outbox rfl (hkeeps.changes hstep _)
  cursor _ h := h.of_outbox rfl rfl
  incoming _ h := h.of_outbox rfl rfl
  outgoing _ h := h.of_counted (h.fitted.of_sizes rfl (Outgoing.size_perform _ _)) rfl rfl
  send _ h := h.send hvalid hlog _ _ _
  describe {e w type} id _ h := by
    obtain ⟨outgoing, hsize, -, hsent⟩ :=
      @sendDescription_eq ω env e w type id (h.fitted.describes hvalid)
    rw [hsent]
    have hwritten : Written config log { e with outgoing } w :=
      h.of_counted (h.fitted.of_sizes rfl hsize) rfl rfl
    exact hwritten.send hvalid hlog _ _ _
  now h := h.of_outbox rfl (hlog.now _)
  silent _ _ h := h.of_outbox rfl (hlog.note rfl _)
  schedule _ _ h := h.of_outbox rfl rfl
  disconnect hwithin h := h.of_outbox relinks_disconnect.outbox (hlog.disconnect hkeeps hwithin)
  request _ hwithin _ h :=
    h.of_outbox (relinks_recordPeer _ _).outbox
      ((hlog.recording hkeeps hwithin (recording_recordPeer _ _)).trans (hlog.note rfl _))
  response _ hwithin _ h :=
    h.of_outbox (relinks_acceptResponse _).outbox
      ((hlog.acceptResponse hkeeps hwithin _).trans (hlog.note rfl _))
  failed _ h := h.of_outbox rfl (hlog.note rfl _)
  handlers _ _ h := h.of_outbox rfl rfl
  resetCallback _ h := h.of_outbox rfl rfl
  linkCallback _ h := h.of_outbox rfl rfl
  available _ h := h.of_outbox rfl (hlog.available _)
  read _ h := h.of_outbox rfl (hlog.read _ _)
  write hasks _ := absurd hasks (hkeeps.asks _)

theorem preserved_written (hvalid : config.fault? = none) (hlog : env.Logged log)
    (hkeeps : c.Keeps log) : Preserved env c (Written config log) where
  upheld := upheld_written hvalid hlog hkeeps
  receives hstation hpassed h := by
    have hfitted := h.fitted.receives hstation
    obtain ⟨_, _, _, _, _, _, rfl⟩ := hstation
    exact h.of_counted hfitted rfl (hlog.passes hpassed)
  counted _ h := h.of_outbox rfl rfl
  named _ h := h.of_outbox rfl rfl

theorem written_created (hlog : env.Logged log)
    (hcreated : create env config w = (.ok e, w')) : Written config log e w' := by
  have hfitted := fitted_created hcreated
  obtain ⟨-, id, rfl, rfl⟩ := created_eq hcreated
  exact ⟨hfitted, [], (fun _ hmem ↦ nomatch hmem), rfl, hlog.created id config _⟩

theorem Course.valid (h : Course env config c polls e w) : config.fault? = none := by
  induction h with
  | created hcreated => exact (created_eq hcreated).1
  | named _ _ ih | poll _ _ ih | run _ _ _ ih => exact ih

/-- In every run, whenever an application has hold of the endpoint, sending writes the encoding of
the payload, once, or nothing if the payload is too large, and changes nothing else; and if the
channel takes everything, all that the endpoint has written decodes to as many frames as it has
counted. -/
theorem Course.send_writes_encoding (h : Course env config c polls e w) :
    (∀ moment, Occurs env e w moment → ∀ type id size,
      Sending env config type id size moment.endpoint moment.surroundings
        (moment.endpoint.send env type id size moment.surroundings)) ∧
    ∀ log, env.Logged log → c.Keeps log →
      ∃ frames, decodeAll maxPayload config.integrity (log w) = ⟨frames, [], none⟩ ∧
        frames.length = e.counters.framesSent := by
  have hvalid := h.valid
  constructor
  · intro moment hoccurs type id size
    have hfitted : e.Fitted config := (preserved_fitted hvalid).course fitted_created h
    exact (hfitted.occurs hvalid h.operated.ready.within hoccurs).sending env hvalid type id size _
  · intro log hlog hkeeps
    have hwritten : Written config log e w :=
      (preserved_written hvalid hlog hkeeps).course (written_created hlog) h
    obtain ⟨frames, hsizes, hcount, hframes⟩ := hwritten.logged
    refine ⟨frames, ?_, hcount⟩
    rw [hframes]
    apply decodeAll_wires
    intro frame hmem
    exact ⟨hsizes frame hmem, Nat.le_of_lt_succ frame.header.length.toNat_lt⟩

/-- Two octets are sent; nine are too many for the region. -/
theorem send_writes_encoding_two :
    let env := (Wire.environment (fun app ↦ (0, app)) .near : Environment (Wire Unit)).logging
    let program : Program (Wire Unit × Bytes) := .ask (.send 7 1 2) fun _ ↦ .finish (.ok ())
    ∃ begun w, create env (.ofSizes 18 18) (.fresh (fun _ ↦ ⟨[], 1⟩) (), []) = (.ok begun, w) ∧
      let ran := (program.run env begun w).2
      (ran.1.send env 7 2 9 ran.2).2.2 = ran.2 ∧
        ∃ frames, decodeAll maxPayload .unchecked ran.2.2 = ⟨frames, [], none⟩ ∧
          frames.length = 1 := by
  intro env program
  obtain ⟨begun, w, hcreated, hsent⟩ : ∃ begun w,
      create env (.ofSizes 18 18) (.fresh (fun _ ↦ ⟨[], 1⟩) (), []) = (.ok begun, w) ∧
        (program.run env begun w).2.1.counters.framesSent = 1 :=
    ⟨ofConfig (.ofSizes 18 18) 1, _, rfl, by decide +kernel⟩
  have hprogram : program.Within (.keeping Prod.snd) :=
    ⟨fun _ h ↦ (nomatch h), fun _ ↦ trivial⟩
  have hcourse : Course env (.ofSizes 18 18) (.keeping Prod.snd) []
      (program.run env begun w).2.1 (program.run env begun w).2.2 :=
    .run program hprogram (.created hcreated)
  obtain ⟨hsends, hlogged⟩ := hcourse.send_writes_encoding
  obtain ⟨frames, hframes, hcount⟩ :=
    hlogged Prod.snd (Environment.logged_logging rfl) (Conduct.keeps_keeping _)
  have hrefused := (hsends ⟨.finish (.ok ()), _, _⟩ (.program _ .here) 7 2 9).untouched
    (.inr (by decide))
  exact ⟨begun, w, hcreated, hrefused, frames, hframes, hcount.trans hsent⟩

end Endpoint

end FramedLink
