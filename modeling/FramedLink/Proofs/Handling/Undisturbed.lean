import FramedLink.Proofs.Handling.Conduct
import FramedLink.Proofs.Handling.Sending
import FramedLink.Proofs.Wire

/-!
# What handling leaves alone

While a packet is handled at one end of a wire, frames are sent, the link changes, and the region of
the packet may be scribbled over. But as long as the application keeps away from the pipe toward its
own end, nothing that receiving depends on changes: the settings, the size of the region, what was
counted as refused, the octets that are ready, and the list of what was dispatched.
-/

namespace FramedLink

/-- Findings are counted on top of what was counted. -/
theorem Counters.refusals_tally {counters counters' : Counters} (findings : List Finding)
    (h : counters'.refusals = counters.refusals) :
    (counters'.tally findings).refusals = (counters.tally findings).refusals := by
  simp only [refusals, Prod.mk.injEq] at h
  simp only [refusals, tally, h]

/-- A change of a station that does not concern receiving, apart from what the region holds. -/
structure Station.Undisturbed (s s' : Station) : Prop where
  config : s'.config = s.config
  reception : s'.reception = { s.reception with region := s'.reception.region }
  capacity : s'.reception.region.capacity = s.reception.region.capacity
  counters : s'.counters.refusals = s.counters.refusals

namespace Station.Undisturbed

variable {s s' s'' : Station}

@[refl]
theorem refl (s : Station) : s.Undisturbed s :=
  ⟨rfl, rfl, rfl, rfl⟩

theorem trans (h : s.Undisturbed s') (h' : s'.Undisturbed s'') : s.Undisturbed s'' where
  config := h'.config.trans h.config
  reception := by rw [h'.reception, h.reception]
  capacity := h'.capacity.trans h.capacity
  counters := h'.counters.trans h.counters

end Station.Undisturbed

theorem Incoming.capacity_perform (inc : Incoming) (op : Incoming.Op) :
    (inc.perform op).2.capacity = inc.capacity := by
  cases op with
  | read type =>
    cases htake : inc.take type.size with
    | error error => simp only [perform, read, htake, Except.map]
    | ok taken =>
      obtain ⟨octets, next⟩ := taken
      obtain ⟨cursor, rfl⟩ := Incoming.eq_of_take htake
      simp only [perform, read, htake, Except.map, capacity]
  | skip count =>
    cases hadvance : inc.advance count with
    | error error => simp only [perform, skip, hadvance, Except.map]
    | ok cursor => simp only [perform, skip, hadvance, Except.map, capacity]
  | store offset octets =>
    simp only [perform, checkSlot]
    split
    · exact Region.size_overwrite _ _ _
    · rfl
  | slot offset size =>
    simp only [perform]
    split <;> rfl
  | openPayload size => rfl
  | rewind => rfl
  | reset => rfl
  | discardFront count filled => exact Region.size_overwrite _ _ _

/-- What has nothing to do with receiving leaves it undisturbed. -/
theorem Endpoint.Aside.undisturbed {ω : Type} {e e' : Endpoint ω} (h : e.Aside e') :
    e.toStation.Undisturbed e'.toStation := by
  refine ⟨h.config, ?_, ?_, h.counters⟩
  · rw [h.reception]
  · rw [h.reception]

namespace Wire

variable {σ : Type} {allowed : Option Nat → Prop} {x : End} {w w' w'' : Wire σ}

/-- A change of the surroundings that concerns neither the octets toward an end nor the list of what
it has dispatched, and keeps the cap within what is allowed. -/
structure Untouched (allowed : Option Nat → Prop) (x : End) (w w' : Wire σ) : Prop where
  octets : (w'.toward x).queue.octets = (w.toward x).queue.octets
  cap : allowed (w.toward x).cap → allowed (w'.toward x).cap
  delivered : deliveries (w'.noted x) = deliveries (w.noted x)

/-- An application that keeps away from the pipe toward its end, except that it may change the cap
within what is allowed. -/
def listening (allowed : Option Nat → Prop) (x : End) : Conduct (Wire σ) where
  asks request := ∀ size, request ≠ .channelRead size
  changes step := ∀ w, Untouched allowed x w (step w) ∧ (step w).noted x = w.noted x

@[refl]
theorem Untouched.refl (w : Wire σ) : Untouched allowed x w w :=
  ⟨rfl, id, rfl⟩

theorem Untouched.trans (h : Untouched allowed x w w') (h' : Untouched allowed x w' w'') :
    Untouched allowed x w w'' :=
  ⟨h'.octets.trans h.octets, h'.cap ∘ h.cap, h'.delivered.trans h.delivered⟩

instance : Trans (@Untouched σ allowed x) (@Untouched σ allowed x) (@Untouched σ allowed x) :=
  ⟨Untouched.trans⟩

theorem untouched_note {event : Event} (h : event.dispatched? = none) :
    Untouched allowed x w (w.note x event) := by
  refine ⟨rfl, id, ?_⟩
  rw [noted_note, deliveries_append]
  simp [deliveries, h]

theorem untouched_draw (clock : σ → Millis × σ) (draw : IdSupply → UInt32 × IdSupply) :
    Untouched allowed x w ((environment clock x).ids.run draw w).2 :=
  ⟨rfl, id, rfl⟩

theorem untouched_now (clock : σ → Millis × σ) :
    Untouched allowed x w ((environment clock x).now w).2 :=
  ⟨rfl, id, rfl⟩

theorem untouched_write (clock : σ → Millis × σ) (octets : Bytes) :
    Untouched allowed x w ((environment clock x).channel.write octets w).2 := by
  have htoward : ((environment clock x).channel.write octets w).2.toward x = w.toward x :=
    Function.update_of_ne (End.ne_other x) ..
  exact ⟨by rw [htoward], by rw [htoward]; exact id, rfl⟩

end Wire

namespace Endpoint

variable {σ : Type} {clock : σ → Millis × σ} {allowed : Option Nat → Prop} {x : End}
variable {e : Endpoint (Wire σ)} {w : Wire σ}

theorem untouched_send (type id : UInt8) (size : Nat) :
    Wire.Untouched allowed x w (e.send (Wire.environment clock x) type id size w).2.2 := by
  have h : Attempt (Wire.environment clock x) type id size e w
    (e.send (Wire.environment clock x) type id size w) := attempt_send type id size
  generalize e.send (Wire.environment clock x) type id size w = result at h ⊢
  cases h with
  | refused error => exact .refl w
  | cut frame sealed error _ _ => exact Wire.untouched_write clock frame
  | sent frame sealed _ _ =>
    exact (Wire.untouched_write clock frame).trans (Wire.untouched_note rfl)

theorem untouched_sendDescription (type id : UInt8) :
    Wire.Untouched allowed x w (e.sendDescription (Wire.environment clock x) type id w).2.2 := by
  unfold sendDescription
  split
  · exact untouched_send type id _
  · exact .refl w

theorem untouched_noteStep {s : Station} {event : Option Event}
    (hevent : ∀ refusal ∈ event, refusal.IsRefusal) :
    Wire.Untouched allowed x w (noteStep (Wire.environment clock x) e w (s, event)).2 := by
  cases event with
  | none => exact .refl w
  | some refusal => exact Wire.untouched_note (hevent refusal rfl).dispatched?

theorem untouched_fireReset (hwithin : e.Within (Wire.listening allowed x)) :
    Wire.Untouched allowed x w (e.fireReset w) := by
  apply @Upheld.fireReset _ _ (fun _ w' ↦ Wire.Untouched allowed x w w') e w ?_ hwithin (.refl w)
  intro w' step hstep h
  exact h.trans (hstep w').1

theorem untouched_fireLink (event : LinkEvent) (hwithin : e.Within (Wire.listening allowed x)) :
    Wire.Untouched allowed x w (e.fireLink event w) := by
  apply @Upheld.fireLink _ _ (fun _ w' ↦ Wire.Untouched allowed x w w') e w ?_ (fun _ ↦ id) hwithin
    event (.refl w)
  intro w' step hstep h
  exact h.trans (hstep w').1

theorem untouched_disconnect (hwithin : e.Within (Wire.listening allowed x)) :
    Wire.Untouched allowed x w (e.disconnect (Wire.environment clock x) w).2 := by
  have h : Disconnection (Wire.environment clock x) e w
    (e.disconnect (Wire.environment clock x) w) := disconnection_disconnect
  generalize e.disconnect (Wire.environment clock x) w = result at h ⊢
  cases h with
  | idle _ => exact .refl w
  | down _ drawn hdrawn =>
    calc
      Wire.Untouched allowed x w drawn.2 := hdrawn ▸ Wire.untouched_draw clock _
      Wire.Untouched allowed x _ (drawn.2.note x (.disconnected e.link.remoteId drawn.1)) :=
        Wire.untouched_note rfl
      Wire.Untouched allowed x _ _ := untouched_fireLink _ hwithin

theorem Recording.untouched {connId : UInt32} {connType : UInt16}
    {result : Endpoint (Wire σ) × Wire σ}
    (h : Recording (Wire.environment clock x) connId connType e w result)
    (hwithin : e.Within (Wire.listening allowed x)) :
    Wire.Untouched allowed x w result.2 := by
  cases h with
  | known _ => exact .refl w
  | renamed _ => exact (Wire.untouched_note rfl).trans (untouched_fireReset hwithin)

theorem Replacement.untouched {connId : UInt32} {result : Endpoint (Wire σ) × Wire σ}
    (h : Replacement connId e w result) (hwithin : e.Within (Wire.listening allowed x)) :
    Wire.Untouched allowed x w result.2 := by
  cases h with
  | same _ => exact .refl w
  | replaced _ _ => exact untouched_fireLink _ hwithin

theorem Raising.untouched {message : ConnectMessage} {result : Endpoint (Wire σ) × Wire σ}
    (h : Raising (Wire.environment clock x) message e w result)
    (hwithin : e.Within (Wire.listening allowed x)) :
    Wire.Untouched allowed x w result.2 := by
  cases h with
  | idle _ => exact .refl w
  | up _ => exact (Wire.untouched_note rfl).trans (untouched_fireLink _ hwithin)

theorem untouched_acceptResponse (message : ConnectMessage)
    (hwithin : e.Within (Wire.listening allowed x)) :
    Wire.Untouched allowed x w (e.acceptResponse (Wire.environment clock x) message w).2 := by
  obtain ⟨dropped, recorded, hdropped, hrecorded, hraised⟩ :=
    @acceptResponse_steps _ (Wire.environment clock x) e w message
  have hanswered : (e.answeredAt ((Wire.environment clock x).now w).1 message.limit).Within
      (Wire.listening allowed x) := hwithin.of_tables rfl
  have hdropped_within : dropped.1.Within (Wire.listening allowed x) :=
    hanswered.of_aside hdropped.aside
  have hrecorded_within : recorded.1.Within (Wire.listening allowed x) :=
    hdropped_within.of_aside hrecorded.aside
  calc
    Wire.Untouched allowed x w ((Wire.environment clock x).now w).2 := Wire.untouched_now clock
    Wire.Untouched allowed x _ dropped.2 := hdropped.untouched hanswered
    Wire.Untouched allowed x _ recorded.2 := hrecorded.untouched hdropped_within
    Wire.Untouched allowed x _ (e.acceptResponse (Wire.environment clock x) message w).2 :=
      hraised.untouched hrecorded_within

/-- Handling does not disturb receiving, whatever the surroundings are. -/
theorem upheld_undisturbed {ω : Type} {env : Environment ω} {c : Conduct ω} (s : Station)
    (header : Header) : Upheld env c header fun e _ ↦ s.Undisturbed e.toStation where
  change _ h := h
  cursor _ h := h.trans ⟨rfl, rfl, rfl, rfl⟩
  incoming _ h := h.trans ⟨rfl, rfl, Incoming.capacity_perform _ _, rfl⟩
  outgoing _ h := h.trans ⟨rfl, rfl, rfl, rfl⟩
  send _ h := h.trans (aside_send _ _ _).undisturbed
  describe _ _ h := h.trans (aside_sendDescription _ _).undisturbed
  now h := h
  silent _ _ h := h
  schedule _ _ h := h.trans ⟨rfl, rfl, rfl, rfl⟩
  disconnect _ h := h.trans aside_disconnect.undisturbed
  request _ _ _ h := h.trans (aside_recordPeer _ _).undisturbed
  response _ _ _ h := h.trans (aside_acceptResponse _).undisturbed
  failed _ h := h
  handlers _ _ h := h.trans ⟨rfl, rfl, rfl, rfl⟩
  resetCallback _ h := h.trans ⟨rfl, rfl, rfl, rfl⟩
  linkCallback _ h := h.trans ⟨rfl, rfl, rfl, rfl⟩
  available _ h := h
  read _ h := h
  write _ h := h

/-- At its end of a wire, an endpoint has not been disturbed in receiving. -/
structure Hears (allowed : Option Nat → Prop) (x : End) (e₀ : Endpoint (Wire σ)) (w₀ : Wire σ)
    (e : Endpoint (Wire σ)) (w : Wire σ) : Prop where
  station : e₀.toStation.Undisturbed e.toStation
  wire : Wire.Untouched allowed x w₀ w

variable {e₀ e' : Endpoint (Wire σ)} {w₀ w' : Wire σ}

theorem Hears.refl (e : Endpoint (Wire σ)) (w : Wire σ) : Hears allowed x e w e w :=
  ⟨.refl _, .refl w⟩

theorem Hears.next (h : Hears allowed x e₀ w₀ e w)
    (hstation : e.toStation.Undisturbed e'.toStation) (hwire : Wire.Untouched allowed x w w') :
    Hears allowed x e₀ w₀ e' w' :=
  ⟨h.station.trans hstation, h.wire.trans hwire⟩

/-- Handling does not disturb receiving. -/
theorem upheld_hears (header : Header) :
    Upheld (Wire.environment clock x) (Wire.listening allowed x) header
      (Hears allowed x e₀ w₀) where
  change hchange h := h.next (.refl _) (hchange _).1
  cursor _ h := h.next ⟨rfl, rfl, rfl, rfl⟩ (.refl _)
  incoming _ h := h.next ⟨rfl, rfl, Incoming.capacity_perform _ _, rfl⟩ (.refl _)
  outgoing _ h := h.next ⟨rfl, rfl, rfl, rfl⟩ (.refl _)
  send _ h := h.next (aside_send _ _ _).undisturbed (untouched_send _ _ _)
  describe _ _ h := h.next (aside_sendDescription _ _).undisturbed (untouched_sendDescription _ _)
  now h := h.next (.refl _) (Wire.untouched_now clock)
  silent _ _ h := h.next (.refl _) (Wire.untouched_note rfl)
  schedule _ _ h := h.next ⟨rfl, rfl, rfl, rfl⟩ (.refl _)
  disconnect hwithin h := h.next aside_disconnect.undisturbed (untouched_disconnect hwithin)
  request _ hwithin _ h :=
    (h.next (.refl _) (Wire.untouched_note rfl)).next (aside_recordPeer _ _).undisturbed
      ((recording_recordPeer _ _).untouched hwithin)
  response _ hwithin _ h :=
    (h.next (.refl _) (Wire.untouched_note rfl)).next (aside_acceptResponse _).undisturbed
      (untouched_acceptResponse _ hwithin)
  failed _ h := h.next (.refl _) (Wire.untouched_note rfl)
  handlers _ _ h := h.next ⟨rfl, rfl, rfl, rfl⟩ (.refl _)
  resetCallback _ h := h.next ⟨rfl, rfl, rfl, rfl⟩ (.refl _)
  linkCallback _ h := h.next ⟨rfl, rfl, rfl, rfl⟩ (.refl _)
  available _ h := h
  read hasks _ := absurd rfl (hasks _)
  write _ h := h.next (.refl _) (Wire.untouched_write clock _)

theorem dispatching_perform {ω : Type} {env : Environment ω} {e : Endpoint ω} {w : ω}
    (request : Request) : (e.perform env w request).2.1.dispatching = e.dispatching := by
  cases request with
  | send type id size => exact (aside_send type id size).dispatching
  | sendWritten type id => exact (aside_send type id _).dispatching
  | requestConnection id => exact (aside_sendDescription _ id).dispatching
  | checkConnection => exact aside_checkConnection.dispatching
  | disconnect => exact aside_disconnect.dispatching
  | incoming _ | outgoing _ | poll | handlerCount _ | channelAvailable | channelRead _
  | channelWrite _ => rfl

theorem dispatching_run {ω : Type} {env : Environment ω} {e : Endpoint ω} {w : ω}
    (program : Program ω) : (program.run env e w).2.1.dispatching = e.dispatching := by
  induction program generalizing e w with
  | finish outcome => rfl
  | ask request next ih => exact (ih _).trans (dispatching_perform request)
  | inspect next ih => exact ih _
  | addHandler type handler next _ ih => exact ih
  | addResetCallback callback next ih => exact ih
  | addLinkCallback callback next ih => exact ih
  | outside step next ih => exact ih _

theorem dispatching_dispatch {ω : Type} {env : Environment ω} {e : Endpoint ω} {w : ω}
    (header : Header) : (e.dispatch env header w).1.dispatching = false := by
  unfold dispatch
  rfl

/-- A dispatch changes nothing that receiving depends on but the list of what was dispatched, which
is longer by its frame. -/
theorem dispatch_undisturbed (header : Header)
    (hwithin : e.Within (Wire.listening allowed x)) :
    let handled := e.dispatch (Wire.environment clock x) header w
    handled.1.Within (Wire.listening allowed x) ∧
      e.toStation.Undisturbed handled.1.toStation ∧
      (handled.2.toward x).queue.octets = (w.toward x).queue.octets ∧
      (allowed (w.toward x).cap → allowed (handled.2.toward x).cap) ∧
      deliveries (handled.2.noted x) =
        deliveries (w.noted x) ++ [⟨header, e.reception.region.payload⟩] := by
  let noted := w.note x (.dispatching header e.reception.region.payload)
  have hupheld := @upheld_hears σ clock allowed x e noted header
  obtain ⟨hkept, hstill⟩ := hupheld.dispatch
    (fun _ h ↦ h.next ⟨rfl, rfl, rfl, rfl⟩ (.refl _))
    (fun h ↦ h.next (.refl _) (Wire.untouched_note rfl)) hwithin (.refl e noted)
  refine ⟨hstill, hkept.station, hkept.wire.octets, hkept.wire.cap, ?_⟩
  rw [hkept.wire.delivered, Wire.noted_note, deliveries_append]
  rfl

/-- After a turn in which a packet was handled, the endpoint is ready for the next one. -/
theorem Receiving.cleared {ω : Type} {config : Config} {e opened handled : Endpoint ω}
    (h : e.Receiving config) (hundisturbed : opened.toStation.Undisturbed handled.toStation)
    (hconfig : opened.config = e.config)
    (hcapacity : opened.reception.region.capacity = e.reception.region.capacity)
    (hidle : handled.dispatching = false) :
    ({ handled with toStation := handled.clearReception } : Endpoint ω).Receiving config where
  config_eq :=
    calc
      handled.config = opened.config := hundisturbed.config
      _ = e.config := hconfig
      _ = config := h.config_eq
  dispatching := hidle
  sound := Reception.sound_clear ((hundisturbed.capacity.trans hcapacity).trans h.sound.room)
  wanted := Reception.wanted_clear _

end Endpoint

end FramedLink
