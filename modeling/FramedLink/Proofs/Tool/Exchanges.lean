import FramedLink.Proofs.Tool.Books
import FramedLink.Proofs.Tool.Serving

/-!
# Exchanges

An endpoint that polls a port where the frame of a single message lies dispatches this message and
nothing else (`Endpoint.poll_message`). What comes of it is told by what holds before and after the
dispatch, and is no concern of receiving (`Endpoint.Aloof`, `Endpoint.Leads`).
-/

namespace FramedLink

namespace Endpoint

variable {σ ι : Type} {port : Port σ ι} {config : Config} {times : Millis → Prop}
variable {e e' : Endpoint (Bench σ ι)} {w w' : Bench σ ι} {id : UInt32} {traffic : Traffic}
variable {journal : List ι} {message : Message} {written : Bytes}

/-- What receiving by itself and counting have no part in. -/
def Aloof (P : Bytes → List ι → Endpoint (Bench σ ι) → Prop) : Prop :=
  ∀ {written journal e} (s : Station), P written journal e → s.config = e.config →
    s.link = e.link → s.outgoing.region = e.outgoing.region →
    P written journal { e with toStation := s }

/-- What a dispatch of a message leads to from some state. -/
def Leads (port : Port σ ι) (times : Millis → Prop) (message : Message)
    (Before After : Bytes → List ι → Endpoint (Bench σ ι) → Prop) : Prop :=
  ∀ (traffic : Traffic) {e w}, Before traffic.written w.journal e →
    e.reception.region.payload = message.payload → port.AtHand traffic w.lines → w.Shows times →
    let handled := e.dispatch port.environment message.frame.header w
    ∃ written, port.AtHand { traffic with written } handled.2.lines ∧ handled.2.Shows times ∧
      After written handled.2.journal handled.1

variable {Before After : Bytes → List ι → Endpoint (Bench σ ι) → Prop}

/-- Before or after the dispatch of the only message among some findings. -/
def Midway (message : Message) (Before After : Bytes → List ι → Endpoint (Bench σ ι) → Prop)
    (found : List Finding) (written : Bytes) (journal : List ι) (e : Endpoint (Bench σ ι)) : Prop :=
  found.filterMap Finding.frame? = [] ∧ Before written journal e ∨
    found.filterMap Finding.frame? = [message.frame] ∧ After written journal e

/-- Where the frame of a message is all that is received, it is dispatched once. -/
theorem sustained_midway {all : Bytes} (hleads : Leads port times message Before After)
    (hbefore : Aloof Before) (hafter : Aloof After)
    (hscan : config.scan all = ⟨[.frame message.frame], []⟩) :
    Sustained port config times all (Midway message Before After) where
  aside s h hconfig hlink _ hregion :=
    h.imp (fun h ↦ ⟨h.1, hbefore s h.2 hconfig hlink hregion⟩)
      fun h ↦ ⟨h.1, hafter s h.2 hconfig hlink hregion⟩
  refused {found more written journal e} h hnone := by
    simp only [Midway, List.filterMap_append, hnone, List.append_nil]
    exact h.imp (fun h ↦ ⟨h.1, hbefore _ h.2 rfl rfl rfl⟩)
      fun h ↦ ⟨h.1, hafter _ h.2 rfl rfl rfl⟩
  deliver {found} traffic {header e w} := by
    intro frame handled h hprefix _ _ hhand hshows
    obtain ⟨rest, hrest⟩ := hprefix
    rw [hscan] at hrest
    cases found with
    | nil =>
      have hframe : frame = message.frame := Finding.frame.inj (List.cons.inj hrest).1
      have hheader : header = message.frame.header := congrArg Frame.header hframe
      have hpayload : e.reception.region.payload = message.payload :=
        congrArg Frame.payload hframe
      have hstart : Before traffic.written w.journal e :=
        h.elim And.right fun h ↦ nomatch h.1
      obtain ⟨written, hhand, hshows, hend⟩ := hleads traffic hstart hpayload hhand hshows
      rw [← hheader] at hhand hshows hend
      exact ⟨written, hhand, hshows, .inr ⟨congrArg (fun frame ↦ [frame]) hframe, hend⟩⟩
    | cons finding found =>
      rw [List.cons_append, List.cons_append] at hrest
      have hnone := List.append_eq_nil_iff.mp (List.cons.inj hrest).2
      exact absurd (List.append_eq_nil_iff.mp hnone.1).2 (List.cons_ne_nil _ _)

/-- An endpoint dispatches the only message that comes through a port. -/
theorem poll_message (hleads : Leads port times message Before After) (hbefore : Aloof Before)
    (hafter : Aloof After) {mode : Integrity} (hmode : config.integrity.Admits mode)
    (hsize : message.payload.length ≤ maxPayload ∧ message.payload.length ≤ config.maxDeclared)
    (hreceiving : e.Receiving config) (hwithin : e.Within .free)
    (hheld : e.reception.held = []) (hdeadline : e.reception.deadline = none)
    {others : List Bytes} (hsound : port.Sound ⟨message.frame.wire mode, written, others⟩ w.lines)
    (hstart : Before written w.journal e) (hshows : w.Shows times)
    (htimes : Punctual config.stallTimeout times) {fuel : Nat}
    (hfuel : (message.frame.wire mode).length < fuel) :
    ∃ e' w' written', e.poll port.environment fuel w = (.done 1, e', w') ∧
      port.AtHand ⟨[], written', others⟩ w'.lines ∧ w'.Shows times ∧
      After written' w'.journal e' := by
  have hannounced := Frame.payloadSize_frame hsize.1
  have hscan : config.scan (message.frame.wire mode) = ⟨[.frame message.frame], []⟩ := by
    have hwires := @Scan.scan_flatMap_wire config.maxDeclared config.integrity mode hmode
      [message.frame] (by
        rintro _ (_ | ⟨_, ⟨⟩⟩)
        exact ⟨hannounced.symm, hannounced ▸ hsize.2⟩)
    rwa [List.flatMap_singleton] at hwires
  have hnothing : config.scan [] = ⟨[], []⟩ := Scan.scan_of_next?_none rfl
  have hserving : Serving port.Sound config times times (Midway message Before After)
      (message.frame.wire mode) others [] e w := by
    refine ⟨hreceiving, hwithin, ?_, ?_, hshows, _, hsound, rfl, rfl, .inl ⟨?_, hstart⟩⟩
    · rw [hheld, hnothing]
    · intro time htime
      rw [hdeadline] at htime
      cases htime
    · rw [hnothing]
      rfl
  obtain ⟨e', w', hpoll, hserved⟩ := hserving.poll (sustained_midway hleads hbefore hafter hscan)
    htimes (fun _ _ ↦ id) hfuel
  obtain ⟨⟨left, written', _⟩, hhand, hall, hothers, hkept⟩ := hserved.kept
  obtain rfl : left = [] := List.append_right_eq_self.mp hall
  obtain rfl := hothers
  rw [hscan] at hpoll hkept
  have houtcome : port.outcome 1 = .done 1 := if_neg fun h ↦ absurd h.2 (by decide)
  refine ⟨e', w', written', hpoll.trans (congrArg (·, e', w') houtcome), hhand, hserved.shows, ?_⟩
  exact hkept.elim (fun h ↦ nomatch h.1) And.right

/-- What a handler of the handshake does is all that becomes of its message if it succeeds. -/
theorem dispatch_handshake_ok {env : Environment (Bench σ ι)} {header : Header}
    {registration : Registration (Bench σ ι)} (hhandlers : e.handlers = handshakeHandlers)
    (hmem : registration ∈ handshakeHandlers) (htype : registration.type = header.type)
    (hran : ({ e with handlers := [], dispatching := true }.withCursor headerSize).runHandler env
      header registration.handler (env.note (.dispatching header e.reception.region.payload) w) =
        (.ok (), e', w')) :
    ∃ counters, e.dispatch env header w =
      ({ e' with
          handlers := handshakeHandlers ++ e'.handlers, dispatching := false, counters }, w') := by
  obtain ⟨counters, after, hdispatch, ⟨-, rfl⟩ | ⟨error, herror, -⟩⟩ :=
    dispatch_handshake hhandlers hmem htype hran
  · exact ⟨counters, hdispatch⟩
  · cases herror

/-- Where callbacks only note something, accepting a response does no more, and the link is up. -/
theorem still_acceptResponse (hresets : ∀ callback ∈ e.resetCallbacks, Notes callback)
    (hlinks : ∀ callback ∈ e.linkCallbacks, ∀ event, Notes (callback event))
    (response : ConnectMessage) (w : Bench σ ι) :
    let accepted := e.acceptResponse port.environment response w
    w.Still accepted.2 ∧ accepted.1.link.connected = true := by
  obtain ⟨dropped, recorded, hdropped, hrecorded, hraised⟩ :=
    @acceptResponse_steps _ port.environment e w response
  generalize e.acceptResponse port.environment response w = accepted at hraised ⊢
  obtain ⟨_, hdropped_eq, -⟩ := hdropped.link
  obtain ⟨_, hrecorded_eq⟩ := hrecorded.link
  have hfirst : w.now.2.Still dropped.2 := by
    cases hdropped with
    | same _ => exact .refl _
    | replaced _ _ => exact still_fireLink (e := e.answeredAt _ _) hlinks _ _
  have hsecond : dropped.2.Still recorded.2 := by
    have hresets : ∀ callback ∈ dropped.1.resetCallbacks, Notes callback := by
      rw [hdropped_eq]
      exact hresets
    cases hrecorded with
    | known _ => exact .refl _
    | renamed _ => exact (dropped.2.still_note _).trans (still_fireReset hresets _)
  have hthird : recorded.2.Still accepted.2 := by
    have hlinks : ∀ callback ∈ recorded.1.linkCallbacks, ∀ event, Notes (callback event) := by
      rw [hrecorded_eq, hdropped_eq]
      exact hlinks
    cases hraised with
    | idle _ => exact .refl _
    | up _ => exact (recorded.2.still_note _).trans (still_fireLink hlinks _ _)
  constructor
  · calc
      w.Still w.now.2 := w.still_now
      Bench.Still _ dropped.2 := hfirst
      Bench.Still _ recorded.2 := hsecond
      Bench.Still _ accepted.2 := hthird
  · obtain ⟨_, hraised_eq⟩ := hraised.link
    rw [hraised_eq]

end Endpoint

end FramedLink
