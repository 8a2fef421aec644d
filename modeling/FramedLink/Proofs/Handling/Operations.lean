import FramedLink.Proofs.Handling.Sending

/-!
# Operations on the link

What each operation on the link can come to, one case after another: taking it down
(`Disconnection`), dropping a peer who turns up under a new id (`Replacement`), taking note of a
peer (`Recording`) and bringing the link up (`Raising`); a response is accepted by the last three in
turn.

Like an attempt to send, all of them have nothing to do with receiving or with what was registered
(`Aside`); and they have nothing to do with sending either (`Relinks`).
-/

namespace FramedLink

namespace Endpoint

variable {ω : Type} {env : Environment ω} {e e' e'' : Endpoint ω} {w : ω}

/-- How taking the link down can end. If it was up, all that was known of the peer is forgotten but
its type, a fresh id is drawn, and the link is reported down under the id of the peer. -/
inductive Disconnection (env : Environment ω) (e : Endpoint ω) (w : ω) :
    Endpoint ω × ω → Prop where
  | idle (hdown : e.link.connected = false) : Disconnection env e w (e, w)
  | down (hup : e.link.connected = true) (drawn : UInt32 × ω)
      (hdrawn : env.ids.run (IdSupply.drawOther e.link.localId) w = drawn) :
      Disconnection env e w
        ({ e with
            link := { e.link with
              connected := false
              remoteId := 0
              remoteLimit := none
              lastResponse := none
              nextRequest := none
              localId := drawn.1 }
            counters := { e.counters with disconnects := e.counters.disconnects + 1 } },
          e.fireLink (.disconnected e.link.remoteId)
            (env.note (.disconnected e.link.remoteId drawn.1) drawn.2))

theorem disconnection_disconnect : Disconnection env e w (e.disconnect env w) := by
  unfold disconnect
  split
  case isTrue hup => exact .down hup _ rfl
  case isFalse hdown => exact .idle (Bool.eq_false_iff.mpr hdown)

/-- How a look at the id of a peer can end. If the link is up to another peer, it goes down and is
reported down, and nothing else is forgotten. -/
inductive Replacement (connId : UInt32) (e : Endpoint ω) (w : ω) : Endpoint ω × ω → Prop where
  | same (hsame : e.link.connected = true → e.link.remoteId = connId) :
      Replacement connId e w (e, w)
  | replaced (hup : e.link.connected = true) (hnew : e.link.remoteId ≠ connId) :
      Replacement connId e w
        ({ e with link := { e.link with connected := false } },
          e.fireLink (.disconnected e.link.remoteId) w)

theorem replacement_dropReplacedPeer (connId : UInt32) :
    Replacement connId e w (e.dropReplacedPeer connId w) := by
  unfold dropReplacedPeer
  split
  case isTrue hreplaced =>
    rw [Bool.and_eq_true, bne_iff_ne] at hreplaced
    exact .replaced hreplaced.1 hreplaced.2.symm
  case isFalse hkept =>
    rw [Bool.and_eq_true, bne_iff_ne, not_and, Decidable.not_not] at hkept
    exact .same fun hup ↦ (hkept hup).symm

/-- All that changes is whether the link is up, and it is up to this peer only. -/
theorem Replacement.link {connId : UInt32} {result : Endpoint ω × ω}
    (h : Replacement connId e w result) :
    ∃ connected, result.1 = { e with link := { e.link with connected } } ∧
      (connected = true → e.link.connected = true ∧ e.link.remoteId = connId) := by
  cases h with
  | same hsame => exact ⟨e.link.connected, rfl, fun hup ↦ ⟨hup, hsame hup⟩⟩
  | replaced _ _ => exact ⟨false, rfl, fun hup ↦ Bool.noConfusion hup⟩

/-- How taking note of a peer can end. A new id is reported to the callbacks. -/
inductive Recording (env : Environment ω) (connId : UInt32) (connType : UInt16) (e : Endpoint ω)
    (w : ω) : Endpoint ω × ω → Prop where
  | known (hsame : e.link.remoteId = connId) :
      Recording env connId connType e w
        ({ e with link := { e.link with remoteType := connType } }, w)
  | renamed (hnew : e.link.remoteId ≠ connId) :
      Recording env connId connType e w
        ({ e with
            link := { e.link with remoteType := connType, remoteId := connId }
            counters := { e.counters with peerResets := e.counters.peerResets + 1 } },
          e.fireReset (env.note (.peerReset e.link.remoteId connId connType) w))

theorem recording_recordPeer (connId : UInt32) (connType : UInt16) :
    Recording env connId connType e w (e.recordPeer env connId connType w) := by
  unfold recordPeer
  dsimp only
  split
  case isTrue hsame => exact .known hsame.symm
  case isFalse hnew => exact .renamed (Ne.symm hnew)

/-- All that changes is by which id and type the peer is known, and a counter. -/
theorem Recording.link {connId : UInt32} {connType : UInt16} {result : Endpoint ω × ω}
    (h : Recording env connId connType e w result) :
    ∃ counters, result.1 =
      { e with
        link := { e.link with remoteType := connType, remoteId := connId }
        counters } := by
  cases h with
  | known hsame =>
    subst hsame
    exact ⟨e.counters, rfl⟩
  | renamed _ => exact ⟨_, rfl⟩

/-- How bringing the link up can end. If it was down, it is reported up with the peer of a
message. -/
inductive Raising (env : Environment ω) (message : ConnectMessage) (e : Endpoint ω) (w : ω) :
    Endpoint ω × ω → Prop where
  | idle (hup : e.link.connected = true) : Raising env message e w (e, w)
  | up (hdown : e.link.connected = false) :
      Raising env message e w
        ({ e with
            link := { e.link with connected := true }
            counters := { e.counters with connects := e.counters.connects + 1 } },
          e.fireLink (.connected message.connId message.connType)
            (env.note (.connected message) w))

theorem raising_bringUp (message : ConnectMessage) :
    Raising env message e w (e.bringUp env message w) := by
  unfold bringUp
  split
  case isTrue hup => exact .idle hup
  case isFalse hdown => exact .up (Bool.eq_false_iff.mpr hdown)

/-- All that changes is that the link is up, and a counter. -/
theorem Raising.link {message : ConnectMessage} {result : Endpoint ω × ω}
    (h : Raising env message e w result) :
    ∃ counters, result.1 = { e with link := { e.link with connected := true }, counters } := by
  cases h with
  | idle hup =>
    rw [← hup]
    exact ⟨e.counters, rfl⟩
  | up _ => exact ⟨_, rfl⟩

/-- The endpoint once its peer has answered at a time with a limit. -/
def answeredAt (e : Endpoint ω) (now : Millis) (limit : UInt16) : Endpoint ω :=
  { e with link := { e.link with remoteLimit := some limit, lastResponse := some now } }

/-- A response is accepted in three operations, once the peer has answered. -/
theorem acceptResponse_steps (message : ConnectMessage) :
    ∃ dropped recorded : Endpoint ω × ω,
      Replacement message.connId (e.answeredAt (env.now w).1 message.limit) (env.now w).2 dropped ∧
      Recording env message.connId message.connType dropped.1 dropped.2 recorded ∧
      Raising env message recorded.1 recorded.2 (e.acceptResponse env message w) :=
  ⟨_, _, replacement_dropReplacedPeer _, recording_recordPeer _ _, raising_bringUp _⟩

end Endpoint

/-- What receiving alone counts. -/
def Counters.refusals (counters : Counters) : Nat × Nat × Nat × Nat :=
  (counters.badMagic, counters.oversize, counters.checksumFailures, counters.stalls)

namespace Endpoint

variable {ω : Type} {env : Environment ω} {e e' e'' : Endpoint ω} {w : ω}

def tables (e : Endpoint ω) :
    List (Registration ω) × List (ω → ω) × List (LinkEvent → ω → ω) :=
  (e.handlers, e.resetCallbacks, e.linkCallbacks)

/-- A change of an endpoint that concerns neither receiving nor what was registered. -/
structure Aside (e e' : Endpoint ω) : Prop where
  config : e'.config = e.config
  reception : e'.reception = e.reception
  dispatching : e'.dispatching = e.dispatching
  counters : e'.counters.refusals = e.counters.refusals
  tables : e'.tables = e.tables

@[refl]
theorem Aside.refl (e : Endpoint ω) : e.Aside e :=
  ⟨rfl, rfl, rfl, rfl, rfl⟩

theorem Aside.trans (h : e.Aside e') (h' : e'.Aside e'') : e.Aside e'' where
  config := h'.config.trans h.config
  reception := h'.reception.trans h.reception
  dispatching := h'.dispatching.trans h.dispatching
  counters := h'.counters.trans h.counters
  tables := h'.tables.trans h.tables

instance : Trans (@Aside ω) (@Aside ω) (@Aside ω) :=
  ⟨Aside.trans⟩

theorem aside_send (type id : UInt8) (size : Nat) : e.Aside (e.send env type id size w).2.1 := by
  have h : Attempt env type id size e w (e.send env type id size w) := attempt_send type id size
  generalize e.send env type id size w = result at h ⊢
  cases h <;> exact ⟨rfl, rfl, rfl, rfl, rfl⟩

theorem aside_sendDescription (type id : UInt8) :
    e.Aside (e.sendDescription env type id w).2.1 := by
  have hwritten (outgoing : Outgoing) : e.Aside { e with outgoing } := ⟨rfl, rfl, rfl, rfl, rfl⟩
  unfold sendDescription
  split
  · exact (hwritten _).trans (aside_send type id _)
  · exact hwritten _

theorem Disconnection.aside {result : Endpoint ω × ω} (h : Disconnection env e w result) :
    e.Aside result.1 := by
  cases h <;> exact ⟨rfl, rfl, rfl, rfl, rfl⟩

theorem Replacement.aside {connId : UInt32} {result : Endpoint ω × ω}
    (h : Replacement connId e w result) : e.Aside result.1 := by
  cases h <;> exact ⟨rfl, rfl, rfl, rfl, rfl⟩

theorem Recording.aside {connId : UInt32} {connType : UInt16} {result : Endpoint ω × ω}
    (h : Recording env connId connType e w result) : e.Aside result.1 := by
  cases h <;> exact ⟨rfl, rfl, rfl, rfl, rfl⟩

theorem Raising.aside {message : ConnectMessage} {result : Endpoint ω × ω}
    (h : Raising env message e w result) : e.Aside result.1 := by
  cases h <;> exact ⟨rfl, rfl, rfl, rfl, rfl⟩

theorem aside_disconnect : e.Aside (e.disconnect env w).1 :=
  disconnection_disconnect.aside

theorem aside_dropSilentPeer (now : Millis) : e.Aside (e.dropSilentPeer env now w).1 := by
  unfold dropSilentPeer
  split
  · exact aside_disconnect
  · exact .refl e

theorem aside_checkConnection : e.Aside (e.checkConnection env w).2.1 := by
  have hdropped : e.Aside (e.dropSilentPeer env (env.now w).1 (env.now w).2).1 :=
    aside_dropSilentPeer _
  unfold checkConnection
  dsimp only
  generalize e.dropSilentPeer env (env.now w).1 (env.now w).2 = dropped at hdropped ⊢
  split
  · calc
      e.Aside dropped.1 := hdropped
      Aside _ { dropped.1 with
          link := { dropped.1.link with
            nextRequest := some ((env.now w).1.after dropped.1.config.connectInterval)
            requestIds := dropped.1.link.requestIds.take.2 } } := ⟨rfl, rfl, rfl, rfl, rfl⟩
      Aside _ _ := aside_sendDescription _ _
  · exact hdropped

theorem aside_recordPeer (connId : UInt32) (connType : UInt16) :
    e.Aside (e.recordPeer env connId connType w).1 :=
  (recording_recordPeer connId connType).aside

theorem aside_acceptResponse (message : ConnectMessage) :
    e.Aside (e.acceptResponse env message w).1 := by
  obtain ⟨dropped, recorded, hdropped, hrecorded, hraised⟩ :=
    @acceptResponse_steps _ env e w message
  calc
    e.Aside (e.answeredAt (env.now w).1 message.limit) := ⟨rfl, rfl, rfl, rfl, rfl⟩
    Aside _ dropped.1 := hdropped.aside
    Aside _ recorded.1 := hrecorded.aside
    Aside _ (e.acceptResponse env message w).1 := hraised.aside

/-- A change of an endpoint in its link, and in what is counted of the link. -/
def Relinks (e e' : Endpoint ω) : Prop :=
  ∃ link peerResets connects disconnects,
    e' = { e with link, counters := { e.counters with peerResets, connects, disconnects } }

@[refl]
theorem Relinks.refl (e : Endpoint ω) : e.Relinks e :=
  ⟨_, _, _, _, rfl⟩

theorem Relinks.trans (h : e.Relinks e') (h' : e'.Relinks e'') : e.Relinks e'' := by
  obtain ⟨_, _, _, _, rfl⟩ := h
  obtain ⟨_, _, _, _, rfl⟩ := h'
  exact ⟨_, _, _, _, rfl⟩

instance : Trans (@Relinks ω) (@Relinks ω) (@Relinks ω) :=
  ⟨Relinks.trans⟩

theorem relinks_disconnect : e.Relinks (e.disconnect env w).1 := by
  have h : Disconnection env e w (e.disconnect env w) := disconnection_disconnect
  generalize e.disconnect env w = result at h ⊢
  cases h <;> exact ⟨_, _, _, _, rfl⟩

theorem Recording.relinks {connId : UInt32} {connType : UInt16} {result : Endpoint ω × ω}
    (h : Recording env connId connType e w result) : e.Relinks result.1 := by
  cases h <;> exact ⟨_, _, _, _, rfl⟩

theorem relinks_recordPeer (connId : UInt32) (connType : UInt16) :
    e.Relinks (e.recordPeer env connId connType w).1 :=
  (recording_recordPeer connId connType).relinks

theorem relinks_acceptResponse (message : ConnectMessage) :
    e.Relinks (e.acceptResponse env message w).1 := by
  obtain ⟨dropped, recorded, hdropped, hrecorded, hraised⟩ :=
    @acceptResponse_steps _ env e w message
  calc
    e.Relinks (e.answeredAt (env.now w).1 message.limit) := ⟨_, _, _, _, rfl⟩
    Relinks _ dropped.1 := by cases hdropped <;> exact ⟨_, _, _, _, rfl⟩
    Relinks _ recorded.1 := hrecorded.relinks
    Relinks _ (e.acceptResponse env message w).1 := by
      generalize e.acceptResponse env message w = result at hraised ⊢
      cases hraised <;> exact ⟨_, _, _, _, rfl⟩

end Endpoint

end FramedLink
