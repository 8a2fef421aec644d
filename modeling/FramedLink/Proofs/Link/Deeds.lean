import FramedLink.Proofs.Handling.Chronicle
import FramedLink.Proofs.Handling.Written

/-!
# What deeds do to the link

What each deed leaves of the link, and in particular what a check of the connection comes to: it
reads the clock, drops a peer that has been silent for too long, and tries to send a connect request
if one is due then. A request that is tried says what this end says about itself at that moment, and
is sent like anything else (`Endpoint.Asked`).
-/

namespace FramedLink

variable {ω : Type}

namespace Done

variable (env : Environment ω) (done : Done ω)

/-- The reading of the clock by which a check goes. -/
def now : Millis :=
  (env.now done.surroundings).1

/-- What a check goes on with once a peer that has been silent for too long is dropped. -/
def dropped : Endpoint ω × ω :=
  done.endpoint.dropSilentPeer env (done.now env) (env.now done.surroundings).2

def answer : Except EndpointError Bool :=
  (done.endpoint.checkConnection env done.surroundings).1

/-- Whether a deed is a check that tries to send a connect request. -/
def tries : Bool :=
  match done.deed with
  | .check => (done.dropped env).1.requestDue (done.now env)
  | _ => false

/-- Whether a deed takes down a link that was up. -/
def drops : Bool :=
  done.endpoint.link.connected && !(done.left env).1.link.connected

end Done

namespace Endpoint

variable {env : Environment ω} {config : Config} {e : Endpoint ω} {w : ω} {done : Done ω}

/-- The link after taking down one that was up. -/
theorem link_disconnect (hup : e.link.connected = true) :
    (e.disconnect env w).1.link = { e.link with
      connected := false
      remoteId := 0
      remoteLimit := none
      lastResponse := none
      nextRequest := none
      localId := (env.ids.run (IdSupply.drawOther e.link.localId) w).1 } := by
  rw [disconnect, if_pos hup]

theorem disconnect_of_down (hdown : e.link.connected = false) : e.disconnect env w = (e, w) := by
  rw [disconnect, if_neg (Bool.eq_false_iff.mp hdown)]

theorem link_recordPeer (connId : UInt32) (connType : UInt16) :
    (e.recordPeer env connId connType w).1.link =
      { e.link with remoteId := connId, remoteType := connType } := by
  obtain ⟨_, hrecorded⟩ := (@recording_recordPeer ω env e w connId connType).link
  rw [hrecorded]

theorem link_acceptResponse (message : ConnectMessage) :
    (e.acceptResponse env message w).1.link =
      { e.link with
        remoteId := message.connId
        remoteType := message.connType
        remoteLimit := some message.limit
        connected := true
        lastResponse := some (env.now w).1 } := by
  obtain ⟨dropped, recorded, hdropped, hrecorded, hraised⟩ :=
    @acceptResponse_steps ω env e w message
  obtain ⟨_, hdropped_eq, -⟩ := hdropped.link
  obtain ⟨_, hrecorded_eq⟩ := hrecorded.link
  obtain ⟨_, hraised_eq⟩ := hraised.link
  rw [hraised_eq, hrecorded_eq, hdropped_eq]
  rfl

/-- The peer of a checked link has been silent for too long if its last answer is older than the
link allows. -/
theorem isSilent_eq_some_iff {now timeout : Millis} :
    e.isSilent now = some timeout ↔ e.config.quietTimeout = some timeout ∧
      e.link.connected = true ∧
      ∃ last ∈ e.link.lastResponse, last.toNat + timeout.toNat < now.toNat := by
  have hspan (last : Millis) : timeout < now.since last ↔
      last.toNat + timeout.toNat < now.toNat := by
    rw [UInt64.lt_iff_toNat_lt, Millis.toNat_since]
    omega
  unfold isSilent
  cases e.config.quietTimeout with
  | none => simp
  | some quiet =>
    dsimp only
    split
    case isTrue hsilent =>
      rw [Bool.and_eq_true, Option.any_eq_true] at hsilent
      obtain ⟨hup, last, hlast, hlate⟩ := hsilent
      rw [Option.some_inj]
      constructor
      · rintro rfl
        exact ⟨rfl, hup, last, hlast, (hspan last).mp (of_decide_eq_true hlate)⟩
      · rintro ⟨rfl, -⟩
        rfl
    case isFalse hheard =>
      refine ⟨fun h ↦ (nomatch h), ?_⟩
      rintro ⟨hquiet, hup, last, hlast, hlate⟩
      obtain rfl := Option.some_inj.mp hquiet
      refine absurd ?_ hheard
      rw [Bool.and_eq_true, Option.any_eq_true]
      exact ⟨hup, last, hlast, decide_eq_true ((hspan last).mpr hlate)⟩

/-- How dropping a silent peer can end. -/
inductive Dropping (env : Environment ω) (done : Done ω) : Endpoint ω × ω → Prop where
  | heard (hheard : done.endpoint.isSilent (done.now env) = none) :
      Dropping env done (done.endpoint, (env.now done.surroundings).2)
  | silent (timeout : Millis) (hsilent : done.endpoint.isSilent (done.now env) = some timeout) :
      Dropping env done (done.endpoint.disconnect env
        (env.note (.peerSilent done.endpoint.link.remoteId timeout) (env.now done.surroundings).2))

theorem dropping_dropped (env : Environment ω) (done : Done ω) :
    Dropping env done (done.dropped env) := by
  unfold Done.dropped dropSilentPeer
  split
  case h_1 timeout hsilent => exact .silent timeout hsilent
  case h_2 hheard => exact .heard hheard

theorem Fitted.dropped (h : done.endpoint.Fitted config) :
    (done.dropped env).1.Fitted config := by
  have hdropping := dropping_dropped env done
  generalize done.dropped env = dropped at hdropping ⊢
  cases hdropping with
  | heard _ => exact h
  | silent _ _ => exact h.of_outbox relinks_disconnect.outbox

/-- A connect request is due unless the link is up and not checked, or its time has not come. -/
theorem requestDue_iff {now : Millis} :
    e.requestDue now = true ↔
      ¬ (e.link.connected = true ∧ e.config.quietTimeout = none) ∧
        ∀ next ∈ e.link.nextRequest, next ≤ now := by
  have hsettled : (e.link.connected && e.config.quietTimeout.isNone) = true ↔
      e.link.connected = true ∧ e.config.quietTimeout = none := by
    rw [Bool.and_eq_true, Option.isNone_iff_eq_none]
  have hearly : e.link.nextRequest.any (now < ·) = true ↔
      ¬ ∀ next ∈ e.link.nextRequest, next ≤ now := by
    rw [Option.any_eq_true]
    simp only [decide_eq_true_eq, not_forall, UInt64.not_le, exists_prop, Option.mem_def]
  calc
    e.requestDue now = true ↔
        ¬ (e.link.connected && e.config.quietTimeout.isNone) = true ∧
          ¬ e.link.nextRequest.any (now < ·) = true := by
      rw [requestDue, Bool.and_eq_true, Bool.not_eq_true', Bool.not_eq_true', Bool.not_eq_true,
        Bool.not_eq_true]
    _ ↔ ¬ (e.link.connected = true ∧ e.config.quietTimeout = none) ∧
          ∀ next ∈ e.link.nextRequest, next ≤ now := by
      rw [hsettled, hearly, Decidable.not_not]

/-- What becomes of a connect request of an end: its own description is the payload, and that is
sent. -/
def Asked (env : Environment ω) (config : Config) (id : UInt8) (e : Endpoint ω) (w : ω)
    (result : Except EndpointError Unit × Endpoint ω × ω) : Prop :=
  ∃ asker : Endpoint ω, asker.link = e.link ∧
    asker.outgoing.payloadOf ConnectMessage.size =
      ConnectMessage.encode ⟨e.link.localId, config.advertisedLimit, config.connType⟩ ∧
    Sending env config MessageType.connectRequest id ConnectMessage.size asker w result

theorem Fitted.asked (h : e.Fitted config) (hvalid : config.fault? = none) (env : Environment ω)
    (id : UInt8) (w : ω) : Asked env config id e w (e.requestConnection env id w) := by
  obtain ⟨outgoing, hpayload, hsending⟩ := h.describing env hvalid MessageType.connectRequest id w
  exact ⟨{ e with outgoing }, rfl, hpayload, hsending⟩

end Endpoint

namespace Done

variable {env : Environment ω} {config : Config} {done : Done ω}

theorem deed_of_tries (htried : done.tries env = true) : done.deed = .check := by
  unfold tries at htried
  split at htried
  · assumption
  · cases htried

/-- The endpoint of a check that tries to send a request: its next turn comes after the interval,
and an id is used up. -/
def asking (env : Environment ω) (done : Done ω) : Endpoint ω :=
  { (done.dropped env).1 with
    link := { (done.dropped env).1.link with
      nextRequest := some ((done.now env).after (done.dropped env).1.config.connectInterval)
      requestIds := (done.dropped env).1.link.requestIds.advance } }

/-- What a check answers and leaves, if it tries to send a request and if it does not. -/
theorem check_eq (hdeed : done.deed = .check) :
    (done.answer env, done.left env) =
      if done.tries env then
        let sent := (done.asking env).requestConnection env
          (done.dropped env).1.link.requestIds.next (done.dropped env).2
        (sent.1.map fun _ ↦ true, sent.2)
      else (.ok false, done.dropped env) := by
  obtain ⟨deed, e, w⟩ := done
  obtain rfl : deed = .check := hdeed
  change e.checkConnection env w = _
  unfold Endpoint.checkConnection
  dsimp only
  split
  case isTrue hdue => exact (if_pos hdue).symm
  case isFalse hidle => exact (if_neg hidle).symm

/-- A check that tries no request leaves what it goes on with, and what one that tries a request
does besides is sending. -/
theorem left_check (c : Conduct ω) (hdeed : done.deed = .check) :
    done.tries env = false ∧ done.left env = done.dropped env ∨
      done.tries env = true ∧ (done.asking env).Elsewhere c (done.left env).1 ∧
        env.Drifts c (done.dropped env).2 (done.left env).2 := by
  have hleft := congrArg Prod.snd (@check_eq ω env done hdeed)
  cases htried : done.tries env with
  | false =>
    rw [htried] at hleft
    exact .inl ⟨rfl, hleft⟩
  | true =>
    rw [htried] at hleft
    dsimp only at hleft
    rw [hleft]
    exact .inr ⟨rfl, Endpoint.elsewhere_sendDescription _ _⟩

/-- What is left of the link by a check. -/
theorem link_check (hdeed : done.deed = .check) :
    (done.left env).1.link =
      if done.tries env then (done.asking env).link else (done.dropped env).1.link := by
  obtain ⟨hidle, hleft⟩ | ⟨htried, hsent, -⟩ := @left_check ω env done .free hdeed
  · rw [hidle, hleft]
    rfl
  · rw [htried, hsent.link]
    rfl

/-- Which deeds take the link down: a check that finds the peer silent, and taking it down if it was
up. -/
theorem drops_eq (env : Environment ω) (done : Done ω) :
    done.drops env = match done.deed with
      | .check => (done.endpoint.isSilent (done.now env)).isSome
      | .disconnect => done.endpoint.link.connected
      | _ => false := by
  obtain ⟨deed, e, w⟩ := done
  cases deed with
  | register type body => exact Bool.and_not_self _
  | answer id message =>
    change (e.link.connected && !(e.recordPeer env _ _ _).1.link.connected) = false
    rw [Endpoint.link_recordPeer]
    exact Bool.and_not_self _
  | accept id message =>
    change (e.link.connected && !(e.acceptResponse env _ _).1.link.connected) = false
    rw [Endpoint.link_acceptResponse]
    exact Bool.and_false _
  | disconnect =>
    change (e.link.connected && !(e.disconnect env w).1.link.connected) = e.link.connected
    cases hup : e.link.connected with
    | false => exact Bool.false_and _
    | true => rw [Endpoint.link_disconnect hup]; rfl
  | check =>
    let done : Done ω := ⟨.check, e, w⟩
    have hsame : (done.left env).1.link.connected = (done.dropped env).1.link.connected := by
      rw [@link_check ω env done rfl]
      split <;> rfl
    have hdropping := Endpoint.dropping_dropped env done
    change (e.link.connected && !(done.left env).1.link.connected) =
      (e.isSilent (done.now env)).isSome
    rw [hsame]
    generalize done.dropped env = dropped at hdropping ⊢
    cases hdropping with
    | heard hheard =>
      rw [hheard]
      exact Bool.and_not_self _
    | silent timeout hsilent =>
      obtain ⟨-, hup, -⟩ := Endpoint.isSilent_eq_some_iff.mp hsilent
      rw [hsilent, Endpoint.link_disconnect hup, hup]
      rfl

end Done

namespace Endpoint

variable {env : Environment ω} {config : Config} {e : Endpoint ω} {w : ω}

/-- Only the application takes down a link that is not checked. -/
theorem Fitted.drops_of_unchecked {done : Done ω} (h : done.endpoint.Fitted config)
    (hnone : config.quietTimeout = none) (hkept : done.deed ≠ .disconnect) :
    done.drops env = false := by
  rw [Done.drops_eq]
  cases hdeed : done.deed with
  | check =>
    dsimp only
    rw [isSilent, h.config_eq, hnone]
    rfl
  | disconnect => exact absurd hdeed hkept
  | register _ _ | answer _ _ | accept _ _ => rfl

/-- A check leaves the ids of requests as they are until one is tried. -/
theorem requestIds_dropped (env : Environment ω) (done : Done ω) :
    (done.dropped env).1.link.requestIds = done.endpoint.link.requestIds := by
  have hdropping := dropping_dropped env done
  generalize done.dropped env = dropped at hdropping ⊢
  cases hdropping with
  | heard _ => rfl
  | silent timeout hsilent => rw [link_disconnect (isSilent_eq_some_iff.mp hsilent).2.1]

theorem Fitted.left (h : e.Fitted config) (deed : Deed ω) :
    (deed.left env e w).1.Fitted config := by
  cases deed with
  | register type body => exact ⟨h.config_eq, h.room⟩
  | check =>
    let done : Done ω := ⟨.check, e, w⟩
    have hdropped : (done.dropped env).1.Fitted config := @Fitted.dropped ω env config done h
    have hasking : (done.asking env).Fitted config := hdropped.of_sizes rfl rfl
    change (done.left env).1.Fitted config
    obtain ⟨-, hleft⟩ | ⟨-, hsent, -⟩ := @Done.left_check ω env done .free rfl
    · rw [hleft]
      exact hdropped
    · exact hasking.of_sizes hsent.config hsent.room
  | disconnect => exact h.of_outbox relinks_disconnect.outbox
  | answer id message => exact h.of_outbox (relinks_recordPeer _ _).outbox
  | accept id message => exact h.of_outbox (relinks_acceptResponse _).outbox

end Endpoint

end FramedLink
