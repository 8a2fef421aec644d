import FramedLink.Proofs.Link.Messages
import FramedLink.Proofs.Link.Requests

/-!
# When a silent peer is dropped

A link with a quiet timeout is checked: a check of the connection takes it down just if the connect
response that was accepted last is older than the timeout. The endpoint goes by a time that it keeps
in its link and forgets when that goes down; `lastAnswer` reads the same time off the history of a
run (`Endpoint.Attested`). In the same call a fresh id is drawn, the link is reported down, and a
connect request under the fresh id is tried, in this order (`Endpoint.Renewed`). A link without a
quiet timeout stays up until the application takes it down.
-/

namespace FramedLink

variable {ω : Type}

namespace IdSupply

def Nonzero (supply : IdSupply) : Prop :=
  (∀ id ∈ supply.prescribed, id ≠ 0) ∧ supply.next ≠ 0

theorem successor_ne_zero (id : UInt32) : successor id ≠ 0 := by
  unfold successor
  split
  · decide
  · assumption

theorem drawOther_ne_zero {supply : IdSupply} (h : supply.Nonzero) (present : UInt32) :
    (supply.drawOther present).1 ≠ 0 := by
  obtain ⟨prescribed, next⟩ := supply
  obtain ⟨hprescribed, hnext⟩ := h
  unfold drawOther
  dsimp only at hprescribed hnext ⊢
  induction prescribed with
  | nil =>
    unfold drawOtherFrom
    split
    · exact successor_ne_zero next
    · exact hnext
  | cons id rest ih =>
    rw [List.forall_mem_cons] at hprescribed
    unfold drawOtherFrom
    split
    · exact ih hprescribed.2
    · exact hprescribed.1

end IdSupply

namespace Done

variable (env : Environment ω) (done : Done ω)

/-- The reading of the clock at which a deed accepts a connect response, if it does. -/
def answered? : Option Millis :=
  match done.deed with
  | .accept id message =>
    some (env.now (env.note (.responseReceived id message) done.surroundings)).1
  | _ => none

/-- The surroundings in which it has been noted that the peer was silent for too long. -/
def told (quiet : Millis) : ω :=
  env.note (.peerSilent done.endpoint.link.remoteId quiet) (env.now done.surroundings).2

def drawn (quiet : Millis) : UInt32 × ω :=
  env.ids.run (IdSupply.drawOther done.endpoint.link.localId) (done.told env quiet)

end Done

/-- The reading of the clock at which a connect response was accepted last. -/
def lastAnswer (env : Environment ω) (deeds : List (Done ω)) : Option Millis :=
  (deeds.filterMap (Done.answered? env)).getLast?

theorem lastAnswer_append (env : Environment ω) (deeds : List (Done ω)) (done : Done ω) :
    lastAnswer env (deeds ++ [done]) = (done.answered? env).or (lastAnswer env deeds) := by
  rw [lastAnswer, List.filterMap_append, List.getLast?_append, lastAnswer]
  cases hanswered : done.answered? env with
  | none => rw [List.filterMap_cons_none hanswered]; rfl
  | some reading => rw [List.filterMap_cons_some hanswered]; rfl

namespace Endpoint

variable {env : Environment ω} {c : Conduct ω} {config : Config}
variable {e e' first : Endpoint ω} {w w' begun : ω} {done : Done ω}
variable {packets : List Frame} {before deeds : List (Done ω)}

/-- An endpoint whose link is up goes by the answer that was last in its history. -/
structure Attested (env : Environment ω) (config : Config) (deeds : List (Done ω))
    (e : Endpoint ω) : Prop where
  fitted : e.Fitted config
  answered : e.link.connected = true → ∃ last, lastAnswer env deeds = some last ∧
    e.link.lastResponse = some last

/-- Where a deed leaves the link up, it has accepted a response, or the link was up with the answer
that it had. -/
theorem lastResponse_left (env : Environment ω) (done : Done ω)
    (hup : (done.left env).1.link.connected = true) :
    (∃ last, done.answered? env = some last ∧ (done.left env).1.link.lastResponse = some last) ∨
      done.answered? env = none ∧ done.endpoint.link.connected = true ∧
        (done.left env).1.link.lastResponse = done.endpoint.link.lastResponse := by
  obtain ⟨deed, e, w⟩ := done
  cases deed with
  | register type body => exact .inr ⟨rfl, hup, rfl⟩
  | accept id message =>
    refine .inl ⟨_, rfl, ?_⟩
    change (e.acceptResponse env _ _).1.link.lastResponse = _
    rw [link_acceptResponse]
  | answer id message =>
    change (e.recordPeer env _ _ _).1.link.connected = true at hup
    change _ ∨ _ ∧ _ ∧ (e.recordPeer env _ _ _).1.link.lastResponse = _
    rw [link_recordPeer] at hup ⊢
    exact .inr ⟨rfl, hup, rfl⟩
  | disconnect =>
    change (e.disconnect env w).1.link.connected = true at hup
    cases hbefore : e.link.connected with
    | true =>
      rw [link_disconnect hbefore] at hup
      cases hup
    | false =>
      rw [disconnect_of_down hbefore, hbefore] at hup
      cases hup
  | check =>
    let done : Done ω := ⟨.check, e, w⟩
    have hsame : (done.left env).1.link.connected = (done.dropped env).1.link.connected ∧
        (done.left env).1.link.lastResponse = (done.dropped env).1.link.lastResponse := by
      rw [@Done.link_check ω env done rfl]
      split <;> exact ⟨rfl, rfl⟩
    have hdropping := dropping_dropped env done
    change (done.left env).1.link.connected = true at hup
    change _ ∨ _ ∧ _ ∧ (done.left env).1.link.lastResponse = _
    rw [hsame.1] at hup
    rw [hsame.2]
    generalize done.dropped env = dropped at hdropping hup ⊢
    cases hdropping with
    | heard _ => exact .inr ⟨rfl, hup, rfl⟩
    | silent timeout hsilent =>
      rw [link_disconnect (isSilent_eq_some_iff.mp hsilent).2.1] at hup
      cases hup

theorem chronicled_attested :
    Chronicled env c fun deeds e _ ↦ Attested env config deeds e where
  elsewhere h hsame _ :=
    ⟨h.fitted.of_sizes hsame.config hsame.room, by rw [hsame.link]; exact h.answered⟩
  done {deeds e w} deed h := by
    refine ⟨h.fitted.left deed, fun hup ↦ ?_⟩
    rw [lastAnswer_append]
    obtain ⟨last, hanswered, hresponse⟩ | ⟨hnone, hbefore, hsame⟩ :=
      lastResponse_left env ⟨deed, e, w⟩ hup
    · exact ⟨last, by rw [hanswered, Option.some_or], hresponse⟩
    · obtain ⟨last, hlast, hresponse⟩ := h.answered hbefore
      exact ⟨last, by rw [hnone, Option.none_or, hlast], hsame.trans hresponse⟩
  named _ h := ⟨⟨h.fitted.config_eq, h.fitted.room⟩, h.answered⟩

theorem attested_created (hcreated : create env config w = (.ok e, w')) :
    Attested env config [] e := by
  have hfitted := fitted_created hcreated
  obtain ⟨-, id, rfl, -⟩ := created_eq hcreated
  exact ⟨hfitted, fun hup ↦ nomatch hup⟩

/-! ## Checks of a link -/

/-- How a check goes on that takes the link down: everything known of the peer but its type is
forgotten, the endpoint goes by a fresh id, and once the link has been reported down, a connect
request under this id is tried. -/
structure Renewed (env : Environment ω) (config : Config) (quiet : Millis) (done : Done ω) :
    Prop where
  forgotten : (done.left env).1.link.connected = false ∧ (done.left env).1.link.remoteId = 0 ∧
    (done.left env).1.link.remoteLimit = none
  renamed : (done.left env).1.link.localId = (done.drawn env quiet).1 ∧
    (done.drawn env quiet).1 ≠ done.endpoint.link.localId ∧
    ((env.ids.get (done.told env quiet)).Nonzero → (done.drawn env quiet).1 ≠ 0)
  asks : ∃ id asker sent, asker.link.localId = (done.drawn env quiet).1 ∧
    Asked env config id asker
      (done.endpoint.fireLink (.disconnected done.endpoint.link.remoteId)
        (env.note (.disconnected done.endpoint.link.remoteId (done.drawn env quiet).1)
          (done.drawn env quiet).2)) sent ∧
    done.answer env = sent.1.map (fun _ ↦ true) ∧ done.left env = sent.2

/-- What a check does about the silence of the peer, in view of what was done before. -/
structure Supervised (env : Environment ω) (config : Config) (before : List (Done ω))
    (done : Done ω) : Prop where
  /-- A checked link is taken down just if the last answer is older than the timeout. -/
  drops_iff : ∀ quiet ∈ config.quietTimeout, done.drops env = true ↔
    done.endpoint.link.connected = true ∧
      ∃ last ∈ lastAnswer env before, last.toNat + quiet.toNat < (done.now env).toNat
  /-- So it is up afterwards only with an answer that is not older. -/
  recent : ∀ quiet ∈ config.quietTimeout, (done.left env).1.link.connected = true →
    ∃ last ∈ lastAnswer env before, (done.now env).toNat ≤ last.toNat + quiet.toNat
  renewed : ∀ quiet ∈ config.quietTimeout, done.drops env = true → Renewed env config quiet done
  /-- Any other link is left as it is. -/
  unchecked : config.quietTimeout = none → done.drops env = false

/-- What a silent peer is dropped by. -/
theorem Attested.isSilent_iff (h : Attested env config before done.endpoint) {quiet : Millis}
    (hquiet : config.quietTimeout = some quiet) :
    (done.endpoint.isSilent (done.now env)).isSome = true ↔
      done.endpoint.link.connected = true ∧
        ∃ last ∈ lastAnswer env before, last.toNat + quiet.toNat < (done.now env).toNat := by
  rw [Option.isSome_iff_exists]
  constructor
  · rintro ⟨timeout, hsilent⟩
    obtain ⟨htimeout, hup, last, hlast, hlate⟩ := isSilent_eq_some_iff.mp hsilent
    obtain ⟨answer, hanswer, hresponse⟩ := h.answered hup
    rw [h.fitted.config_eq, hquiet] at htimeout
    obtain rfl := Option.some_inj.mp htimeout
    obtain rfl := Option.some_inj.mp (hresponse.symm.trans hlast)
    exact ⟨hup, answer, hanswer, hlate⟩
  · rintro ⟨hup, last, hlast, hlate⟩
    obtain ⟨answer, hanswer, hresponse⟩ := h.answered hup
    obtain rfl := Option.some_inj.mp (hanswer.symm.trans hlast)
    refine ⟨quiet, isSilent_eq_some_iff.mpr ⟨?_, hup, answer, hresponse, hlate⟩⟩
    rw [h.fitted.config_eq, hquiet]

/-- The link that a check takes down was up, and it is taken down once the silence has been
noted. -/
theorem Fitted.dropped_of_drops (h : done.endpoint.Fitted config) (hdeed : done.deed = .check)
    {quiet : Millis} (hquiet : config.quietTimeout = some quiet) (hdrops : done.drops env = true) :
    done.endpoint.link.connected = true ∧
      done.dropped env = done.endpoint.disconnect env (done.told env quiet) := by
  have hdropping := dropping_dropped env done
  rw [Done.drops_eq, hdeed] at hdrops
  generalize done.dropped env = dropped at hdropping ⊢
  cases hdropping with
  | heard hheard =>
    rw [hheard] at hdrops
    cases hdrops
  | silent timeout hsilent =>
    obtain ⟨htimeout, hup, -⟩ := isSilent_eq_some_iff.mp hsilent
    rw [h.config_eq, hquiet] at htimeout
    obtain rfl := Option.some_inj.mp htimeout
    exact ⟨hup, rfl⟩

theorem Attested.renewed (h : Attested env config before done.endpoint)
    (hvalid : config.fault? = none) (hdeed : done.deed = .check) {quiet : Millis}
    (hquiet : config.quietTimeout = some quiet) (hdrops : done.drops env = true) :
    Renewed env config quiet done := by
  have htried := tries_of_drops hdeed hdrops
  have heq := @Done.check_eq ω env done hdeed
  have hlink := @Done.link_check ω env done hdeed
  rw [htried] at heq hlink
  have hfitted : (done.asking env).Fitted config :=
    (@Fitted.dropped ω env config done h.fitted).of_sizes rfl rfl
  obtain ⟨hup, hdropped⟩ := h.fitted.dropped_of_drops hdeed hquiet hdrops
  have hdropped_link := congrArg (fun dropped ↦ dropped.1.link) hdropped
  rw [link_disconnect hup] at hdropped_link
  have hdropped_world : (done.dropped env).2 =
      done.endpoint.fireLink (.disconnected done.endpoint.link.remoteId)
        (env.note (.disconnected done.endpoint.link.remoteId (done.drawn env quiet).1)
          (done.drawn env quiet).2) := by
    rw [hdropped, disconnect, if_pos hup]
    rfl
  have hasking : (done.asking env).link.localId = (done.drawn env quiet).1 := by
    change (done.dropped env).1.link.localId = _
    rw [hdropped_link]
    rfl
  constructor
  case forgotten =>
    rw [hlink, if_pos rfl]
    change (done.dropped env).1.link.connected = false ∧ (done.dropped env).1.link.remoteId = 0 ∧
      (done.dropped env).1.link.remoteLimit = none
    rw [hdropped_link]
    exact ⟨rfl, rfl, rfl⟩
  case renamed =>
    refine ⟨?_, IdSupply.drawOther_ne _ _, fun hnonzero ↦ IdSupply.drawOther_ne_zero hnonzero _⟩
    rw [hlink, if_pos rfl, hasking]
  case asks =>
    refine ⟨(done.dropped env).1.link.requestIds.next, done.asking env, _, hasking, ?_,
      congrArg Prod.fst heq, congrArg Prod.snd heq⟩
    rw [← hdropped_world]
    exact hfitted.asked hvalid env _ _

theorem Attested.supervised (h : Attested env config before done.endpoint)
    (hvalid : config.fault? = none) (hdeed : done.deed = .check) :
    Supervised env config before done := by
  have hdrops (quiet : Millis) (hquiet : config.quietTimeout = some quiet) :
      done.drops env = true ↔ done.endpoint.link.connected = true ∧
        ∃ last ∈ lastAnswer env before, last.toNat + quiet.toNat < (done.now env).toNat := by
    rw [← h.isSilent_iff hquiet, Done.drops_eq, hdeed]
  constructor
  case drops_iff => exact hdrops
  case recent =>
    intro quiet hquiet hup
    have hkept : done.drops env = false := by
      rw [Done.drops, hup, Bool.not_true, Bool.and_false]
    obtain ⟨_, hanswered, -⟩ | ⟨-, hbefore, -⟩ := lastResponse_left env done hup
    · rw [Done.answered?, hdeed] at hanswered
      cases hanswered
    · obtain ⟨last, hlast, -⟩ := h.answered hbefore
      refine ⟨last, hlast, Nat.le_of_not_lt fun hlate ↦ ?_⟩
      rw [(hdrops quiet hquiet).mpr ⟨hbefore, last, hlast, hlate⟩] at hkept
      cases hkept
  case renewed => exact fun quiet hquiet ↦ h.renewed hvalid hdeed hquiet
  case unchecked =>
    intro hnone
    exact h.fitted.drops_of_unchecked hnone (by rw [hdeed]; nofun)

/-- Nothing but taking it down ends a link that is not checked. -/
theorem chronicled_lasting (hnone : config.quietTimeout = none) :
    Chronicled env c fun deeds e _ ↦ e.Fitted config ∧
      ((∀ done ∈ deeds, done.deed ≠ .disconnect) → e.link.connected = true) where
  elsewhere h hsame _ :=
    ⟨h.1.of_sizes hsame.config hsame.room, by rw [hsame.link]; exact h.2⟩
  done {deeds e w} deed h := by
    refine ⟨h.1.left deed, fun hkept ↦ ?_⟩
    rw [List.forall_mem_append, List.forall_mem_singleton] at hkept
    have hdrops : Done.drops env ⟨deed, e, w⟩ = false :=
      @Fitted.drops_of_unchecked ω env config ⟨deed, e, w⟩ h.1 hnone hkept.2
    rw [Done.drops, h.2 hkept.1, Bool.true_and, Bool.not_eq_false'] at hdrops
    exact hdrops
  named _ h := ⟨⟨h.1.config_eq, h.1.room⟩, h.2⟩

/-- In every run, each check of the connection supervises the link by the connect response that was
accepted last; a link that is not checked stays up as long as the application does not take it down;
and the responses that are accepted come from the packets of their type that are handed over with at
least eight octets of payload. -/
theorem Chronicle.check_drops_silent_peer (hcreated : create env config w' = (.ok first, begun))
    (h : Chronicle env c first begun packets deeds e w) :
    InContext (fun before done ↦ done.deed = .check → Supervised env config before done) deeds ∧
    (config.quietTimeout = none → ∀ {morePackets : List Frame} {more : List (Done ω)}
      {later : Endpoint ω} {found : ω}, Chronicle env c e w morePackets more later found →
      (∀ done ∈ more, done.deed ≠ .disconnect) → e.link.connected = true →
        later.link.connected = true) ∧
    Sourced c packets deeds := by
  have hfirst := handlers_created hcreated
  have hvalid : config.fault? = none := (created_eq hcreated).1
  obtain ⟨hattested, hthroughout⟩ := chronicled_attested.chronicle h (enlists_builtins hfirst)
    (attested_created hcreated)
  refine ⟨?_, ?_, h.sourced hfirst⟩
  · intro before done after hsplit hdeed
    exact (hthroughout before done after hsplit).supervised hvalid hdeed
  · intro hnone morePackets more later found hmore hkept hup
    obtain ⟨-, hlast⟩ := ((chronicled_lasting hnone).chronicle hmore
      (h.enlists (enlists_builtins hfirst)) ⟨hattested.fitted, fun _ ↦ hup⟩).1
    exact hlast hkept

/-- Octets arrive, and the clock comes to a time. -/
def arriving (octets : Bytes) (time : Millis) : Program (Wire Millis) :=
  .outside (fun w ↦ { (Wire.pipe .near).modify (Pipe.feed octets) w with app := time }) fun _ ↦
    .finish (.ok ())

def checking : Program (Wire Millis) :=
  .ask .checkConnection fun _ ↦ .finish (.ok ())

theorem deeds_checking (env : Environment (Wire Millis)) (e : Endpoint (Wire Millis))
    (w : Wire Millis) : checking.deeds env e w = [⟨.check, e, w⟩] :=
  rfl

theorem within_arriving (octets : Bytes) (time : Millis) :
    (arriving octets time).Within .reading :=
  ⟨trivial, fun _ ↦ trivial⟩

theorem within_checking : checking.Within .reading :=
  ⟨fun _ hnone ↦ (nomatch hnone), fun _ ↦ trivial⟩

/-- A response brings a link up, and a check that comes too late takes it down again. -/
theorem check_drops_silent_peer_late :
    let env : Environment (Wire Millis) := Wire.environment (fun app ↦ (app, app)) .near
    let config : Config := { Config.ofSizes 18 18 with quietTimeout := some 1000 }
    let response := Frame.wire .unchecked ⟨.plain 1 0 8, ConnectMessage.encode ⟨1, 52, 7⟩⟩
    ∃ begun w, create env config (.fresh (fun _ ↦ ⟨[], 1⟩) 0) = (.ok begun, w) ∧
      let told := ((arriving response 0).run env begun w).2
      let polled := (told.1.poll env 19 told.2).2
      let late := ((arriving [] 1001).run env polled.1 polled.2).2
      let done : Done (Wire Millis) := ⟨.check, late.1, late.2⟩
      ∃ packets before, Chronicle env .reading begun w packets before late.1 late.2 ∧
        done.drops env = true ∧ (∃ last ∈ lastAnswer env before, last.toNat + 1000 < 1001) ∧
        (done.left env).1.link.connected = false ∧
        before.filterMap Done.handshake? = packets.filterMap Frame.handshake? := by
  intro env config response
  let begun : Endpoint (Wire Millis) := ofConfig config 1
  let w := (create env config (.fresh (fun _ ↦ ⟨[], 1⟩) 0)).2
  have hcreated : create env config (.fresh (fun _ ↦ ⟨[], 1⟩) 0) = (.ok begun, w) := rfl
  refine ⟨begun, w, hcreated, ?_⟩
  intro told polled late done
  have hdrops : done.drops env = true := by decide +kernel
  have hnow : (done.now env).toNat = 1001 := by decide +kernel
  have hstart : Chronicle env .reading begun w [] [] begun w := .start
  obtain ⟨deeds, htold⟩ : ∃ deeds, Chronicle env .reading begun w [] deeds told.1 told.2 :=
    ⟨_, hstart.run _ (within_arriving response 0)⟩
  clear_value told
  obtain ⟨packets, more, hpolled⟩ : ∃ packets more,
      Chronicle env .reading begun w packets more polled.1 polled.2 :=
    let ⟨_, _, hpolled⟩ := htold.poll 19
    ⟨_, _, hpolled⟩
  clear_value polled
  obtain ⟨before, hlate⟩ : ∃ before, Chronicle env .reading begun w packets before late.1 late.2 :=
    ⟨_, hpolled.run _ (within_arriving [] 1001)⟩
  clear_value late
  have hchecked := hlate.run checking within_checking
  rw [deeds_checking] at hchecked
  obtain ⟨hsupervised, -, hsourced⟩ := Chronicle.check_drops_silent_peer hcreated hchecked
  have hcheck : Supervised env config before done := hsupervised before done [] rfl rfl
  obtain ⟨-, last, hlast, hold⟩ := (hcheck.drops_iff 1000 rfl).mp hdrops
  rw [hnow] at hold
  have hread := hsourced.messages fun _ hasked ↦ hasked
  rw [List.filterMap_append] at hread
  exact ⟨packets, before, hlate, hdrops, ⟨last, hlast, hold⟩,
    (hcheck.renewed 1000 rfl hdrops).forgotten.1, (List.append_nil _).symm.trans hread⟩

/-- A handler for connect responses that opens eight octets of payload, whatever the packet has,
lets an empty one pass for an answer: at 1200 the last response with a payload is more than 1000
old, and the link stays up. -/
theorem answered_without_payload :
    let env : Environment (Wire Millis) := Wire.environment (fun app ↦ (app, app)) .near
    let config : Config := { Config.ofSizes 18 18 with quietTimeout := some 1000 }
    let response : Frame := ⟨.plain 1 0 8, ConnectMessage.encode ⟨0x10000, 52, 7⟩⟩
    let empty : Frame := ⟨.plain 1 0 0, []⟩
    ∃ begun w, create env config (.fresh (fun _ ↦ ⟨[], 1⟩) 0) = (.ok begun, w) ∧
      let opening : Program (Wire Millis) := .addHandler MessageType.connectResponse
        (fun _ ↦ .ask (.incoming (.openPayload 8)) fun _ ↦ .finish (.ok ()))
        (arriving (response.wire .unchecked) 0)
      let told := (opening.run env begun w).2
      let first := (told.1.poll env 19 told.2).2
      let again := ((arriving (empty.wire .unchecked) 600).run env first.1 first.2).2
      let second := (again.1.poll env 11 again.2).2
      let late := ((arriving [] 1200).run env second.1 second.2).2
      let done : Done (Wire Millis) := ⟨.check, late.1, late.2⟩
      deliveries (first.2.noted .near) = [response] ∧ (env.now first.2).1 = 0 ∧
        deliveries (second.2.noted .near) = [response, empty] ∧
        late.1.link.connected = true ∧ done.now env = 1200 ∧
        (done.left env).1.link.connected = true := by
  intro env config response empty
  exact ⟨ofConfig config 1, _, rfl, by decide +kernel⟩

end Endpoint

end FramedLink
