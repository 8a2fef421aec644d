import FramedLink.Proofs.Link.Deeds
import FramedLink.Proofs.Numbering

/-!
# When connect requests are sent

A check of the connection tries to send a connect request unless the link is up and not checked, or
the last attempt is too recent; taking the link down makes the next attempt due at once. Whether an
attempt succeeds makes no difference. `lastTry` reads off the history of a run what an endpoint goes
by, and `Endpoint.Scheduled` says that it goes by that. So any two attempts between which the link
was not taken down are at least the interval apart, and the ids of the requests run through those of
a host in order.
-/

namespace FramedLink

variable {ω : Type}

/-- The ids of a host come round after one hundred and twenty-seven of them. -/
theorem MessageIds.skip_host (count : Nat) :
    MessageIds.host.skip count = ⟨1, 127, UInt8.ofNat (1 + count % 127)⟩ :=
  skip_eq fresh_host count

def Done.lastTryAfter (env : Environment ω) (last : Option Millis) (done : Done ω) :
    Option Millis :=
  if done.tries env then some (done.now env) else if done.drops env then none else last

/-- The reading of the last attempt to send a connect request, unless the link has been taken down
since then. -/
def lastTry (env : Environment ω) (deeds : List (Done ω)) : Option Millis :=
  deeds.foldl (Done.lastTryAfter env) none

@[simp]
theorem lastTry_append (env : Environment ω) (deeds : List (Done ω)) (done : Done ω) :
    lastTry env (deeds ++ [done]) = done.lastTryAfter env (lastTry env deeds) :=
  List.foldl_append

namespace Endpoint

variable {env : Environment ω} {c : Conduct ω} {config : Config}
variable {e e' first : Endpoint ω} {w w' begun : ω} {done : Done ω}
variable {packets : List Frame} {before deeds : List (Done ω)}

/-- What a deed does to the schedule of connect requests. -/
theorem schedule_left (env : Environment ω) (done : Done ω) :
    (done.left env).1.link.nextRequest =
        (if done.tries env then some ((done.now env).after done.endpoint.config.connectInterval)
        else if done.drops env then none else done.endpoint.link.nextRequest) ∧
      (done.left env).1.link.requestIds =
        if done.tries env then done.endpoint.link.requestIds.advance
        else done.endpoint.link.requestIds := by
  obtain ⟨deed, e, w⟩ := done
  cases deed with
  | register type body =>
    rw [Done.drops_eq]
    exact ⟨rfl, rfl⟩
  | answer id message =>
    rw [Done.drops_eq]
    change (e.recordPeer env _ _ _).1.link.nextRequest = _ ∧
      (e.recordPeer env _ _ _).1.link.requestIds = _
    rw [link_recordPeer]
    exact ⟨rfl, rfl⟩
  | accept id message =>
    rw [Done.drops_eq]
    change (e.acceptResponse env _ _).1.link.nextRequest = _ ∧
      (e.acceptResponse env _ _).1.link.requestIds = _
    rw [link_acceptResponse]
    exact ⟨rfl, rfl⟩
  | disconnect =>
    rw [Done.drops_eq]
    change (e.disconnect env w).1.link.nextRequest = (if e.link.connected then none else _) ∧
      (e.disconnect env w).1.link.requestIds = _
    cases hup : e.link.connected with
    | false =>
      rw [disconnect_of_down hup]
      exact ⟨rfl, rfl⟩
    | true =>
      rw [link_disconnect hup]
      exact ⟨rfl, rfl⟩
  | check =>
    let done : Done ω := ⟨.check, e, w⟩
    have hconfig : (done.dropped env).1.config = e.config := (aside_dropSilentPeer _).config
    have hids : (done.dropped env).1.link.requestIds = e.link.requestIds :=
      requestIds_dropped env done
    have hnext : (done.dropped env).1.link.nextRequest =
        if done.drops env then none else e.link.nextRequest := by
      have hdropping := dropping_dropped env done
      rw [Done.drops_eq]
      generalize done.dropped env = dropped at hdropping ⊢
      cases hdropping with
      | heard hheard =>
        rw [hheard]
        rfl
      | silent timeout hsilent =>
        obtain ⟨-, hup, -⟩ := isSilent_eq_some_iff.mp hsilent
        rw [hsilent, link_disconnect hup]
        rfl
    change (done.left env).1.link.nextRequest = _ ∧ (done.left env).1.link.requestIds = _
    rw [Done.link_check rfl]
    cases hdue : done.tries env with
    | false => exact ⟨hnext, hids⟩
    | true => exact ⟨by rw [← hconfig]; rfl, congrArg MessageIds.advance hids⟩

/-- An endpoint sends connect requests as its history says. -/
structure Scheduled (env : Environment ω) (config : Config) (deeds : List (Done ω))
    (e : Endpoint ω) : Prop where
  fitted : e.Fitted config
  next : e.link.nextRequest = (lastTry env deeds).map (·.after config.connectInterval)
  ids : e.link.requestIds = MessageIds.host.skip (deeds.countP (Done.tries env))

theorem chronicled_scheduled :
    Chronicled env c fun deeds e _ ↦ Scheduled env config deeds e where
  elsewhere h hsame _ :=
    ⟨h.fitted.of_sizes hsame.config hsame.room, by rw [hsame.link, h.next],
      by rw [hsame.link, h.ids]⟩
  done {deeds e w} deed h := by
    obtain ⟨hnext, hids⟩ := schedule_left env ⟨deed, e, w⟩
    refine ⟨h.fitted.left deed, ?_, ?_⟩
    · change (Done.left env ⟨deed, e, w⟩).1.link.nextRequest = _
      rw [hnext, lastTry_append, Done.lastTryAfter, h.next, h.fitted.config_eq]
      split
      · rfl
      · split <;> rfl
    · change (Done.left env ⟨deed, e, w⟩).1.link.requestIds = _
      rw [hids, h.ids, List.countP_append, List.countP_singleton]
      split <;> rfl
  named _ h := ⟨⟨h.fitted.config_eq, h.fitted.room⟩, h.next, h.ids⟩

theorem scheduled_created (hcreated : create env config w = (.ok e, w')) :
    Scheduled env config [] e := by
  have hfitted := fitted_created hcreated
  obtain ⟨-, id, rfl, -⟩ := created_eq hcreated
  exact ⟨hfitted, rfl, rfl⟩

/-- Which requests a check tries to send, in view of what was done before. -/
structure Rationed (env : Environment ω) (config : Config) (before : List (Done ω))
    (done : Done ω) : Prop where
  /-- None is tried on a link that is up and not checked. -/
  settled : done.endpoint.link.connected = true → config.quietTimeout = none →
    done.tries env = false
  /-- Otherwise one is tried if the link has just been taken down, or was since the last attempt, or
  if that attempt is at least the interval ago. -/
  due : ¬ (done.endpoint.link.connected = true ∧ config.quietTimeout = none) →
    (done.drops env = true ∨ ∀ last ∈ lastTry env before,
      last.toNat + config.connectInterval.toNat ≤ (done.now env).toNat) → done.tries env = true
  /-- Without an attempt the answer is no, and nothing else happens. -/
  idle : done.tries env = false → done.answer env = .ok false ∧ done.left env = done.dropped env
  /-- An attempt is answered with whether it succeeds. The request has the next id of a host, and it
  says what this end says about itself. -/
  tried : done.tries env = true → ∃ sent,
    Asked env config (UInt8.ofNat (1 + before.countP (Done.tries env) % 127)) (done.asking env)
      (done.dropped env).2 sent ∧
    done.answer env = sent.1.map (fun _ ↦ true) ∧ done.left env = sent.2

/-- A check that leaves the link up goes by the last attempt. -/
theorem Scheduled.tries_iff (h : Scheduled env config before done.endpoint)
    (hdeed : done.deed = .check) (hkept : done.drops env = false) :
    done.tries env = true ↔
      ¬ (done.endpoint.link.connected = true ∧ config.quietTimeout = none) ∧
        ∀ last ∈ lastTry env before, last.after config.connectInterval ≤ done.now env := by
  have htries : done.tries env = (done.dropped env).1.requestDue (done.now env) := by
    rw [Done.tries, hdeed]
  have hdropping := dropping_dropped env done
  rw [Done.drops_eq, hdeed] at hkept
  rw [htries]
  generalize done.dropped env = dropped at hdropping ⊢
  cases hdropping with
  | heard _ =>
    rw [requestDue_iff, h.next, h.fitted.config_eq]
    simp only [Option.mem_def, Option.map_eq_some_iff, forall_exists_index, and_imp,
      forall_apply_eq_imp_iff₂]
  | silent timeout hsilent =>
    rw [hsilent] at hkept
    cases hkept

/-- An attempt on a link that stays up comes no earlier than the last one allows. -/
theorem Scheduled.le_now (h : Scheduled env config before done.endpoint)
    (htried : done.tries env = true) (hkept : done.drops env = false) :
    ∀ last ∈ lastTry env before,
      (last.after config.connectInterval).toNat ≤ (done.now env).toNat := by
  intro last hlast
  rw [← UInt64.le_iff_toNat_le]
  exact ((h.tries_iff (Done.deed_of_tries htried) hkept).mp htried).2 last hlast

theorem tries_of_drops (hdeed : done.deed = .check) (hdrops : done.drops env = true) :
    done.tries env = true := by
  have htries : done.tries env = (done.dropped env).1.requestDue (done.now env) := by
    rw [Done.tries, hdeed]
  have hdropping := dropping_dropped env done
  rw [Done.drops_eq, hdeed] at hdrops
  rw [htries]
  generalize done.dropped env = dropped at hdropping ⊢
  cases hdropping with
  | heard hheard =>
    rw [hheard] at hdrops
    cases hdrops
  | silent timeout hsilent =>
    obtain ⟨-, hup, -⟩ := isSilent_eq_some_iff.mp hsilent
    rw [requestDue_iff, link_disconnect hup]
    simp

theorem Scheduled.rationed (h : Scheduled env config before done.endpoint)
    (hvalid : config.fault? = none) (hdeed : done.deed = .check) :
    Rationed env config before done := by
  have heq := @Done.check_eq ω env done hdeed
  constructor
  case settled =>
    intro hup hquiet
    have hkept : done.drops env = false :=
      h.fitted.drops_of_unchecked hquiet (by rw [hdeed]; nofun)
    exact Bool.eq_false_iff.mpr fun htried ↦ ((h.tries_iff hdeed hkept).mp htried).1 ⟨hup, hquiet⟩
  case due =>
    intro hopen hsince
    cases hdrops : done.drops env with
    | true => exact tries_of_drops hdeed hdrops
    | false =>
      rw [hdrops] at hsince
      refine (h.tries_iff hdeed hdrops).mpr ⟨hopen, fun last hlast ↦ ?_⟩
      have hago := hsince.resolve_left (fun h ↦ nomatch h) last hlast
      rw [UInt64.le_iff_toNat_le, Millis.toNat_after]
      omega
  case idle =>
    intro hidle
    rw [hidle] at heq
    exact ⟨congrArg Prod.fst heq, congrArg Prod.snd heq⟩
  case tried =>
    intro htried
    rw [htried] at heq
    have hids : (done.dropped env).1.link.requestIds.next =
        UInt8.ofNat (1 + before.countP (Done.tries env) % 127) := by
      rw [requestIds_dropped, h.ids, MessageIds.skip_host]
    have hasking : (done.asking env).Fitted config :=
      (@Fitted.dropped ω env config done h.fitted).of_sizes rfl rfl
    refine ⟨_, ?_, congrArg Prod.fst heq, congrArg Prod.snd heq⟩
    rw [← hids]
    exact hasking.asked hvalid env _ _

/-- All through a run, an endpoint goes by its schedule. -/
theorem Chronicle.scheduled (hcreated : create env config w' = (.ok first, begun))
    (h : Chronicle env c first begun packets deeds e w) :
    Scheduled env config deeds e ∧
      InContext (fun before done ↦ Scheduled env config before done.endpoint) deeds :=
  chronicled_scheduled.chronicle h (enlists_builtins (handlers_created hcreated))
    (scheduled_created hcreated)

/-- While the link is not taken down, the next attempt is due no earlier than the interval after an
attempt, whatever was tried since. -/
theorem le_lastTry {one : Done ω} {between : List (Done ω)}
    (hscheduled : ∀ earlier done later, between = earlier ++ done :: later →
      Scheduled env config (before ++ one :: earlier) done.endpoint)
    (hone : one.tries env = true) (hkept : ∀ done ∈ between, done.drops env = false)
    (hclock : (one.now env).toNat + config.connectInterval.toNat < UInt64.size) :
    ∃ last, lastTry env (before ++ one :: between) = some last ∧
      (one.now env).toNat + config.connectInterval.toNat ≤
        (last.after config.connectInterval).toNat := by
  induction between using List.reverseRecOn with
  | nil =>
    refine ⟨one.now env, ?_, ?_⟩
    · rw [lastTry_append, Done.lastTryAfter, if_pos hone]
    · rw [Millis.toNat_after]
      omega
  | append_singleton between done ih =>
    have hearlier : ∀ earlier other later, between = earlier ++ other :: later →
        Scheduled env config (before ++ one :: earlier) other.endpoint :=
      fun earlier other later hsplit ↦
        hscheduled earlier other (later ++ [done]) (by simp [hsplit])
    obtain ⟨last, hlast, hle⟩ := ih hearlier
      fun other hmem ↦ hkept other (List.mem_append_left _ hmem)
    have hdone : done.drops env = false := hkept done (by simp)
    rw [← List.cons_append, ← List.append_assoc, lastTry_append, Done.lastTryAfter, hlast, hdone]
    cases htried : done.tries env with
    | false => exact ⟨last, rfl, hle⟩
    | true =>
      refine ⟨done.now env, rfl, ?_⟩
      have hnow := (hscheduled between done [] rfl).le_now htried hdone last hlast
      have hafter := Millis.le_after (done.now env) config.connectInterval
      rw [UInt64.le_iff_toNat_le] at hafter
      omega

/-- In every run, each check of the connection tries a request when it has to, with the next id, and
answers with whether it succeeds; and two attempts are at least the interval apart, unless the link
is taken down between them. -/
theorem Chronicle.requests_spaced (hcreated : create env config w' = (.ok first, begun))
    (h : Chronicle env c first begun packets deeds e w) :
    InContext (fun before done ↦ done.deed = .check → Rationed env config before done) deeds ∧
    ∀ before one between two after, deeds = before ++ one :: (between ++ two :: after) →
      one.tries env = true → two.tries env = true →
      (∀ done ∈ between ++ [two], done.drops env = false) →
      (one.now env).toNat + config.connectInterval.toNat < UInt64.size →
      (one.now env).toNat + config.connectInterval.toNat ≤ (two.now env).toNat := by
  obtain ⟨-, hscheduled⟩ := h.scheduled hcreated
  have hvalid : config.fault? = none := (created_eq hcreated).1
  constructor
  · intro before done after hsplit hdeed
    exact (hscheduled before done after hsplit).rationed hvalid hdeed
  · intro before one between two after hsplit hone htwo hkept hclock
    have hbetween : ∀ earlier done later, between ++ [two] = earlier ++ done :: later →
        Scheduled env config (before ++ one :: earlier) done.endpoint := by
      intro earlier done later hbetween
      refine hscheduled _ _ (later ++ after) ?_
      rw [hsplit, List.append_cons between, hbetween]
      simp
    have hearlier : ∀ earlier done later, between = earlier ++ done :: later →
        Scheduled env config (before ++ one :: earlier) done.endpoint :=
      fun earlier done later hsplit ↦ hbetween earlier done (later ++ [two]) (by simp [hsplit])
    -- Up to the second attempt the schedule says when the next one is due, and this is it.
    obtain ⟨last, hlast, hle⟩ := le_lastTry hearlier hone
      (fun done hmem ↦ hkept done (List.mem_append_left _ hmem)) hclock
    have hnow := (hbetween between two [] rfl).le_now htwo (hkept two (by simp)) last hlast
    omega

/-- Two requests, the second as soon as it is due. -/
theorem requests_spaced_two :
    let env : Environment (Wire Millis) := Wire.environment (fun app ↦ (app, app)) .near
    let program : Program (Wire Millis) := .ask .checkConnection fun _ ↦
      .outside (fun w ↦ { w with app := 1000 }) fun _ ↦
        .ask .checkConnection fun _ ↦ .finish (.ok ())
    ∃ begun w, create env (.ofSizes 18 18) (.fresh (fun _ ↦ ⟨[], 1⟩) 0) = (.ok begun, w) ∧
      ∃ one two, program.deeds env begun w = [one, two] ∧
        one.tries env = true ∧ two.tries env = true ∧
        (one.now env).toNat + 1000 ≤ (two.now env).toNat := by
  intro env program
  let begun : Endpoint (Wire Millis) := ofConfig (.ofSizes 18 18) 1
  let w := (create env (.ofSizes 18 18) (.fresh (fun _ ↦ ⟨[], 1⟩) 0)).2
  have hcreated : create env (.ofSizes 18 18) (.fresh (fun _ ↦ ⟨[], 1⟩) 0) = (.ok begun, w) := rfl
  have hrun : Chronicle env .free begun w [] ([] ++ program.deeds env begun w)
      (program.run env begun w).2.1 (program.run env begun w).2.2 :=
    .run program program.within_free .start
  have htries : (program.deeds env begun w).all (Done.tries env) = true := by decide +kernel
  have hdrops : (program.deeds env begun w).any (Done.drops env) = false := by decide +kernel
  have hclock : (program.deeds env begun w).all (fun done ↦
      (done.now env).toNat + (Config.ofSizes 18 18).connectInterval.toNat < UInt64.size) =
        true := by
    decide +kernel
  obtain ⟨one, two, hdeeds⟩ : ∃ one two, program.deeds env begun w = [one, two] :=
    List.length_eq_two.mp (by decide +kernel)
  rw [hdeeds] at htries hdrops hclock hrun
  simp only [List.all_cons, List.all_nil, List.any_cons, List.any_nil, Bool.and_true,
    Bool.or_false, Bool.and_eq_true, Bool.or_eq_false_iff,
    decide_eq_true_eq] at htries hdrops hclock
  obtain ⟨-, hspaced⟩ := Chronicle.requests_spaced hcreated hrun
  have hspacing := hspaced [] one [] two [] rfl htries.1 htries.2
    (List.forall_mem_singleton.mpr hdrops.2) hclock.1
  have hinterval : (Config.ofSizes 18 18).connectInterval.toNat = 1000 := rfl
  rw [hinterval] at hspacing
  exact ⟨begun, w, hcreated, one, two, hdeeds, htries.1, htries.2, hspacing⟩

end Endpoint

end FramedLink
