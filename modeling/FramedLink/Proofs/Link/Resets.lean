import Mathlib.Data.List.Count
import FramedLink.Proofs.Link.Deeds
import FramedLink.Proofs.Link.Messages

/-!
# When a reset of the peer is reported

A peer that turns up under another id than the one by which it is known has been reset, or has been
replaced. Messages of both kinds tell; once the link has been taken down, no peer is known. The
`Ledger` of a run is drawn up from what was done in it, and the endpoint and its callbacks go by
that: at any time the peer is known as the ledger says, and the callbacks that have been there from
the beginning have been told what the ledger says, newest first each time (`Endpoint.Tallied`).
-/

namespace FramedLink

variable {ω : Type}

/-! ## The ledger -/

/-- What a callback is told, with its number in the order in which callbacks were registered. -/
inductive Report where
  | reset (callback : Nat)
  | link (callback : Nat) (event : LinkEvent)
  deriving DecidableEq, Repr

/-- What a number of callbacks are told together, newest first. -/
def newestFirst (count : Nat) (report : Nat → Report) : List Report :=
  (List.range count).reverse.map report

/-- How many callbacks there have been from the beginning. -/
structure Audience where
  resets : Nat
  links : Nat

/-- What is told about a change of the link. -/
def Audience.told (audience : Audience) (event : LinkEvent) : List Report :=
  newestFirst audience.links (.link · event)

def Audience.toldReset (audience : Audience) : List Report :=
  newestFirst audience.resets .reset

/-- What can be said of the peer: under which id it is known, zero if under none, of which type it
was last, whether the link is up, how often it was reset, and what the callbacks were told. -/
structure Ledger where
  known : UInt32 := 0
  type : UInt16 := 0
  up : Bool := false
  resets : Nat := 0
  reports : List Report := []

namespace Ledger

variable (audience : Audience) (ledger : Ledger)

/-- After a connect request. -/
def met (message : ConnectMessage) : Ledger :=
  { ledger with
    known := message.connId
    type := message.connType
    resets := ledger.resets + if ledger.known = message.connId then 0 else 1
    reports := ledger.reports ++
      if ledger.known = message.connId then [] else audience.toldReset }

/-- After a connect response. If the link was up to another peer, that is told first, and if it was
not up to this one, that it is so is told last. -/
def answered (message : ConnectMessage) : Ledger where
  known := message.connId
  type := message.connType
  up := true
  resets := ledger.resets + if ledger.known = message.connId then 0 else 1
  reports := ledger.reports ++
    (if ledger.up ∧ ledger.known ≠ message.connId then
      audience.told (.disconnected ledger.known) else []) ++
    (if ledger.known = message.connId then [] else audience.toldReset) ++
    (if ledger.up ∧ ledger.known = message.connId then [] else
      audience.told (.connected message.connId message.connType))

def lost : Ledger :=
  { ledger with
    known := 0
    up := false
    reports := ledger.reports ++ audience.told (.disconnected ledger.known) }

def replaced (message : ConnectMessage) : Ledger :=
  if ledger.up ∧ ledger.known ≠ message.connId then
    { ledger with
      up := false
      reports := ledger.reports ++ audience.told (.disconnected ledger.known) }
  else ledger

def raised (message : ConnectMessage) : Ledger :=
  if ledger.up then ledger
  else
    { ledger with
      up := true
      reports := ledger.reports ++ audience.told (.connected message.connId message.connType) }

def after (env : Environment ω) (done : Done ω) : Ledger :=
  match done.deed with
  | .answer _ message => ledger.met audience message
  | .accept _ message => ledger.answered audience message
  | _ => if done.drops env then ledger.lost audience else ledger

end Ledger

namespace Ledger

variable {audience : Audience} {ledger : Ledger} {message : ConnectMessage}

theorem met_of_known (h : ledger.known = message.connId) :
    ledger.met audience message = { ledger with type := message.connType } := by
  unfold met
  rw [if_pos h, if_pos h, List.append_nil, ← h]
  rfl

theorem met_of_new (h : ledger.known ≠ message.connId) :
    ledger.met audience message =
      { ledger with
        known := message.connId
        type := message.connType
        resets := ledger.resets + 1
        reports := ledger.reports ++ audience.toldReset } := by
  unfold met
  rw [if_neg h, if_neg h]

/-- A response is accepted by dropping another peer, taking note of this one and bringing the link
up, in this order. -/
theorem answered_eq :
    ledger.answered audience message =
      ((ledger.replaced audience message).met audience message).raised audience message := by
  by_cases hknown : ledger.known = message.connId <;> cases hup : ledger.up <;>
    simp [answered, replaced, met, raised, hknown, hup]

end Ledger

def ledger (env : Environment ω) (audience : Audience) (deeds : List (Done ω)) : Ledger :=
  deeds.foldl (fun ledger done ↦ ledger.after audience env done) {}

@[simp]
theorem ledger_append (env : Environment ω) (audience : Audience) (deeds : List (Done ω))
    (done : Done ω) :
    ledger env audience (deeds ++ [done]) = (ledger env audience deeds).after audience env done :=
  List.foldl_append

namespace Audience

variable (audience : Audience)

theorem count_toldReset {callback : Nat} (h : callback < audience.resets) :
    audience.toldReset.count (.reset callback) = 1 := by
  have hinjective : Function.Injective Report.reset := fun _ _ hsame ↦ by
    cases hsame
    rfl
  calc
    audience.toldReset.count (.reset callback) =
        ((List.range audience.resets).reverse.map Report.reset).count (.reset callback) := rfl
    _ = (List.range audience.resets).reverse.count callback :=
      List.count_map_of_injective _ _ hinjective _
    _ = 1 := by rw [List.count_reverse, List.count_range, if_pos h]

theorem count_told (event : LinkEvent) (callback : Nat) :
    (audience.told event).count (.reset callback) = 0 := by
  rw [List.count_eq_zero]
  intro hmem
  obtain ⟨_, -, hsame⟩ := List.mem_map.mp hmem
  cases hsame

end Audience

namespace Ledger

variable {audience : Audience} {ledger : Ledger}

/-- Each callback has been told of every reset. -/
def Complete (audience : Audience) (ledger : Ledger) : Prop :=
  ∀ callback < audience.resets, ledger.reports.count (.reset callback) = ledger.resets

theorem Complete.met (h : ledger.Complete audience) (message : ConnectMessage) :
    (ledger.met audience message).Complete audience := by
  intro callback hcallback
  unfold Ledger.met
  dsimp only
  rw [List.count_append, h callback hcallback]
  split
  · rfl
  · rw [audience.count_toldReset hcallback]

theorem Complete.tell {next : Ledger} (h : ledger.Complete audience) (event : LinkEvent)
    (hresets : next.resets = ledger.resets)
    (hreports : next.reports = ledger.reports ++ audience.told event) : next.Complete audience := by
  intro callback hcallback
  calc
    next.reports.count (.reset callback) =
        ledger.reports.count (.reset callback) +
          (audience.told event).count (.reset callback) := by
      rw [hreports, List.count_append]
    _ = ledger.reports.count (.reset callback) := by rw [audience.count_told, Nat.add_zero]
    _ = ledger.resets := h callback hcallback
    _ = next.resets := hresets.symm

theorem Complete.answered (h : ledger.Complete audience) (message : ConnectMessage) :
    (ledger.answered audience message).Complete audience := by
  have hreplaced : (ledger.replaced audience message).Complete audience := by
    unfold Ledger.replaced
    split
    · exact h.tell (.disconnected ledger.known) rfl rfl
    · exact h
  have hmet := hreplaced.met message
  rw [Ledger.answered_eq]
  unfold Ledger.raised
  split
  · exact hmet
  · exact hmet.tell (.connected message.connId message.connType) rfl rfl

theorem Complete.after (h : ledger.Complete audience) (env : Environment ω) (done : Done ω) :
    (ledger.after audience env done).Complete audience := by
  unfold Ledger.after
  split
  · exact h.met _
  · exact h.answered _
  · split
    · exact h.tell (.disconnected ledger.known) rfl rfl
    · exact h

end Ledger

theorem complete_ledger (env : Environment ω) (audience : Audience) (deeds : List (Done ω)) :
    (ledger env audience deeds).Complete audience :=
  List.foldlRecOn deeds _ (fun _ _ ↦ rfl) fun _ hcomplete done _ ↦ hcomplete.after env done

/-- A log in the surroundings, to which neither the openings of an endpoint nor the changes of a
conduct write. -/
structure Environment.Spares (env : Environment ω) (c : Conduct ω) (log : ω → List Report) :
    Prop where
  available (w : ω) : log (env.channel.available w).2 = log w
  read (size : Nat) (w : ω) : log (env.channel.read size w).2 = log w
  write (octets : Bytes) (w : ω) : log (env.channel.write octets w).2 = log w
  now (w : ω) : log (env.now w).2 = log w
  note (event : Event) (w : ω) : log (env.note event w) = log w
  draw (supply : IdSupply) (w : ω) : log (env.ids.set supply w) = log w
  change {step : ω → ω} (hstep : c.changes step) (w : ω) : log (step w) = log w

theorem Environment.Spares.drifts {env : Environment ω} {c : Conduct ω} {log : ω → List Report}
    {w w' : ω} (hspares : env.Spares c log) (h : env.Drifts c w w') : log w' = log w := by
  induction h with
  | refl => rfl
  | change hstep _ ih => exact (hspares.change hstep _).trans ih
  | available _ ih => exact (hspares.available _).trans ih
  | read size _ ih => exact (hspares.read size _).trans ih
  | write octets _ ih => exact (hspares.write octets _).trans ih
  | now _ ih => exact (hspares.now _).trans ih
  | note event _ ih => exact (hspares.note event _).trans ih

section Callbacks

variable {log : ω → List Report} {report : Nat → Report}

/-- Each of some callbacks logs what it is told under its number. -/
def Logs (log : ω → List Report) (report : Nat → Report) (callbacks : List (ω → ω)) : Prop :=
  ∀ number callback, callbacks[number]? = some callback →
    ∀ w, log (callback w) = log w ++ [report number]

/-- Callbacks are run newest first, and those that are newer leave the log alone. -/
theorem Logs.foldl {callbacks newer : List (ω → ω)} (h : Logs log report callbacks)
    (hnewer : ∀ callback ∈ newer, ∀ w, log (callback w) = log w) (w : ω) :
    log ((callbacks ++ newer).reverse.foldl (fun w callback ↦ callback w) w) =
      log w ++ newestFirst callbacks.length report := by
  have hseen : log (newer.reverse.foldl (fun w callback ↦ callback w) w) = log w := by
    apply List.foldlRecOn (motive := fun w' ↦ log w' = log w) _ _ rfl
    intro w' hkept callback hmem
    exact (hnewer callback (List.mem_reverse.mp hmem) w').trans hkept
  rw [List.reverse_append, List.foldl_append, ← hseen]
  generalize newer.reverse.foldl (fun w callback ↦ callback w) w = w'
  clear hseen
  induction callbacks using List.reverseRecOn generalizing w' with
  | nil => exact (List.append_nil _).symm
  | append_singleton earlier last ih =>
    have hearlier : Logs log report earlier := by
      intro number callback hcallback
      obtain ⟨hnumber, -⟩ := List.getElem?_eq_some_iff.mp hcallback
      exact h number callback ((List.getElem?_append_left hnumber).trans hcallback)
    have hlast := h earlier.length last List.getElem?_concat_length w'
    calc
      log ((earlier ++ [last]).reverse.foldl (fun w callback ↦ callback w) w') =
          log (earlier.reverse.foldl (fun w callback ↦ callback w) (last w')) := by
        rw [List.reverse_concat, List.foldl_cons]
      _ = log (last w') ++ newestFirst earlier.length report := ih hearlier _
      _ = log w' ++ report earlier.length :: newestFirst earlier.length report := by
        rw [hlast, List.append_assoc, List.singleton_append]
      _ = log w' ++ newestFirst (earlier ++ [last]).length report := by
        rw [List.length_append, List.length_singleton, newestFirst, newestFirst, List.range_succ,
          List.reverse_concat, List.map_cons]

end Callbacks

namespace Endpoint

variable {env : Environment ω} {c : Conduct ω} {config : Config} {log : ω → List Report}
variable {audience : Audience} {ledger : Ledger} {message : ConnectMessage}
variable {e e' created : Endpoint ω} {w w' begun : ω} {done : Done ω} {result : Endpoint ω × ω}
variable {packets : List Frame} {deeds : List (Done ω)}

/-- The callbacks that an endpoint has had from the beginning log what they are told, and those that
it has got since leave the log alone. -/
structure Logging (c : Conduct ω) (log : ω → List Report) (audience : Audience)
    (e : Endpoint ω) : Prop where
  resets : ∃ first newer, e.resetCallbacks = first ++ newer ∧ first.length = audience.resets ∧
    Logs log .reset first ∧ ∀ callback ∈ newer, c.changes callback
  links : ∃ first newer, e.linkCallbacks = first ++ newer ∧ first.length = audience.links ∧
    (∀ event, Logs log (.link · event) (first.map (· event))) ∧
    ∀ callback ∈ newer, ∀ event, c.changes (callback event)

/-- More callbacks that leave the log alone make no difference. -/
theorem Logging.elsewhere (h : e.Logging c log audience) (hsame : e.Elsewhere c e') :
    e'.Logging c log audience where
  resets := by
    obtain ⟨first, newer, hcallbacks, hlength, hlogs, hnewer⟩ := h.resets
    obtain ⟨more, hmore, hall⟩ := hsame.resets
    refine ⟨first, newer ++ more, ?_, hlength, hlogs, List.forall_mem_append.mpr ⟨hnewer, hall⟩⟩
    rw [hmore, hcallbacks, List.append_assoc]
  links := by
    obtain ⟨first, newer, hcallbacks, hlength, hlogs, hnewer⟩ := h.links
    obtain ⟨more, hmore, hall⟩ := hsame.links
    refine ⟨first, newer ++ more, ?_, hlength, hlogs, List.forall_mem_append.mpr ⟨hnewer, hall⟩⟩
    rw [hmore, hcallbacks, List.append_assoc]

theorem Logging.fireReset (h : e.Logging c log audience) (hspares : env.Spares c log) (w : ω) :
    log (e.fireReset w) = log w ++ audience.toldReset := by
  obtain ⟨first, newer, hcallbacks, hlength, hlogs, hnewer⟩ := h.resets
  rw [Endpoint.fireReset, hcallbacks, Audience.toldReset, ← hlength]
  exact hlogs.foldl (fun callback hmem ↦ hspares.change (hnewer callback hmem)) w

theorem Logging.fireLink (h : e.Logging c log audience) (hspares : env.Spares c log)
    (event : LinkEvent) (w : ω) : log (e.fireLink event w) = log w ++ audience.told event := by
  obtain ⟨first, newer, hcallbacks, hlength, hlogs, hnewer⟩ := h.links
  have hleave : ∀ callback ∈ newer.map (· event), ∀ w, log (callback w) = log w := by
    rw [List.forall_mem_map]
    exact fun callback hmem ↦ hspares.change (hnewer callback hmem event)
  have hfold := (hlogs event).foldl hleave w
  rw [← List.map_append, ← List.map_reverse, List.foldl_map, List.length_map, hlength] at hfold
  rw [Endpoint.fireLink, hcallbacks]
  exact hfold

/-! ## The endpoint goes by the ledger -/

/-- An endpoint and the log of its callbacks agree with a ledger. -/
structure Tallied (c : Conduct ω) (log : ω → List Report) (audience : Audience) (ledger : Ledger)
    (e : Endpoint ω) (w : ω) : Prop where
  logging : e.Logging c log audience
  known : e.link.remoteId = ledger.known
  type : e.link.remoteType = ledger.type
  up : e.link.connected = ledger.up
  resets : e.counters.peerResets = ledger.resets
  reports : log w = ledger.reports

theorem Tallied.surroundings (h : Tallied c log audience ledger e w) (hlog : log w' = log w) :
    Tallied c log audience ledger e w' :=
  { h with reports := hlog.trans h.reports }

theorem Tallied.elsewhere (h : Tallied c log audience ledger e w) (hspares : env.Spares c log)
    (hsame : e.Elsewhere c e') (hdrift : env.Drifts c w w') :
    Tallied c log audience ledger e' w' where
  logging := h.logging.elsewhere hsame
  known := by rw [hsame.link, h.known]
  type := by rw [hsame.link, h.type]
  up := by rw [hsame.link, h.up]
  resets := (congrArg Prod.fst hsame.counters).trans h.resets
  reports := (hspares.drifts hdrift).trans h.reports

/-- Taking down a link that was up makes the peer unknown, and is told. -/
theorem Tallied.disconnect (h : Tallied c log audience ledger e w) (hspares : env.Spares c log) :
    Tallied c log audience (if e.link.connected then ledger.lost audience else ledger)
      (e.disconnect env w).1 (e.disconnect env w).2 := by
  have hdisconnection : Disconnection env e w (e.disconnect env w) := disconnection_disconnect
  generalize e.disconnect env w = result at hdisconnection ⊢
  cases hdisconnection with
  | idle hdown =>
    rw [hdown, if_neg Bool.false_ne_true]
    exact h
  | down hup drawn hdrawn =>
    have hlog : log drawn.2 = log w := by
      rw [← hdrawn]
      exact hspares.draw _ w
    rw [if_pos hup]
    refine ⟨⟨h.logging.resets, h.logging.links⟩, rfl, h.type, rfl, h.resets, ?_⟩
    rw [h.logging.fireLink hspares, hspares.note, hlog, h.reports, h.known]
    rfl

/-- A link to another peer is dropped, and that is told. -/
theorem Tallied.replacement (h : Tallied c log audience ledger e w) (hspares : env.Spares c log)
    (hdropped : Replacement message.connId e w result) :
    Tallied c log audience (ledger.replaced audience message) result.1 result.2 := by
  unfold Ledger.replaced
  cases hdropped with
  | same hsame =>
    rw [if_neg]
    · exact h
    · rintro ⟨hup, hnew⟩
      exact hnew (h.known.symm.trans (hsame (h.up.trans hup)))
  | replaced hup hnew =>
    rw [if_pos ⟨h.up.symm.trans hup, h.known ▸ hnew⟩]
    refine ⟨⟨h.logging.resets, h.logging.links⟩, h.known, h.type, rfl, h.resets, ?_⟩
    rw [h.logging.fireLink hspares, h.reports, h.known]

/-- A message under a new id is told as a reset. -/
theorem Tallied.recording (h : Tallied c log audience ledger e w) (hspares : env.Spares c log)
    (hrecorded : Recording env message.connId message.connType e w result) :
    Tallied c log audience (ledger.met audience message) result.1 result.2 := by
  cases hrecorded with
  | known hsame =>
    rw [Ledger.met_of_known (h.known.symm.trans hsame)]
    exact ⟨⟨h.logging.resets, h.logging.links⟩, h.known, rfl, h.up, h.resets, h.reports⟩
  | renamed hnew =>
    rw [Ledger.met_of_new (h.known ▸ hnew)]
    refine ⟨⟨h.logging.resets, h.logging.links⟩, rfl, rfl, h.up, congrArg (· + 1) h.resets, ?_⟩
    rw [h.logging.fireReset hspares, hspares.note, h.reports]

/-- A link that was down comes up, and that is told. -/
theorem Tallied.raising (h : Tallied c log audience ledger e w) (hspares : env.Spares c log)
    (hraised : Raising env message e w result) :
    Tallied c log audience (ledger.raised audience message) result.1 result.2 := by
  unfold Ledger.raised
  cases hraised with
  | idle hup =>
    rw [if_pos (h.up.symm.trans hup)]
    exact h
  | up hdown =>
    rw [if_neg (Bool.eq_false_iff.mp (h.up.symm.trans hdown))]
    refine ⟨⟨h.logging.resets, h.logging.links⟩, h.known, h.type, rfl, h.resets, ?_⟩
    rw [h.logging.fireLink hspares, hspares.note, h.reports]

theorem Tallied.acceptResponse (h : Tallied c log audience ledger e w)
    (hspares : env.Spares c log) (message : ConnectMessage) :
    Tallied c log audience (ledger.answered audience message) (e.acceptResponse env message w).1
      (e.acceptResponse env message w).2 := by
  obtain ⟨dropped, recorded, hdropped, hrecorded, hraised⟩ :=
    @acceptResponse_steps ω env e w message
  have hanswered : Tallied c log audience ledger (e.answeredAt (env.now w).1 message.limit)
      (env.now w).2 :=
    ⟨⟨h.logging.resets, h.logging.links⟩, h.known, h.type, h.up, h.resets,
      (hspares.now w).trans h.reports⟩
  rw [Ledger.answered_eq]
  exact ((hanswered.replacement hspares hdropped).recording hspares hrecorded).raising hspares
    hraised

/-- A check takes the link down, or leaves what the ledger says. -/
theorem Tallied.dropped (h : Tallied c log audience ledger done.endpoint done.surroundings)
    (hspares : env.Spares c log) (hdeed : done.deed = .check) :
    Tallied c log audience (if done.drops env then ledger.lost audience else ledger)
      (done.dropped env).1 (done.dropped env).2 := by
  have hdropping := dropping_dropped env done
  rw [Done.drops_eq, hdeed]
  generalize done.dropped env = dropped at hdropping ⊢
  cases hdropping with
  | heard hheard =>
    dsimp only
    rw [hheard, if_neg (by decide)]
    exact h.surroundings (hspares.now _)
  | silent timeout hsilent =>
    obtain ⟨-, hup, -⟩ := isSilent_eq_some_iff.mp hsilent
    have hnoted := h.surroundings ((hspares.note (.peerSilent done.endpoint.link.remoteId timeout)
      (env.now done.surroundings).2).trans (hspares.now _))
    have hdown := hnoted.disconnect hspares
    rw [if_pos hup] at hdown
    dsimp only
    rw [hsilent, if_pos Option.isSome_some]
    exact hdown

/-- The rest of a check is sending. -/
theorem Tallied.check (h : Tallied c log audience ledger done.endpoint done.surroundings)
    (hspares : env.Spares c log) (hdeed : done.deed = .check) :
    Tallied c log audience (if done.drops env then ledger.lost audience else ledger)
      (done.left env).1 (done.left env).2 := by
  have hdropped := h.dropped hspares hdeed
  obtain ⟨-, hleft⟩ | ⟨-, hsent, hdrift⟩ := @Done.left_check ω env done c hdeed
  · rw [hleft]
    exact hdropped
  · have hasking : Tallied c log audience (if done.drops env then ledger.lost audience else ledger)
        (done.asking env) (done.dropped env).2 :=
      ⟨⟨hdropped.logging.resets, hdropped.logging.links⟩, hdropped.known, hdropped.type,
        hdropped.up, hdropped.resets, hdropped.reports⟩
    exact hasking.elsewhere hspares hsent hdrift

/-- Whatever is done, the ledger is kept. -/
theorem Tallied.left (h : Tallied c log audience ledger e w) (hspares : env.Spares c log)
    (deed : Deed ω) :
    Tallied c log audience (ledger.after audience env ⟨deed, e, w⟩) (deed.left env e w).1
      (deed.left env e w).2 := by
  cases deed with
  | register type body =>
    rw [Ledger.after, Done.drops_eq, if_neg Bool.false_ne_true]
    exact ⟨⟨h.logging.resets, h.logging.links⟩, h.known, h.type, h.up, h.resets, h.reports⟩
  | check =>
    let done : Done ω := ⟨.check, e, w⟩
    have hbegun : Tallied c log audience ledger done.endpoint done.surroundings := h
    exact hbegun.check hspares rfl
  | disconnect =>
    rw [Ledger.after, Done.drops_eq]
    exact h.disconnect hspares
  | answer id message =>
    exact (h.surroundings (hspares.note _ w)).recording hspares (recording_recordPeer _ _)
  | accept id message =>
    exact (h.surroundings (hspares.note _ w)).acceptResponse hspares message

theorem chronicled_tallied (hspares : env.Spares c log) (audience : Audience) :
    Chronicled env c fun deeds e w ↦
      Tallied c log audience (FramedLink.ledger env audience deeds) e w where
  elsewhere h hsame hdrift := h.elsewhere hspares hsame hdrift
  done {deeds e w} deed h := by
    rw [ledger_append]
    exact h.left hspares deed
  named _ h := ⟨⟨h.logging.resets, h.logging.links⟩, h.known, h.type, h.up, h.resets, h.reports⟩

/-- In every run of an endpoint with callbacks from the beginning, the peer is known and counted as
the ledger says, and these callbacks have been told what it says, between any operations and
whenever something begins to be done; so each of them has been told of every reset that was counted.
The messages in the ledger come from the packets of the handshake that are handed over with at least
eight octets of payload. -/
theorem Chronicle.resets_follow_ledger (hcreated : create env config w' = (.ok created, begun))
    (hspares : env.Spares c log) (hempty : log begun = []) {resets : List (ω → ω)}
    {links : List (LinkEvent → ω → ω)} (hresets : Logs log .reset resets)
    (hlinks : ∀ event, Logs log (.link · event) (links.map (· event)))
    (h : Chronicle env c { created with resetCallbacks := resets, linkCallbacks := links } begun
      packets deeds e w) :
    let audience : Audience := ⟨resets.length, links.length⟩
    Tallied c log audience (FramedLink.ledger env audience deeds) e w ∧
      InContext (fun before done ↦ Tallied c log audience (FramedLink.ledger env audience before)
        done.endpoint done.surroundings) deeds ∧
      (∀ callback < resets.length,
        (log w).count (.reset callback) = e.counters.peerResets) ∧
      Sourced c packets deeds := by
  intro audience
  let first : Endpoint ω := { created with resetCallbacks := resets, linkCallbacks := links }
  have hbuiltins : created.handlers = builtins := handlers_created hcreated
  have hfirst : first.handlers = builtins := hbuiltins
  have hlogging : first.Logging c log audience :=
    ⟨⟨resets, [], (List.append_nil _).symm, rfl, hresets, fun _ hmem ↦ nomatch hmem⟩,
      links, [], (List.append_nil _).symm, rfl, hlinks, fun _ hmem ↦ nomatch hmem⟩
  have hbegun : Tallied c log audience (FramedLink.ledger env audience []) first begun := by
    obtain ⟨-, id, rfl, -⟩ := created_eq hcreated
    exact ⟨hlogging, rfl, rfl, rfl, rfl, hempty⟩
  obtain ⟨hlast, hthroughout⟩ := (chronicled_tallied hspares audience).chronicle h
    (enlists_builtins hfirst) hbegun
  refine ⟨hlast, hthroughout, fun callback hcallback ↦ ?_, h.sourced hfirst⟩
  rw [hlast.reports, hlast.resets]
  exact complete_ledger env audience deeds callback hcallback

/-- The callback that logs what it is told in the surroundings of its application. -/
def entering (report : Report) (w : Wire (List Report)) : Wire (List Report) :=
  { w with app := w.app ++ [report] }

/-- Applications that only read and leave their log alone. -/
def reserved : Conduct (Wire (List Report)) :=
  { Conduct.reading with changes := fun step ↦ ∀ w, (step w).app = w.app }

theorem spares_reserved :
    (Wire.environment (fun app : List Report ↦ (0, app)) .near).Spares reserved Wire.app where
  available _ := rfl
  read _ _ := rfl
  write _ _ := rfl
  now _ := rfl
  note _ _ := rfl
  draw _ _ := rfl
  change hstep := hstep

/-- A response of a new peer is told as a reset to two callbacks, the newer one first, and then it
is told that the link is up. -/
theorem resets_follow_ledger_response :
    let env : Environment (Wire (List Report)) := Wire.environment (fun app ↦ (0, app)) .near
    let response : Frame := ⟨.plain 1 0 8, ConnectMessage.encode ⟨1, 52, 7⟩⟩
    let arriving : Program (Wire (List Report)) :=
      .outside ((Wire.pipe .near).modify (Pipe.feed (response.wire .unchecked))) fun _ ↦
        .finish (.ok ())
    ∃ created begun,
      create env (.ofSizes 18 18) (.fresh (fun _ ↦ ⟨[], 1⟩) []) = (.ok created, begun) ∧
      let first : Endpoint (Wire (List Report)) :=
        { created with
          resetCallbacks := [entering (.reset 0), entering (.reset 1)]
          linkCallbacks := [fun event ↦ entering (.link 0 event)] }
      let told := (arriving.run env first begun).2
      let polled := (told.1.poll env 19 told.2).2
      polled.2.app = [.reset 1, .reset 0, .link 0 (.connected 1 7)] ∧
        ∃ packets deeds, Chronicle env reserved first begun packets deeds polled.1 polled.2 ∧
          (FramedLink.ledger env ⟨2, 1⟩ deeds).reports = polled.2.app ∧
          polled.1.counters.peerResets = 1 ∧
          deeds.filterMap Done.handshake? = packets.filterMap Frame.handshake? := by
  intro env response arriving
  let created : Endpoint (Wire (List Report)) := ofConfig (.ofSizes 18 18) 1
  let begun := (create env (.ofSizes 18 18) (.fresh (fun _ ↦ ⟨[], 1⟩) [])).2
  have hcreated : create env (.ofSizes 18 18) (.fresh (fun _ ↦ ⟨[], 1⟩) []) =
      (.ok created, begun) := rfl
  refine ⟨created, begun, hcreated, ?_⟩
  intro first told polled
  have hlog : polled.2.app = [.reset 1, .reset 0, .link 0 (.connected 1 7)] := by decide +kernel
  have harriving : arriving.Within reserved := ⟨fun _ ↦ rfl, fun _ ↦ trivial⟩
  obtain ⟨before, htold⟩ : ∃ before, Chronicle env reserved first begun [] before told.1 told.2 :=
    ⟨_, .run arriving harriving .start⟩
  clear_value told
  obtain ⟨packets, deeds, hpolled⟩ : ∃ packets deeds,
      Chronicle env reserved first begun packets deeds polled.1 polled.2 :=
    let ⟨_, _, hpolled⟩ := htold.poll 19
    ⟨_, _, hpolled⟩
  have hresets : Logs Wire.app .reset [entering (.reset 0), entering (.reset 1)] := by
    rintro (_ | _ | _) callback hcallback w <;> cases hcallback <;> rfl
  have hlinks : ∀ event, Logs Wire.app (.link · event)
      ([fun event ↦ entering (.link 0 event)].map (· event)) := by
    rintro event (_ | _) callback hcallback w <;> cases hcallback
    rfl
  obtain ⟨htallied, -, hcounted, hsourced⟩ :=
    Chronicle.resets_follow_ledger hcreated spares_reserved rfl hresets hlinks hpolled
  have hcount := hcounted 0 (by decide)
  rw [hlog] at hcount
  exact ⟨hlog, packets, deeds, hpolled, htallied.reports.symm, hcount.symm,
    hsourced.messages fun _ hasked ↦ hasked⟩

/-- A handler for connect responses that opens eight octets of payload, whatever the packet has,
lets an empty one count as a reset of the peer. -/
theorem reset_without_payload :
    let env : Environment (Wire Unit) := Wire.environment (fun app ↦ (0, app)) .near
    let program : Program (Wire Unit) := .addHandler MessageType.connectResponse
      (fun _ ↦ .ask (.incoming (.openPayload 8)) fun _ ↦ .finish (.ok ()))
      (.outside ((Wire.pipe .near).modify (Pipe.feed
        (Frame.wire .unchecked ⟨.plain 7 0 8, ConnectMessage.encode ⟨0x10000, 52, 7⟩⟩ ++
          Frame.wire .unchecked ⟨.plain 1 0 0, []⟩))) fun _ ↦ .finish (.ok ()))
    ∃ begun w, create env (.ofSizes 18 18) (.fresh (fun _ ↦ ⟨[], 1⟩) ()) = (.ok begun, w) ∧
      let told := (program.run env begun w).2
      let polled := (told.1.poll env 30 told.2).2
      (deliveries (polled.2.noted .near)).length = 2 ∧
        (deliveries (polled.2.noted .near)).filterMap Frame.handshake? = [] ∧
        polled.1.link.remoteId = 0x10000 ∧ polled.1.counters.peerResets = 1 := by
  intro env program
  exact ⟨ofConfig (.ofSizes 18 18) 1, _, rfl, by decide +kernel⟩

end Endpoint

end FramedLink
