import FramedLink.Proofs.Handling.Poll
import FramedLink.Proofs.Handling.Sending
import FramedLink.Proofs.Reception.Arrivals

/-!
# What is reported about the link

An application can follow the link of an endpoint by a callback. One that was registered first sees
every change, and each report that the link went down comes right after a report that it came up.
The two name the same peer unless a connect request has renamed it in between: a request under a new
id changes the id of the peer and leaves the link as it is, so that the link is then reported down
under an id under which it was never reported up. `Endpoint.Followed` says under which id the link
will be reported down next.
-/

namespace FramedLink

/-- Something that an endpoint notes, or reports to those who follow its link. -/
inductive Observation where
  | noted (event : Event)
  | reported (event : LinkEvent)
  deriving DecidableEq

/-- Surroundings with a record of all that was noted and reported, oldest first. -/
structure Observed (ω : Type) where
  world : ω
  record : List Observation

namespace Observed

variable {ω α : Type}

def slot (slot : Slot ω α) : Slot (Observed ω) α where
  get w := slot.get w.world
  set a w := { w with world := slot.set a w.world }

def lift (step : ω → α × ω) (w : Observed ω) : α × Observed ω :=
  ((step w.world).1, { w with world := (step w.world).2 })

/-- Any surroundings, with a record kept of what is noted. -/
def environment (env : Environment ω) : Environment (Observed ω) where
  channel :=
    { available := lift env.channel.available
      read := fun size ↦ lift (env.channel.read size)
      write := fun octets ↦ lift (env.channel.write octets) }
  now := lift env.now
  ids := slot env.ids
  note event w := ⟨env.note event w.world, w.record ++ [.noted event]⟩

/-- A program under which octets arrive in the pipe toward an end. -/
def arrive {σ : Type} (x : End) (octets : Bytes) : Program (Observed (Wire σ)) :=
  .outside (fun w ↦ { w with world := w.world.arrive x ⟨octets, none⟩ }) fun _ ↦ .finish (.ok ())

/-- The callback that records what is reported. -/
def watch (event : LinkEvent) (w : Observed ω) : Observed ω :=
  { w with record := w.record ++ [.reported event] }

end Observed

def Observation.reported? : Observation → Option LinkEvent
  | .reported event => some event
  | .noted _ => none

def reports (record : List Observation) : List LinkEvent :=
  record.filterMap Observation.reported?

/-- The peer with which the link came up, according to a report. -/
def LinkEvent.up? : LinkEvent → Option UInt32
  | .connected id _ => some id
  | .disconnected _ => none

/-- The peer with which the link came up in the last report, if that was of a link that came up. -/
def reportedUp (record : List Observation) : Option UInt32 :=
  (reports record).getLast?.bind LinkEvent.up?

def Observation.renamedAfter (renamed : Option UInt32) : Observation → Option UInt32
  | .noted (.requestReceived _ message) => some message.connId
  | .noted _ => renamed
  | .reported _ => none

/-- The id in the last connect request that was handled since the last report, if there was one. -/
def renamed (record : List Observation) : Option UInt32 :=
  record.foldl Observation.renamedAfter none

@[simp]
theorem reports_append (record more : List Observation) :
    reports (record ++ more) = reports record ++ reports more :=
  List.filterMap_append

@[simp]
theorem reportedUp_noted (record : List Observation) (event : Event) :
    reportedUp (record ++ [.noted event]) = reportedUp record := by
  rw [reportedUp, reports_append, show reports [.noted event] = [] from rfl, List.append_nil]
  rfl

@[simp]
theorem reportedUp_reported (record : List Observation) (event : LinkEvent) :
    reportedUp (record ++ [.reported event]) = event.up? := by
  rw [reportedUp, reports_append, show reports [.reported event] = [event] from rfl,
    List.getLast?_concat]
  rfl

@[simp]
theorem renamed_append (record : List Observation) (seen : Observation) :
    renamed (record ++ [seen]) = seen.renamedAfter (renamed record) :=
  List.foldl_append

theorem reports_of_reportedUp {record : List Observation} {id : UInt32}
    (h : reportedUp record = some id) :
    ∃ type earlier, reports record = earlier ++ [.connected id type] := by
  rw [reportedUp, Option.bind_eq_some_iff] at h
  obtain ⟨event, hlast, hup⟩ := h
  cases event with
  | connected up type =>
    obtain rfl := Option.some_inj.mp hup
    exact ⟨type, (reports record).dropLast, (List.dropLast_append_getLast? _ hlast).symm⟩
  | disconnected down => cases hup

/-- The link is reported down under the id under which it was reported up, or under that of the last
connect request since. -/
def NamesPeer (before : List Observation) (seen : Observation) : Prop :=
  ∀ id, seen = .reported (.disconnected id) →
    ∃ up, reportedUp before = some up ∧ id = (renamed before).getD up

namespace Endpoint

variable {ω : Type} {env : Environment ω}

def observing : Conduct (Observed ω) where
  asks _ := True
  changes step := ∀ w, (step w).record = w.record
  watches callback := callback = Observed.watch

/-- What holds of an endpoint whose link is followed from the beginning. -/
structure Followed (e : Endpoint (Observed ω)) (w : Observed ω) : Prop where
  callbacks : ∃ later, e.linkCallbacks = Observed.watch :: later ∧
    ∀ callback ∈ later, ∀ event, observing.changes (callback event)
  names : InContext NamesPeer w.record
  up : e.link.connected = true → ∃ up, reportedUp w.record = some up ∧
    e.link.remoteId = (renamed w.record).getD up

variable {e e' : Endpoint (Observed ω)} {w w' : Observed ω} {event : Event}

theorem Followed.of_eq (h : Followed e w) (hcallbacks : e'.linkCallbacks = e.linkCallbacks)
    (hrecord : w'.record = w.record)
    (hup : e'.link.connected = true → e.link.connected = true ∧
      e'.link.remoteId = e.link.remoteId) : Followed e' w' where
  callbacks := hcallbacks ▸ h.callbacks
  names := hrecord ▸ h.names
  up hconnected := by
    obtain ⟨hbefore, hremote⟩ := hup hconnected
    rw [hrecord, hremote]
    exact h.up hbefore

/-- Notes other than of a connect request change nothing. -/
theorem Followed.note (h : Followed e w)
    (hevent : ∀ renamed, Observation.renamedAfter renamed (.noted event) = renamed)
    (hrecord : w'.record = w.record ++ [.noted event]) : Followed e w' where
  callbacks := h.callbacks
  names := hrecord ▸ h.names.append fun _ hreported ↦ nomatch hreported
  up hconnected := by
    rw [hrecord, reportedUp_noted, renamed_append, hevent]
    exact h.up hconnected

/-- A report that the link came up names the peer. -/
theorem Followed.came_up (h : Followed e w) {id : UInt32} {type : UInt16}
    (hcallbacks : e'.linkCallbacks = e.linkCallbacks) (hremote : e'.link.remoteId = id)
    (hrecord : w'.record = w.record ++ [.reported (.connected id type)]) : Followed e' w' where
  callbacks := hcallbacks ▸ h.callbacks
  names := hrecord ▸ h.names.append fun _ hreported ↦ nomatch hreported
  up _ := by
    refine ⟨id, ?_, ?_⟩
    · rw [hrecord, reportedUp_reported]
      rfl
    · rw [hrecord, renamed_append, hremote]
      rfl

/-- A report that the link went down names the peer as it is known by then. -/
theorem Followed.went_down (h : Followed e w) (hup : e.link.connected = true)
    (hcallbacks : e'.linkCallbacks = e.linkCallbacks) (hdown : e'.link.connected = false)
    (hrecord : w'.record = w.record ++ [.reported (.disconnected e.link.remoteId)]) :
    Followed e' w' where
  callbacks := hcallbacks ▸ h.callbacks
  names := by
    rw [hrecord]
    apply h.names.append
    intro id hreported
    obtain ⟨up, hreportedUp, hremote⟩ := h.up hup
    cases hreported
    exact ⟨up, hreportedUp, hremote⟩
  up hconnected := by
    rw [hdown] at hconnected
    cases hconnected

/-- A connect request renames the peer, and that is all it does to the link. -/
theorem Followed.request (h : Followed e w) {id : UInt8} {message : ConnectMessage}
    (hcallbacks : e'.linkCallbacks = e.linkCallbacks)
    (hconnected : e'.link.connected = e.link.connected)
    (hremote : e'.link.remoteId = message.connId)
    (hrecord : w'.record = w.record ++ [.noted (.requestReceived id message)]) :
    Followed e' w' where
  callbacks := hcallbacks ▸ h.callbacks
  names := hrecord ▸ h.names.append fun _ hreported ↦ nomatch hreported
  up hup := by
    rw [hconnected] at hup
    obtain ⟨up, hreportedUp, -⟩ := h.up hup
    refine ⟨up, ?_, ?_⟩
    · rw [hrecord, reportedUp_noted]
      exact hreportedUp
    · rw [hrecord, renamed_append, hremote]
      rfl

/-- A report reaches the record once all that was registered later has seen it. -/
theorem Followed.record_fireLink (h : Followed e w) (event : LinkEvent) (w : Observed ω) :
    (e.fireLink event w).record = w.record ++ [.reported event] := by
  obtain ⟨later, hcallbacks, hlater⟩ := h.callbacks
  have hseen : (later.reverse.foldl (fun w callback ↦ callback event w) w).record = w.record := by
    apply List.foldlRecOn (motive := fun w' : Observed ω ↦ w'.record = w.record) _ _ rfl
    intro w' hkept callback hmem
    calc
      (callback event w').record = w'.record :=
        hlater callback (List.mem_reverse.mp hmem) event w'
      _ = w.record := hkept
  calc
    (e.fireLink event w).record =
        (later.reverse.foldl (fun w callback ↦ callback event w) w).record ++
          [.reported event] := by
      rw [fireLink, hcallbacks, List.reverse_cons, List.foldl_append]
      rfl
    _ = w.record ++ [.reported event] := by rw [hseen]

theorem record_fireReset (hwithin : e.Within observing) (w : Observed ω) :
    (e.fireReset w).record = w.record :=
  @Upheld.fireReset _ observing (fun _ w' ↦ w'.record = w.record) e w
    (fun hstep h ↦ (hstep _).trans h) hwithin rfl

/-! ## Operations -/

theorem Followed.send (h : Followed e w) (type id : UInt8) (size : Nat) :
    Followed (e.send (Observed.environment env) type id size w).2.1
      (e.send (Observed.environment env) type id size w).2.2 := by
  have hattempt : Attempt (Observed.environment env) type id size e w
      (e.send (Observed.environment env) type id size w) := attempt_send type id size
  generalize e.send (Observed.environment env) type id size w = result at hattempt ⊢
  cases hattempt with
  | refused error => exact h.of_eq rfl rfl fun hup ↦ ⟨hup, rfl⟩
  | cut frame sealed error _ _ => exact h.of_eq rfl rfl fun hup ↦ ⟨hup, rfl⟩
  | sent frame sealed _ _ =>
    let after : Endpoint (Observed ω) :=
      { e with
        outgoing := sealed.reset
        counters := { e.counters with framesSent := e.counters.framesSent + 1 } }
    have hwritten : Followed after ((Observed.environment env).channel.write frame w).2 :=
      h.of_eq rfl rfl fun hup ↦ ⟨hup, rfl⟩
    exact hwritten.note (fun _ ↦ rfl) rfl

theorem Followed.sendDescription (h : Followed e w) (type id : UInt8) :
    Followed (e.sendDescription (Observed.environment env) type id w).2.1
      (e.sendDescription (Observed.environment env) type id w).2.2 := by
  have hwritten (outgoing : Outgoing) : Followed { e with outgoing } w :=
    h.of_eq rfl rfl fun hup ↦ ⟨hup, rfl⟩
  unfold Endpoint.sendDescription
  split
  · exact (hwritten _).send type id _
  · exact hwritten _

theorem Followed.disconnect (h : Followed e w) :
    Followed (e.disconnect (Observed.environment env) w).1
      (e.disconnect (Observed.environment env) w).2 := by
  have hdisconnection : Disconnection (Observed.environment env) e w
    (e.disconnect (Observed.environment env) w) := disconnection_disconnect
  generalize e.disconnect (Observed.environment env) w = result at hdisconnection ⊢
  cases hdisconnection with
  | idle _ => exact h
  | down hup drawn hdrawn =>
    have hrecord : drawn.2.record = w.record := by
      rw [← hdrawn]
      rfl
    have hdrawn_followed : Followed e drawn.2 := h.of_eq rfl hrecord fun hup ↦ ⟨hup, rfl⟩
    have hnoted : Followed e
        ((Observed.environment env).note (.disconnected e.link.remoteId drawn.1) drawn.2) :=
      hdrawn_followed.note (fun _ ↦ rfl) rfl
    exact hnoted.went_down hup rfl rfl (h.record_fireLink _ _)

/-- A peer that is dropped is reported under the id that it had. -/
theorem Followed.replacement (h : Followed e w) {connId : UInt32}
    {result : Endpoint (Observed ω) × Observed ω} (hdropped : Replacement connId e w result) :
    Followed result.1 result.2 := by
  cases hdropped with
  | same _ => exact h
  | replaced hup _ => exact h.went_down hup rfl rfl (h.record_fireLink _ w)

/-- The peer is recorded under an id, with what is known of the link under that id. -/
theorem Followed.recording (hwithin : e.Within observing) {connId : UInt32} {connType : UInt16}
    {result : Endpoint (Observed ω) × Observed ω}
    (hrecording : Recording (Observed.environment env) connId connType e w result)
    (h : ∀ e', e'.linkCallbacks = e.linkCallbacks → e'.link.connected = e.link.connected →
      e'.link.remoteId = connId → Followed e' w) :
    Followed result.1 result.2 := by
  cases hrecording with
  | known hsame => exact h _ rfl rfl hsame
  | renamed _ =>
    let renamed : Endpoint (Observed ω) :=
      { e with
        link := { e.link with remoteType := connType, remoteId := connId }
        counters := { e.counters with peerResets := e.counters.peerResets + 1 } }
    let noted := (Observed.environment env).note (.peerReset e.link.remoteId connId connType) w
    have hrenamed : Followed renamed w := h renamed rfl rfl rfl
    have hnoted : Followed renamed noted := hrenamed.note (fun _ ↦ rfl) rfl
    have hreset : (e.fireReset noted).record = noted.record := record_fireReset hwithin noted
    exact hnoted.of_eq rfl hreset fun hup ↦ ⟨hup, rfl⟩

/-- A link that comes up is reported under the id of its peer. -/
theorem Followed.raising (h : Followed e w) {message : ConnectMessage}
    {result : Endpoint (Observed ω) × Observed ω}
    (hraised : Raising (Observed.environment env) message e w result)
    (hremote : e.link.remoteId = message.connId) : Followed result.1 result.2 := by
  cases hraised with
  | idle _ => exact h
  | up _ =>
    let noted := (Observed.environment env).note (.connected message) w
    have hnoted : Followed e noted := h.note (fun _ ↦ rfl) rfl
    exact hnoted.came_up rfl hremote (h.record_fireLink _ noted)

theorem Followed.acceptResponse (h : Followed e w) (hwithin : e.Within observing)
    (message : ConnectMessage) :
    Followed (e.acceptResponse (Observed.environment env) message w).1
      (e.acceptResponse (Observed.environment env) message w).2 := by
  obtain ⟨dropped, recorded, hdropped, hrecorded, hraised⟩ :=
    @acceptResponse_steps _ (Observed.environment env) e w message
  let now := (Observed.environment env).now w
  have hanswered : Followed (e.answeredAt now.1 message.limit) now.2 :=
    h.of_eq rfl rfl fun hup ↦ ⟨hup, rfl⟩
  have hanswered_within : (e.answeredAt now.1 message.limit).Within observing :=
    hwithin.of_tables rfl
  have hdropped_followed : Followed dropped.1 dropped.2 := hanswered.replacement hdropped
  have hsame : dropped.1.link.connected = true → dropped.1.link.remoteId = message.connId := by
    obtain ⟨connected, hdropped_eq, hup⟩ := hdropped.link
    rw [hdropped_eq]
    intro hconnected
    exact (hup hconnected).2
  have hrecorded_followed : Followed recorded.1 recorded.2 := by
    apply Followed.recording (hanswered_within.of_aside hdropped.aside) hrecorded
    intro e' hcallbacks hconnected hremote
    apply hdropped_followed.of_eq hcallbacks rfl
    intro hup
    rw [hconnected] at hup
    exact ⟨hup, hremote.trans (hsame hup).symm⟩
  have hremote : recorded.1.link.remoteId = message.connId := by
    obtain ⟨_, hrecorded_eq⟩ := hrecorded.link
    rw [hrecorded_eq]
  exact hrecorded_followed.raising hraised hremote

theorem upheld_followed (header : Header) :
    Upheld (Observed.environment env) observing header Followed where
  change hchange h := h.of_eq rfl (hchange _) fun hup ↦ ⟨hup, rfl⟩
  cursor _ h := h.of_eq rfl rfl fun hup ↦ ⟨hup, rfl⟩
  incoming _ h := h.of_eq rfl rfl fun hup ↦ ⟨hup, rfl⟩
  outgoing _ h := h.of_eq rfl rfl fun hup ↦ ⟨hup, rfl⟩
  send {_ _ type id size} _ h := h.send type id size
  describe id _ h := h.sendDescription _ id
  now h := h.of_eq rfl rfl fun hup ↦ ⟨hup, rfl⟩
  silent _ _ h := h.note (fun _ ↦ rfl) rfl
  schedule _ _ h := h.of_eq rfl rfl fun hup ↦ ⟨hup, rfl⟩
  disconnect _ h := h.disconnect
  request {e w message} _ hwithin _ h := by
    apply Followed.recording hwithin (recording_recordPeer _ _)
    intro e' hcallbacks hconnected hremote
    exact h.request hcallbacks hconnected hremote rfl
  response {e w message} _ hwithin _ h := by
    have hnoted : Followed e
        ((Observed.environment env).note (.responseReceived header.id message) w) :=
      h.note (fun _ ↦ rfl) rfl
    exact hnoted.acceptResponse hwithin message
  failed _ h := h.note (fun _ ↦ rfl) rfl
  handlers _ _ h := h.of_eq rfl rfl fun hup ↦ ⟨hup, rfl⟩
  resetCallback _ h := h.of_eq rfl rfl fun hup ↦ ⟨hup, rfl⟩
  linkCallback {e w callback} hcallback h := by
    obtain ⟨later, hcallbacks, hlater⟩ := h.callbacks
    refine ⟨⟨later ++ [callback], ?_, ?_⟩, h.names, h.up⟩
    · change e.linkCallbacks ++ [callback] = Observed.watch :: (later ++ [callback])
      rw [hcallbacks, List.cons_append]
    · intro other hmem
      rcases List.mem_append.mp hmem with hold | hnew
      · exact hlater other hold
      · rw [List.mem_singleton.mp hnew]
        exact hcallback
  available _ h := h.of_eq rfl rfl fun hup ↦ ⟨hup, rfl⟩
  read _ h := h.of_eq rfl rfl fun hup ↦ ⟨hup, rfl⟩
  write _ h := h.of_eq rfl rfl fun hup ↦ ⟨hup, rfl⟩

theorem steady_followed : Steady (Observed.environment env) observing Followed where
  upheld := upheld_followed
  station hlink h := h.of_eq rfl rfl fun hup ↦ by
    dsimp only at hup ⊢
    rw [hlink] at hup ⊢
    exact ⟨hup, rfl⟩
  note {e w event} hevent h := h.note (fun _ ↦ by cases event <;> first | rfl | cases hevent) rfl
  available h := h.of_eq rfl rfl fun hup ↦ ⟨hup, rfl⟩
  read _ h := h.of_eq rfl rfl fun hup ↦ ⟨hup, rfl⟩

theorem within_arrive {σ : Type} (x : End) (octets : Bytes) :
    (Observed.arrive x octets : Program (Observed (Wire σ))).Within observing :=
  ⟨fun _ ↦ rfl, fun _ ↦ trivial⟩

end Endpoint

/-- An endpoint whose link is followed, and its surroundings. -/
structure Lookout (ω : Type) where
  endpoint : Endpoint (Observed ω)
  surroundings : Observed ω

namespace Lookout

variable {ω : Type} {env : Environment ω} {p : Lookout ω}

def fresh (config : Config) (localId : UInt32) (world : ω) : Lookout ω :=
  ⟨(Endpoint.ofConfig config localId).addLinkCallback Observed.watch, ⟨world, []⟩⟩

def poll (env : Environment ω) (fuel : Nat) (p : Lookout ω) : Lookout ω :=
  let polled := p.endpoint.poll (Observed.environment env) fuel p.surroundings
  ⟨polled.2.1, polled.2.2⟩

def run (env : Environment ω) (program : Program (Observed ω)) (p : Lookout ω) : Lookout ω :=
  let ran := program.run (Observed.environment env) p.endpoint p.surroundings
  ⟨ran.2.1, ran.2.2⟩

/-- What a followed endpoint can come to: it polls, and the application runs any programs, as long
as they leave the record alone. -/
inductive Reachable (env : Environment ω) : Lookout ω → Prop where
  | start (config : Config) (localId : UInt32) (world : ω) :
    Reachable env (fresh config localId world)
  | poll {p : Lookout ω} (fuel : Nat) : Reachable env p → Reachable env (p.poll env fuel)
  | run {p : Lookout ω} (program : Program (Observed ω)) :
    program.Within Endpoint.observing → Reachable env p → Reachable env (p.run env program)

theorem Reachable.followed (h : Reachable env p) :
    p.endpoint.Followed p.surroundings ∧ p.endpoint.Within Endpoint.observing := by
  induction h with
  | start config localId world =>
    have hbegun : (Endpoint.ofConfig config localId : Endpoint (Observed ω)).Within
        Endpoint.observing :=
      Endpoint.within_ofConfig Endpoint.observing config localId
    have hwatched : ∀ callback ∈ (fresh config localId world).endpoint.linkCallbacks,
        callback = Observed.watch := fun callback hmem ↦ List.mem_singleton.mp hmem
    exact ⟨⟨⟨[], rfl, by simp⟩, inContext_nil _, fun hup ↦ nomatch hup⟩, hbegun.handlers,
      hbegun.resetCallbacks, fun callback hmem ↦ .inl (hwatched callback hmem)⟩
  | poll fuel _ ih => exact Endpoint.steady_followed.poll fuel ih.2 ih.1
  | run program hprogram _ ih =>
    exact (Endpoint.upheld_followed (.plain 0 0 0)).run hprogram ih.2 ih.1

/-- Whenever the link is reported down, the report before is of a link that came up. Both name the
same peer exactly if the last connect request in between, if there was one, came under that id. -/
theorem disconnected_reported (h : Reachable env p) {before after : List Observation}
    {id : UInt32} (hrecord : p.surroundings.record =
      before ++ .reported (.disconnected id) :: after) :
    ∃ up type earlier, reports before = earlier ++ [.connected up type] ∧
      (id = up ↔ ∀ asked ∈ renamed before, asked = up) := by
  obtain ⟨up, hup, hid⟩ := h.followed.1.names before _ after hrecord id rfl
  obtain ⟨type, earlier, hreports⟩ := reports_of_reportedUp hup
  refine ⟨up, type, earlier, hreports, ?_⟩
  rw [hid]
  cases renamed before with
  | none => simp
  | some asked => simp

/-- A link that comes up by a response is reported down under the same id when it is taken down. -/
theorem disconnected_reported_response :
    let env := Wire.environment (fun app : Unit ↦ (0, app)) .near
    let told := (fresh (.ofSizes 18 18) 7 (.fresh (fun _ ↦ ⟨[], 1⟩) ())).run env
      (Observed.arrive .near
        (Frame.wire .unchecked ⟨.plain 1 0 8, ConnectMessage.encode ⟨1, 52, 7⟩⟩))
    let down := (told.poll env 19).run env (.ask .disconnect fun _ ↦ .finish (.ok ()))
    ∃ before, down.surroundings.record = before ++ [.reported (.disconnected 1)] ∧
      ∃ up type earlier, reports before = earlier ++ [.connected up type] ∧ 1 = up := by
  intro env told down
  have hconnected : Reachable env (told.poll env 19) :=
    .poll 19 (.run _ (Endpoint.within_arrive _ _) (.start _ _ _))
  have hdown : Reachable env down := .run _ ⟨trivial, fun _ ↦ trivial⟩ hconnected
  have hrecord : down.surroundings.record =
      down.surroundings.record.dropLast ++ [.reported (.disconnected 1)] := by
    decide +kernel
  have hrenamed : renamed down.surroundings.record.dropLast = none := by decide +kernel
  obtain ⟨up, type, earlier, hreports, hsame⟩ := disconnected_reported hdown hrecord
  have hid : 1 = up := hsame.mpr (by rw [hrenamed]; exact fun _ hmem ↦ nomatch hmem)
  exact ⟨_, hrecord, up, type, earlier, hreports, hid⟩

/-- A connect request renames the peer of a link that a response brought up, and the link is then
reported down under an id under which it never came up. -/
theorem disconnected_under_other_id :
    let env := Wire.environment (fun app : Unit ↦ (0, app)) .near
    ∃ p, Reachable env p ∧
      reports p.surroundings.record = [.connected 1 7, .disconnected 2] := by
  intro env
  let told := (fresh (.ofSizes 18 18) 7 (.fresh (fun _ ↦ ⟨[], 1⟩) ())).run env
    (Observed.arrive .near (Frame.wire .unchecked ⟨.plain 1 0 8, ConnectMessage.encode ⟨1, 52, 7⟩⟩))
  let asked := (told.poll env 19).run env
    (Observed.arrive .near (Frame.wire .unchecked ⟨.plain 0 5 8, ConnectMessage.encode ⟨2, 52, 7⟩⟩))
  let down := (asked.poll env 19).run env (.ask .disconnect fun _ ↦ .finish (.ok ()))
  have hconnected : Reachable env (told.poll env 19) :=
    .poll 19 (.run _ (Endpoint.within_arrive _ _) (.start _ _ _))
  have hasked : Reachable env (asked.poll env 19) :=
    .poll 19 (.run _ (Endpoint.within_arrive _ _) hconnected)
  have hdown : Reachable env down := .run _ ⟨trivial, fun _ ↦ trivial⟩ hasked
  exact ⟨down, hdown, by decide +kernel⟩

end Lookout

end FramedLink
