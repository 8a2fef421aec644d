import FramedLink.Proofs.Handling.Undisturbed

/-!
# Moments of a handler

A program of the application goes on step by step, with the endpoint and the surroundings that each
step leaves it with (`Moment.next?`). What is to hold all through a handler is said of every moment
that it comes to (`Moment.Comes`).

The handlers of a round run one after the other: each takes over the endpoint and the surroundings
from the one before, with the reading cursor back at the start of the payload (`Chained`).
-/

namespace FramedLink

variable {ω : Type}

/-! ## Programs -/

/-- A moment of a program: what is left of it, and what it goes on with. -/
structure Moment (ω : Type) where
  program : Program ω
  endpoint : Endpoint ω
  surroundings : ω

namespace Moment

def run (env : Environment ω) (moment : Moment ω) : Except EndpointError Unit × Endpoint ω × ω :=
  moment.program.run env moment.endpoint moment.surroundings

/-- The next moment of a program, unless it has finished. -/
def next? (env : Environment ω) : Moment ω → Option (Moment ω)
  | ⟨.finish _, _, _⟩ => none
  | ⟨.ask request next, e, w⟩ =>
    let (answer, e, w) := e.perform env w request
    some ⟨next answer, e, w⟩
  | ⟨.inspect next, e, w⟩ => some ⟨next e.toStation, e, w⟩
  | ⟨.addHandler type handler next, e, w⟩ => some ⟨next, e.addHandler type handler, w⟩
  | ⟨.addResetCallback callback next, e, w⟩ => some ⟨next, e.addResetCallback callback, w⟩
  | ⟨.addLinkCallback callback next, e, w⟩ => some ⟨next, e.addLinkCallback callback, w⟩
  | ⟨.outside step next, e, w⟩ => some ⟨next (step w), e, step w⟩

inductive Comes (env : Environment ω) (first : Moment ω) : Moment ω → Prop where
  | here : Comes env first first
  | next {moment later : Moment ω} (hcomes : Comes env first moment)
      (hnext : moment.next? env = some later) : Comes env first later

variable {env : Environment ω} {c : Conduct ω} {header : Header} {first moment later : Moment ω}

end Moment

def Program.registrations (env : Environment ω) :
    Program ω → Endpoint ω → ω → List (Registration ω)
  | .finish _, _, _ => []
  | .ask request next, e, w =>
    let (answer, e, w) := e.perform env w request
    (next answer).registrations env e w
  | .inspect next, e, w => (next e.toStation).registrations env e w
  | .addHandler type handler next, e, w =>
    ⟨type, .custom handler⟩ :: next.registrations env (e.addHandler type handler) w
  | .addResetCallback callback next, e, w => next.registrations env (e.addResetCallback callback) w
  | .addLinkCallback callback next, e, w => next.registrations env (e.addLinkCallback callback) w
  | .outside step next, e, w => (next (step w)).registrations env e (step w)

namespace Endpoint

variable {env : Environment ω} {c : Conduct ω} {header : Header} {I : Endpoint ω → ω → Prop}
variable {e e' : Endpoint ω} {w w' : ω} {first moment later : Moment ω}

/-- No request registers anything. -/
theorem tables_perform (request : Request) :
    (e.perform env w request).2.1.tables = e.tables := by
  cases request with
  | send type id size => exact (aside_send type id size).tables
  | sendWritten type id => exact (aside_send type id _).tables
  | requestConnection id => exact (aside_sendDescription _ id).tables
  | checkConnection => exact aside_checkConnection.tables
  | disconnect => exact aside_disconnect.tables
  | incoming _ | outgoing _ | poll | handlerCount _ | channelAvailable | channelRead _
  | channelWrite _ => rfl

theorem reception_perform {request : Request} (hother : ∀ op, request ≠ .incoming op) :
    (e.perform env w request).2.1.reception = e.reception := by
  cases request with
  | incoming op => exact absurd rfl (hother op)
  | send type id size => exact (aside_send type id size).reception
  | sendWritten type id => exact (aside_send type id _).reception
  | requestConnection id => exact (aside_sendDescription _ id).reception
  | checkConnection => exact aside_checkConnection.reception
  | disconnect => exact aside_disconnect.reception
  | outgoing _ | poll | handlerCount _ | channelAvailable | channelRead _ | channelWrite _ => rfl

/-- What a program registers stands behind what was registered before, in the order made. -/
theorem handlers_run (program : Program ω) (e : Endpoint ω) (w : ω) :
    (program.run env e w).2.1.handlers = e.handlers ++ program.registrations env e w := by
  induction program generalizing e w with
  | finish outcome => exact (List.append_nil _).symm
  | ask request next ih =>
    have hsame : (e.perform env w request).2.1.handlers = e.handlers :=
      congrArg Prod.fst (tables_perform request)
    rw [← hsame]
    exact ih _ _ _
  | inspect next ih => exact ih _ _ _
  | addHandler type handler next _ ih =>
    have hbehind : (e.addHandler type handler).handlers =
        e.handlers ++ [⟨type, .custom handler⟩] := rfl
    have hlater := ih (e.addHandler type handler) w
    rw [hbehind, List.append_assoc] at hlater
    exact hlater
  | addResetCallback callback next ih => exact ih _ _
  | addLinkCallback callback next ih => exact ih _ _
  | outside step next ih => exact ih _ _ _

theorem dispatching_comes (h : first.Comes env moment) :
    moment.endpoint.dispatching = first.endpoint.dispatching := by
  induction h with
  | here => rfl
  | @next moment later _ hnext ih =>
    rw [← ih]
    obtain ⟨program, e, w⟩ := moment
    cases program with
    | finish outcome => cases hnext
    | ask request next =>
      cases hnext
      exact dispatching_perform request
    | inspect _ | addHandler _ _ _ | addResetCallback _ _ | addLinkCallback _ _ | outside _ _ =>
      cases hnext
      rfl

/-- An invariant of handling holds at every moment of a program within the conduct. -/
theorem Upheld.comes (hI : Upheld env c header I) (h : first.Comes env moment)
    (hprogram : first.program.Within c) (hwithin : first.endpoint.Within c)
    (hfirst : I first.endpoint first.surroundings) :
    I moment.endpoint moment.surroundings ∧ moment.endpoint.Within c ∧
      moment.program.Within c := by
  induction h with
  | here => exact ⟨hfirst, hwithin, hprogram⟩
  | @next moment later _ hnext ih =>
    obtain ⟨hkept, hstill, hrest⟩ := ih
    obtain ⟨program, e, w⟩ := moment
    cases program with
    | finish outcome => cases hnext
    | ask request next =>
      cases hnext
      obtain ⟨hanswered, hwithin⟩ := hI.perform hrest.1 hstill hkept
      exact ⟨hanswered, hwithin, hrest.2 _⟩
    | inspect next =>
      cases hnext
      exact ⟨hkept, hstill, hrest _⟩
    | addHandler type handler next =>
      cases hnext
      obtain ⟨hadded, hwithin⟩ : I (e.addHandler type handler) w ∧
          (e.addHandler type handler).Within c := hI.addHandler hrest.1 hstill hkept
      exact ⟨hadded, hwithin, hrest.2⟩
    | addResetCallback callback next =>
      cases hnext
      obtain ⟨hadded, hwithin⟩ := hI.addResetCallback hrest.1 hstill hkept
      exact ⟨hadded, hwithin, hrest.2⟩
    | addLinkCallback callback next =>
      cases hnext
      obtain ⟨hadded, hwithin⟩ := hI.addLinkCallback hrest.1 hstill hkept
      exact ⟨hadded, hwithin, hrest.2⟩
    | outside step next =>
      cases hnext
      exact ⟨hI.change hrest.1 hkept, hstill, hrest.2 _⟩

end Endpoint

/-! ## Handlers -/

/-- A run of a handler: by which registration, and what it begins with. -/
structure Invocation (ω : Type) where
  registration : Registration ω
  endpoint : Endpoint ω
  surroundings : ω

namespace Invocation

variable {env : Environment ω} {header : Header} {invocation : Invocation ω}

def result (env : Environment ω) (header : Header) (invocation : Invocation ω) :
    Except EndpointError Unit × Endpoint ω × ω :=
  invocation.endpoint.runHandler env header invocation.registration.handler
    invocation.surroundings

def failed (env : Environment ω) (header : Header) (invocation : Invocation ω) : Bool :=
  !(invocation.result env header).1.isOk

/-- What the handler leaves, with a note if it has failed. -/
def left (env : Environment ω) (header : Header) (invocation : Invocation ω) :
    Endpoint ω × ω :=
  match invocation.result env header with
  | (.ok (), e, w) => (e, w)
  | (.error error, e, w) => (e, env.note (.handlerFailed header error) w)

def start? (header : Header) (invocation : Invocation ω) : Option (Moment ω) :=
  match invocation.registration.handler with
  | .custom body => some ⟨body header, invocation.endpoint, invocation.surroundings⟩
  | _ => none

def registrations (env : Environment ω) (header : Header) (invocation : Invocation ω) :
    List (Registration ω) :=
  (invocation.start? header).elim [] fun moment ↦
    moment.program.registrations env moment.endpoint moment.surroundings

end Invocation

namespace Invocation

variable {env : Environment ω} {header : Header} {invocation : Invocation ω}

theorem left_fst : (invocation.left env header).1 = (invocation.result env header).2.1 := by
  unfold left
  split
  case h_1 hran => rw [hran]
  case h_2 hran => rw [hran]

/-- A handler of the application is run as a program. -/
theorem result_of_start {moment : Moment ω} (hstart : invocation.start? header = some moment) :
    invocation.result env header = moment.run env ∧ moment.endpoint = invocation.endpoint ∧
      moment.program.registrations env moment.endpoint moment.surroundings =
        invocation.registrations env header := by
  have hregistrations : invocation.registrations env header =
      moment.program.registrations env moment.endpoint moment.surroundings := by
    rw [registrations, hstart]
    rfl
  obtain ⟨⟨type, handler⟩, e, w⟩ := invocation
  cases handler with
  | custom body =>
    obtain rfl := Option.some_inj.mp hstart
    exact ⟨rfl, rfl, hregistrations.symm⟩
  | answerRequest | acceptResponse => cases hstart

/-- A handler within a conduct begins with a program within it. -/
theorem within_of_start {c : Conduct ω} {moment : Moment ω}
    (hstart : invocation.start? header = some moment) (h : invocation.registration.Within c) :
    moment.program.Within c := by
  obtain ⟨⟨type, handler⟩, e, w⟩ := invocation
  cases handler with
  | custom body =>
    obtain rfl := Option.some_inj.mp hstart
    exact h header
  | answerRequest | acceptResponse => cases hstart

/-- The handlers of the handshake register nothing, and they have no part in the reception but for
the cursor. -/
theorem aside_of_builtin (hbuiltin : invocation.start? header = none) :
    ∃ cursor, (invocation.endpoint.withCursor cursor).Aside (invocation.result env header).2.1 := by
  obtain ⟨⟨type, handler⟩, e, w⟩ := invocation
  obtain ⟨cursor, hread⟩ := e.readMessage_eq
  refine ⟨cursor, ?_⟩
  cases handler with
  | custom body => cases hbuiltin
  | answerRequest =>
    simp only [result, Endpoint.runHandler, hread]
    cases (ConnectMessage.read e.reception.region).1 with
    | error error => exact .refl _
    | ok message =>
      exact (Endpoint.aside_recordPeer _ _).trans (Endpoint.aside_sendDescription _ _)
  | acceptResponse =>
    simp only [result, Endpoint.runHandler, hread]
    cases (ConnectMessage.read e.reception.region).1 with
    | error error => exact .refl _
    | ok message => exact Endpoint.aside_acceptResponse _

theorem handlers_left :
    (invocation.left env header).1.handlers =
      invocation.endpoint.handlers ++ invocation.registrations env header := by
  rw [left_fst]
  cases hstart : invocation.start? header with
  | none =>
    obtain ⟨cursor, haside⟩ := @aside_of_builtin _ env header invocation hstart
    rw [registrations, hstart]
    exact (congrArg Prod.fst haside.tables).trans (List.append_nil _).symm
  | some moment =>
    obtain ⟨hresult, hendpoint, hregistrations⟩ := @result_of_start _ env header _ _ hstart
    rw [hresult, ← hregistrations, ← hendpoint]
    exact Endpoint.handlers_run moment.program moment.endpoint moment.surroundings

theorem dispatching_left :
    (invocation.left env header).1.dispatching = invocation.endpoint.dispatching := by
  rw [left_fst]
  cases hstart : invocation.start? header with
  | none =>
    obtain ⟨cursor, haside⟩ := @aside_of_builtin _ env header invocation hstart
    exact haside.dispatching
  | some moment =>
    obtain ⟨hresult, hendpoint, -⟩ := @result_of_start _ env header _ _ hstart
    rw [hresult, ← hendpoint]
    exact Endpoint.dispatching_run moment.program

end Invocation

namespace Endpoint

variable {env : Environment ω} {c : Conduct ω} {header : Header} {I : Endpoint ω → ω → Prop}
variable {e e' : Endpoint ω} {w w' : ω} {invocation : Invocation ω}
variable {invocations : List (Invocation ω)}

/-- A handler is called: it begins with the reading cursor at the start of the payload. -/
def invoke (registration : Registration ω) (e : Endpoint ω) (w : ω) : Invocation ω :=
  ⟨registration, e.withCursor headerSize, w⟩

/-- Handlers that run one after the other, each on what the one before has left. -/
inductive Chained (env : Environment ω) (header : Header) :
    Endpoint ω → ω → List (Invocation ω) → Endpoint ω → ω → Prop where
  | nil (e : Endpoint ω) (w : ω) : Chained env header e w [] e w
  | cons (registration : Registration ω) (e : Endpoint ω) (w : ω)
      {invocations : List (Invocation ω)} {e' : Endpoint ω} {w' : ω}
      (hrest : Chained env header ((e.invoke registration w).left env header).1
        ((e.invoke registration w).left env header).2 invocations e' w') :
      Chained env header e w (e.invoke registration w :: invocations) e' w'

/-- A round is a chain of the handlers of the packet's type, in the order of the list. -/
theorem chained_runRound (env : Environment ω) (header : Header)
    (registrations : List (Registration ω)) (round : Round) (e : Endpoint ω) (w : ω) :
    ∃ invocations e' w', Chained env header e w invocations e' w' ∧
      invocations.map Invocation.registration =
        registrations.filter (·.type == header.type) ∧
      runRound env header registrations round e w =
        (⟨round.matched + invocations.length,
          round.failed + invocations.countP (Invocation.failed env header)⟩, e', w') := by
  induction registrations generalizing round e w with
  | nil => exact ⟨[], e, w, .nil e w, rfl, rfl⟩
  | cons registration registrations ih =>
    by_cases htype : registration.type = header.type
    case neg =>
      obtain ⟨invocations, e', w', hchained, hinvoked, hround⟩ := ih round e w
      refine ⟨invocations, e', w', hchained, ?_, ?_⟩
      · rw [List.filter_cons_of_neg (by simpa using htype)]
        exact hinvoked
      · rw [runRound, if_neg htype]
        exact hround
    case pos =>
      let invocation := e.invoke registration w
      let counted : Round :=
        ⟨round.matched + 1, round.failed + if invocation.failed env header then 1 else 0⟩
      have hstep : runRound env header (registration :: registrations) round e w =
          runRound env header registrations counted (invocation.left env header).1
            (invocation.left env header).2 := by
        have hresult : ({ e with toStation := e.toStation.rewindIncoming } : Endpoint ω).runHandler
          env header registration.handler w = invocation.result env header := rfl
        rw [runRound, if_pos htype]
        dsimp only [counted]
        rw [hresult]
        rcases hran : invocation.result env header with ⟨_ | _, ran, surroundings⟩ <;>
          simp only [Invocation.failed, Invocation.left, hran] <;> rfl
      obtain ⟨invocations, e', w', hchained, hinvoked, hround⟩ :=
        ih counted (invocation.left env header).1 (invocation.left env header).2
      refine ⟨invocation :: invocations, e', w', .cons registration e w hchained, ?_, ?_⟩
      · rw [List.filter_cons_of_pos (by simpa using htype), List.map_cons, hinvoked]
        rfl
      · rw [hstep, hround, List.length_cons, List.countP_cons]
        dsimp only [counted]
        congr 2 <;> omega

/-- An invariant of handling holds when each handler of a chain is called, and after the last. -/
theorem Upheld.chained (hI : Upheld env c header I)
    (h : Chained env header e w invocations e' w')
    (hall : ∀ invocation ∈ invocations,
      invocation.registration.Within c ∧ invocation.registration.type = header.type)
    (hwithin : e.Within c) (hfirst : I e w) :
    (∀ invocation ∈ invocations, ∃ before : Endpoint ω,
      invocation.endpoint = before.withCursor headerSize ∧ before.Within c ∧
        I before invocation.surroundings) ∧
      I e' w' ∧ e'.Within c := by
  induction h with
  | nil e w => exact ⟨by simp, hfirst, hwithin⟩
  | cons registration e w _ ih =>
    rw [List.forall_mem_cons] at hall
    have hran : I ((e.invoke registration w).result env header).2.1
          ((e.invoke registration w).result env header).2.2 ∧
        ((e.invoke registration w).result env header).2.1.Within c :=
      hI.runHandler hall.1.1 hall.1.2 hwithin hfirst
    have hleft : I ((e.invoke registration w).left env header).1
          ((e.invoke registration w).left env header).2 ∧
        ((e.invoke registration w).left env header).1.Within c := by
      rcases hresult : (e.invoke registration w).result env header with
        ⟨error | _, ran, surroundings⟩ <;> simp only [hresult, Invocation.left] at hran ⊢
      · exact ⟨hI.failed error hran.1, hran.2⟩
      · exact hran
    obtain ⟨hlater, hlast⟩ := ih hall.2 hleft.2 hleft.1
    refine ⟨?_, hlast⟩
    rw [List.forall_mem_cons]
    exact ⟨⟨e, rfl, hwithin, hfirst⟩, hlater⟩

/-- The handlers of a chain register one after the other. -/
theorem Chained.handlers (h : Chained env header e w invocations e' w') :
    e'.handlers =
      e.handlers ++ invocations.flatMap (Invocation.registrations env header) := by
  induction h with
  | nil e w => exact (List.append_nil _).symm
  | @cons registration e w invocations e' w' _ ih =>
    let first := e.invoke registration w
    calc
      e'.handlers = (first.left env header).1.handlers ++
          invocations.flatMap (Invocation.registrations env header) := ih
      _ = e.handlers ++ first.registrations env header ++
          invocations.flatMap (Invocation.registrations env header) := by
        rw [Invocation.handlers_left]
        rfl
      _ = e.handlers ++ (first :: invocations).flatMap (Invocation.registrations env header) := by
        rw [List.append_assoc, List.flatMap_cons]

theorem Chained.dispatching (h : Chained env header e w invocations e' w') :
    ∀ invocation ∈ invocations, invocation.endpoint.dispatching = e.dispatching := by
  induction h with
  | nil e w => exact fun _ hmem ↦ nomatch hmem
  | cons registration e w _ ih =>
    rw [List.forall_mem_cons]
    refine ⟨rfl, fun invocation hmem ↦ ?_⟩
    exact (ih invocation hmem).trans Invocation.dispatching_left

end Endpoint

end FramedLink
