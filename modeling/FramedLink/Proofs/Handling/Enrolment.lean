import FramedLink.Proofs.Handling.Chronicle

/-!
# Counting handlers

Handlers are registered and never taken back. Between two operations an endpoint counts those of
the handshake and all that were ever registered, wherever that was done. While a packet is handed
over it counts only what was registered since the round began, since the others have been put aside
for the round: a handler that asks how many there are of its own type is not told of itself.
-/

namespace FramedLink

variable {ω : Type}

namespace Endpoint

variable {env : Environment ω} {c : Conduct ω} {config : Config} {header : Header}
variable {e e' first : Endpoint ω} {w w' begun : ω} {beginning moment : Moment ω}
variable {packets : List Frame} {deeds : List (Done ω)}

/-- Everything that is registered in the course of some deeds, after the handlers of the
handshake. -/
def enrolment (deeds : List (Done ω)) : List (Registration ω) :=
  builtins ++ deeds.filterMap Done.registration?

def enrolled (type : UInt8) (deeds : List (Done ω)) : Nat :=
  (enrolment deeds).countP (·.type == type)

theorem enrolled_append (type : UInt8) (deeds more : List (Done ω)) :
    enrolled type (deeds ++ more) =
      enrolled type deeds + (more.filterMap Done.registration?).countP (·.type == type) := by
  calc
    enrolled type (deeds ++ more) =
        (enrolment deeds ++ more.filterMap Done.registration?).countP (·.type == type) := by
      rw [enrolled, enrolment, enrolment, List.filterMap_append, List.append_assoc]
    _ = enrolled type deeds + (more.filterMap Done.registration?).countP (·.type == type) :=
      List.countP_append

theorem registrations_request (request : Request) (e : Endpoint ω) (w : ω) :
    (request.deed?.toList.map fun deed ↦ (⟨deed, e, w⟩ : Done ω)).filterMap
      Done.registration? = [] := by
  cases request <;> rfl

/-- What a program registers is found among what it does. -/
theorem registrations_deeds (program : Program ω) (e : Endpoint ω) (w : ω) :
    (program.deeds env e w).filterMap Done.registration? = program.registrations env e w := by
  induction program generalizing e w with
  | finish outcome => rfl
  | ask request next ih =>
    rw [Program.deeds, List.filterMap_append, registrations_request, List.nil_append]
    exact ih _ _ _
  | inspect next ih => exact ih _ _ _
  | addHandler type handler next _ ih =>
    exact congrArg (List.cons ⟨type, .custom handler⟩) (ih (e.addHandler type handler) w)
  | addResetCallback callback next ih => exact ih _ _
  | addLinkCallback callback next ih => exact ih _ _
  | outside step next ih => exact ih _ _ _

theorem registrations_invocation (invocation : Invocation ω) :
    (invocation.deeds env header).filterMap Done.registration? =
      invocation.registrations env header := by
  obtain ⟨⟨type, handler⟩, e, w⟩ := invocation
  cases handler with
  | custom body => exact registrations_deeds (body header) e w
  | answerRequest =>
    unfold Invocation.deeds
    dsimp only
    split <;> rfl
  | acceptResponse =>
    unfold Invocation.deeds
    dsimp only
    split <;> rfl

theorem registrations_flatMap (invocations : List (Invocation ω)) :
    (invocations.flatMap (Invocation.deeds env header)).filterMap Done.registration? =
      invocations.flatMap (Invocation.registrations env header) := by
  induction invocations with
  | nil => rfl
  | cons invocation invocations ih =>
    calc
      ((invocation :: invocations).flatMap (Invocation.deeds env header)).filterMap
          Done.registration? =
          (invocation.deeds env header).filterMap Done.registration? ++
            (invocations.flatMap (Invocation.deeds env header)).filterMap Done.registration? := by
        rw [List.flatMap_cons, List.filterMap_append]
      _ = invocation.registrations env header ++
          invocations.flatMap (Invocation.registrations env header) := by
        rw [registrations_invocation, ih]
      _ = (invocation :: invocations).flatMap (Invocation.registrations env header) :=
        List.flatMap_cons.symm

/-- At every moment of a program, the handlers are those at its beginning and what it has registered
until then. -/
theorem handlers_comes (h : beginning.Comes env moment) :
    ∃ done, beginning.deeds env = done ++ moment.deeds env ∧
      moment.endpoint.handlers =
        beginning.endpoint.handlers ++ done.filterMap Done.registration? := by
  induction h with
  | here => exact ⟨[], rfl, (List.append_nil _).symm⟩
  | @next moment later _ hnext ih =>
    obtain ⟨done, hdeeds, hhandlers⟩ := ih
    obtain ⟨program, e, w⟩ := moment
    cases program with
    | finish outcome => cases hnext
    | ask request next =>
      cases hnext
      have hsame : (e.perform env w request).2.1.handlers = e.handlers :=
        congrArg Prod.fst (tables_perform request)
      refine ⟨done ++ request.deed?.toList.map fun deed ↦ ⟨deed, e, w⟩, ?_, ?_⟩
      · rw [hdeeds, Moment.deeds, Program.deeds, ← List.append_assoc]
        rfl
      · rw [List.filterMap_append, registrations_request, List.append_nil]
        exact hsame.trans hhandlers
    | addHandler type handler next =>
      cases hnext
      refine ⟨done ++ [⟨.register type handler, e, w⟩], ?_, ?_⟩
      · rw [hdeeds, Moment.deeds, Program.deeds, List.append_cons]
        rfl
      · rw [List.filterMap_append, ← List.append_assoc, ← hhandlers]
        rfl
    | inspect next | addResetCallback callback next | addLinkCallback callback next
    | outside step next =>
      cases hnext
      exact ⟨done, hdeeds, hhandlers⟩

/-- When a handler of a round is called, the endpoint has what those before it have registered. -/
theorem Chained.handlers_of_split {invocations : List (Invocation ω)}
    (h : Chained env header e w invocations e' w') {earlier later : List (Invocation ω)}
    {invocation : Invocation ω} (hsplit : invocations = earlier ++ invocation :: later) :
    invocation.endpoint.handlers =
      e.handlers ++ earlier.flatMap (Invocation.registrations env header) := by
  induction h generalizing earlier with
  | nil e w => simp at hsplit
  | cons registration e w _ ih =>
    cases earlier with
    | nil =>
      rw [List.nil_append, List.cons.injEq] at hsplit
      rw [← hsplit.1]
      exact (List.append_nil _).symm
    | cons before earlier =>
      rw [List.cons_append, List.cons.injEq] at hsplit
      obtain ⟨rfl, hrest⟩ := hsplit
      let before := e.invoke registration w
      calc
        invocation.endpoint.handlers = (before.left env header).1.handlers ++
            earlier.flatMap (Invocation.registrations env header) := ih hrest
        _ = e.handlers ++ before.registrations env header ++
            earlier.flatMap (Invocation.registrations env header) := by
          rw [Invocation.handlers_left]
          rfl
        _ = e.handlers ++ (before :: earlier).flatMap (Invocation.registrations env header) := by
          rw [List.append_assoc, List.flatMap_cons]

theorem TurnDeeds.handlers (h : TurnDeeds env e w packets deeds) :
    (e.turn env w).2.1.handlers = e.handlers ++ deeds.filterMap Done.registration? := by
  cases h with
  | quiet outcome s w' _ _ _ hturn =>
    rw [hturn]
    exact (List.append_nil _).symm
  | handed hhanded =>
    rw [hhanded.turn, registrations_flatMap]
    exact congrArg (e.handlers ++ ·) hhanded.chained.handlers

/-- Whatever is registered stays registered, in the order made. -/
theorem Chronicle.handlers (h : Chronicle env c first begun packets deeds e w) :
    e.handlers = first.handlers ++ deeds.filterMap Done.registration? := by
  induction h with
  | start => exact (List.append_nil _).symm
  | named id _ ih => exact ih
  | run program _ _ ih =>
    rw [handlers_run, ih, List.filterMap_append, registrations_deeds, List.append_assoc]
  | turn hturn _ ih => rw [hturn.handlers, ih, List.filterMap_append, List.append_assoc]

/-- In every run, at every moment of a program between two polls, an endpoint counts all handlers
that were registered until then, and the count never gets smaller. In a handler it counts what was
registered since its round began, so that the count is right for just those types for which there
was no handler before. -/
theorem Chronicle.handlerCount_eq (hcreated : create env config w' = (.ok first, begun))
    (h : Chronicle env c first begun packets deeds e w) :
    (∀ program moment, (Moment.mk program e w).Comes env moment → ∃ done,
      program.deeds env e w = done ++ moment.deeds env ∧
      ∀ type, moment.endpoint.handlerCount type = enrolled type (deeds ++ done)) ∧
    (∀ {morePackets : List Frame} {more : List (Done ω)} {later : Endpoint ω} {found : ω},
      Chronicle env c e w morePackets more later found →
        ∀ type, later.handlerCount type = enrolled type (deeds ++ more) ∧
          e.handlerCount type ≤ later.handlerCount type) ∧
    ∀ {header : Header} {s : Station} {found : ω} {invocations : List (Invocation ω)}
      {last : Endpoint ω} {left : ω},
      Handed env e w header s found invocations last left →
      ∀ earlier invocation later, invocations = earlier ++ invocation :: later →
      ∀ beginning ∈ invocation.start? header, ∀ moment, beginning.Comes env moment → ∃ done,
        beginning.deeds env = done ++ moment.deeds env ∧
        ∀ type,
          let now := deeds ++ (earlier.flatMap (Invocation.deeds env header) ++ done)
          enrolled type now = enrolled type deeds + moment.endpoint.handlerCount type ∧
            (moment.endpoint.handlerCount type = enrolled type now ↔ enrolled type deeds = 0) := by
  have hhandlers : e.handlers = enrolment deeds := by
    rw [h.handlers, handlers_created hcreated, enrolment]
  refine ⟨?_, ?_, ?_⟩
  · intro program moment hcomes
    obtain ⟨done, hdeeds, hmoment⟩ := handlers_comes hcomes
    refine ⟨done, hdeeds, fun type ↦ ?_⟩
    calc
      moment.endpoint.handlerCount type =
          (enrolment deeds ++ done.filterMap Done.registration?).countP (·.type == type) := by
        rw [Endpoint.handlerCount, hmoment, hhandlers]
      _ = enrolled type deeds + (done.filterMap Done.registration?).countP (·.type == type) :=
        List.countP_append
      _ = enrolled type (deeds ++ done) := (enrolled_append type deeds done).symm
  · intro morePackets more later found hlater type
    have hcount : later.handlerCount type = enrolled type (deeds ++ more) :=
      calc
        later.handlerCount type =
            (enrolment deeds ++ more.filterMap Done.registration?).countP (·.type == type) := by
          rw [Endpoint.handlerCount, hlater.handlers, hhandlers]
        _ = enrolled type deeds + (more.filterMap Done.registration?).countP (·.type == type) :=
          List.countP_append
        _ = enrolled type (deeds ++ more) := (enrolled_append type deeds more).symm
    have hbefore : e.handlerCount type = enrolled type deeds := by
      rw [Endpoint.handlerCount, hhandlers, enrolled]
    refine ⟨hcount, ?_⟩
    rw [hcount, hbefore, enrolled_append]
    exact Nat.le_add_right _ _
  · intro header s found invocations last left hhanded earlier invocation later hsplit beginning
      hstart moment hcomes
    obtain ⟨done, hdeeds, hmoment⟩ := handlers_comes hcomes
    obtain ⟨-, hendpoint, -⟩ := @Invocation.result_of_start ω env header _ _ hstart
    have hround : moment.endpoint.handlers =
        (earlier.flatMap (Invocation.deeds env header) ++ done).filterMap Done.registration? :=
      calc
        moment.endpoint.handlers =
            earlier.flatMap (Invocation.registrations env header) ++
              done.filterMap Done.registration? := by
          rw [hmoment, hendpoint, hhanded.chained.handlers_of_split hsplit]
          rfl
        _ = (earlier.flatMap (Invocation.deeds env header) ++ done).filterMap
              Done.registration? := by
          rw [List.filterMap_append, registrations_flatMap]
    refine ⟨done, hdeeds, fun type ↦ ?_⟩
    have hnow : enrolled type (deeds ++ (earlier.flatMap (Invocation.deeds env header) ++ done)) =
        enrolled type deeds + moment.endpoint.handlerCount type := by
      rw [enrolled_append, Endpoint.handlerCount, hround]
    refine ⟨hnow, ?_⟩
    rw [hnow]
    omega

/-- Two handlers are registered for one type, and both are counted. -/
theorem handlerCount_eq_two :
    let env : Environment (Wire Unit) := Wire.environment (fun app ↦ (0, app)) .near
    let program : Program (Wire Unit) :=
      .addHandler 7 (fun _ ↦ .finish (.ok ())) (.addHandler 7 (fun _ ↦ .finish (.ok ()))
        (.finish (.ok ())))
    ∃ begun w, create env (.ofSizes 18 18) (.fresh (fun _ ↦ ⟨[], 1⟩) ()) = (.ok begun, w) ∧
      (program.run env begun w).2.1.handlerCount 7 = enrolled 7 (program.deeds env begun w) ∧
      enrolled 7 (program.deeds env begun w) = 2 := by
  intro env program
  let begun : Endpoint (Wire Unit) := ofConfig (.ofSizes 18 18) 1
  let w := (create env (.ofSizes 18 18) (.fresh (fun _ ↦ ⟨[], 1⟩) ())).2
  have hcreated : create env (.ofSizes 18 18) (.fresh (fun _ ↦ ⟨[], 1⟩) ()) = (.ok begun, w) := rfl
  have hrun : Chronicle env .free begun w [] (program.deeds env begun w)
      (program.run env begun w).2.1 (program.run env begun w).2.2 :=
    .run program program.within_free .start
  obtain ⟨-, hlater, -⟩ := Chronicle.handlerCount_eq hcreated (.start (c := .free))
  exact ⟨begun, w, hcreated, (hlater hrun 7).1, by decide +kernel⟩

/-- A handler that asks how many there are of its type is told that there are none, while it has
been registered and runs. -/
theorem counting_in_round :
    let env : Environment (Wire (List Nat)) := Wire.environment (fun app ↦ (0, app)) .near
    let counting : Program (Wire (List Nat)) := .ask (.handlerCount 7) fun count ↦
      .outside (fun w ↦ { w with app := w.app ++ [count] }) fun _ ↦ .finish (.ok ())
    let program : Program (Wire (List Nat)) := .addHandler 7 (fun _ ↦ counting)
      (.outside ((Wire.pipe .near).modify (Pipe.feed [0x23, 7, 1, 0, 0, 0, 0, 0, 0, 0])) fun _ ↦
        .finish (.ok ()))
    ∃ begun w, create env (.ofSizes 18 18) (.fresh (fun _ ↦ ⟨[], 1⟩) []) = (.ok begun, w) ∧
      let ran := (program.run env begun w).2
      let polled := (ran.1.poll env 3 ran.2).2
      enrolled 7 (program.deeds env begun w) = 1 ∧ ran.1.handlerCount 7 = 1 ∧
        polled.2.app = [0] ∧ polled.1.handlerCount 7 = 1 := by
  intro env counting program
  exact ⟨ofConfig (.ofSizes 18 18) 1, _, rfl, by decide +kernel⟩

end Endpoint

end FramedLink
