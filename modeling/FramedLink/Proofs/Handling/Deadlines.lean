import FramedLink.Proofs.Handling.Course
import FramedLink.Proofs.Reception.Arrivals

/-!
# Deadlines

A turn that finds octets ready first gives up what is late, and then sets the deadline by its
reading of the clock. What it does from there on moves no deadline: the one that was set stands, or
nothing is held and there is none (`Station.KeepsTime`). So in every run the deadline, if there is
one, counts from the last reading in a turn that found octets, and there is one as long as anything
is held (`Course.dated`). Packets are counted as stalled by turns that find them late, and by
nothing else (`Endpoint.stalls_poll`).
-/

namespace FramedLink

variable {ω : Type}

namespace Station

variable {s s' : Station} {now : Millis}

/-- A change of a station that moves no deadline, and counts no packet as stalled. A deadline is
only given up when nothing is held any more. -/
structure KeepsTime (s s' : Station) : Prop where
  config : s'.config = s.config
  stalls : s'.counters.stalls = s.counters.stalls
  deadline : s'.reception.deadline = s.reception.deadline ∨
    s'.reception.deadline = none ∧ s'.reception.filled = 0

theorem keepsTime_clear (hconfig : s'.config = s.config)
    (hstalls : s'.counters.stalls = s.counters.stalls) : s.KeepsTime s'.clearReception :=
  ⟨hconfig, hstalls, .inr ⟨rfl, rfl⟩⟩

theorem keepsTime_resync (hconfig : s'.config = s.config)
    (hstalls : s'.counters.stalls = s.counters.stalls)
    (hdeadline : s'.reception.deadline = s.reception.deadline) : s.KeepsTime s'.resync := by
  unfold resync
  split
  · exact ⟨hconfig, hstalls, .inl hdeadline⟩
  · exact keepsTime_clear hconfig hstalls

theorem keepsTime_judgeHeader (s : Station) : s.KeepsTime s.judgeHeader.1 := by
  unfold judgeHeader
  split
  · split
    · exact ⟨rfl, rfl, .inl rfl⟩
    · exact keepsTime_resync rfl rfl rfl
  · exact keepsTime_resync rfl rfl rfl

/-- Whether a packet is late at a time. -/
def Late (s : Station) (now : Millis) : Prop :=
  s.reception.deadline.any (· < now) = true

instance : Decidable (s.Late now) :=
  inferInstanceAs (Decidable (_ = true))

theorem expire_of_late (h : s.Late now) : s.expire now = s.giveUp :=
  if_pos h

theorem not_late_iff :
    ¬ s.Late now ↔ ∀ time, s.reception.deadline = some time → now ≤ time := by
  unfold Late
  cases hdeadline : s.reception.deadline with
  | none => simp
  | some time => simp [UInt64.not_lt]

/-- When the next octets show up, a packet that is late is counted as stalled. -/
theorem stalls_expire (s : Station) (now : Millis) :
    (s.expire now).1.counters.stalls =
      s.counters.stalls + if s.Late now ∧ 0 < s.reception.filled then 1 else 0 := by
  by_cases hlate : s.Late now
  · rw [expire_of_late hlate, giveUp]
    by_cases hfilled : 0 < s.reception.filled
    · simp only [hlate, hfilled, and_self, if_true]
    · simp only [hlate, hfilled, and_false, if_false]
      rfl
  · have hsame : s.expire now = (s, none) := if_neg hlate
    simp only [hsame, hlate, false_and, if_false, Nat.add_zero]

theorem config_expire (s : Station) (now : Millis) : (s.expire now).1.config = s.config := by
  unfold expire giveUp
  dsimp only
  split
  · split <;> rfl
  · rfl

end Station

namespace Endpoint

variable {env : Environment ω} {c : Conduct ω} {config : Config} {e e' : Endpoint ω} {w w' : ω}
variable {polls : List (Polled ω)} {ready : Nat} {found : ω} {readings : List Millis}

theorem keepsTime_completePacket (hwithin : e.Within .free) :
    e.toStation.KeepsTime (e.completePacket env w).2.1.toStation := by
  unfold completePacket
  cases e.judgePacket with
  | deliver header =>
    let opened : Endpoint ω := { e with toStation := e.openPacket }
    have hopened : opened.Within .free := hwithin.of_tables rfl
    obtain ⟨hundisturbed, -⟩ :=
      (@upheld_undisturbed ω env .free opened.toStation header).dispatch
        (w := w) (fun _ hkept ↦ hkept.trans ⟨rfl, rfl, rfl, rfl⟩) id hopened (.refl _)
    exact Station.keepsTime_clear hundisturbed.config
      (congrArg (fun refusals ↦ refusals.2.2.2) hundisturbed.counters)
  | badTrailer error => exact Station.keepsTime_clear rfl rfl
  | unreadable error => exact Station.keepsTime_clear rfl rfl

theorem keepsTime_advance (before : Nat) (hwithin : e.Within .free) :
    e.toStation.KeepsTime (e.advance env before w).2.1.toStation := by
  have hcomplete {e' : Endpoint ω} {w' : ω} (hjudged : e.toStation.KeepsTime e'.toStation)
      (hwithin : e'.Within .free) :
      e.toStation.KeepsTime
        (if 0 < e'.reception.packetSize ∧ e'.reception.packetSize ≤ e'.reception.filled then
          e'.completePacket env w' else (0, e', w')).2.1.toStation := by
    split
    · have hdone := @keepsTime_completePacket ω env e' w' hwithin
      refine ⟨hdone.config.trans hjudged.config, hdone.stalls.trans hjudged.stalls, .inr ?_⟩
      unfold completePacket
      exact ⟨rfl, rfl⟩
    · exact hjudged
  unfold advance
  by_cases hheader : before < headerSize ∧ headerSize ≤ e.reception.filled
  · rw [if_pos hheader]
    exact @hcomplete (noteStep env e w e.judgeHeader).1 _ e.keepsTime_judgeHeader
      (hwithin.of_tables rfl)
  · rw [if_neg hheader]
    exact hcomplete ⟨rfl, rfl, .inl rfl⟩ hwithin

theorem keepsTime_readPortion (size : Nat) (hwithin : e.Within .free) :
    e.toStation.KeepsTime (e.readPortion env size w).2.1.toStation := by
  have hadvanced (stored : Bytes) (count : Nat) (w : ω) :
      e.toStation.KeepsTime (({ e with toStation := e.collect stored count } :
        Endpoint ω).advance env e.reception.filled w).2.1.toStation := by
    have hkept := @keepsTime_advance ω env { e with toStation := e.collect stored count } w
      e.reception.filled (hwithin.of_tables rfl)
    exact ⟨hkept.config, hkept.stalls, hkept.deadline⟩
  unfold readPortion
  split
  · exact ⟨rfl, rfl, .inl rfl⟩
  · dsimp only
    split
    · exact ⟨rfl, rfl, .inl rfl⟩
    · split
      · exact ⟨rfl, rfl, .inl rfl⟩
      · exact hadvanced _ _ _

/-- What a turn does that finds octets ready. -/
theorem turn_of_found (hfound : env.channel.available w = (.ok ready, found)) (hready : ready ≠ 0) :
    e.turn env w =
      let begun := e.waiting env (env.now found).1 (env.now found).2
      let size := begun.1.reception.portion ready
      if size = 0 then (.idle, begun) else begun.1.readPortion env size begun.2 := by
  unfold turn
  rw [hfound]
  dsimp only
  rw [if_neg hready]
  rfl

/-- A turn that finds octets sets the deadline, and moves it no more. -/
theorem keepsTime_turn (hwithin : e.Within .free)
    (hfound : env.channel.available w = (.ok ready, found)) (hready : ready ≠ 0) :
    (e.waiting env (env.now found).1 (env.now found).2).1.toStation.KeepsTime
      (e.turn env w).2.1.toStation := by
  rw [turn_of_found hfound hready]
  dsimp only
  split
  · exact ⟨rfl, rfl, .inl rfl⟩
  · exact keepsTime_readPortion _ (hwithin.of_tables rfl)

theorem config_turn (hwithin : e.Within .free)
    (hfound : env.channel.available w = (.ok ready, found)) (hready : ready ≠ 0) :
    (e.turn env w).2.1.config = e.config :=
  (keepsTime_turn hwithin hfound hready).config.trans (e.config_expire (env.now found).1)

/-- A turn counts a packet as stalled if octets show up and it is late. -/
theorem stalls_turn (hwithin : e.Within .free)
    (hfound : env.channel.available w = (.ok ready, found)) (hready : ready ≠ 0) :
    (e.turn env w).2.1.counters.stalls =
      e.counters.stalls + if e.Late (env.now found).1 ∧ 0 < e.reception.filled then 1 else 0 :=
  (keepsTime_turn hwithin hfound hready).stalls.trans (e.stalls_expire _)

end Endpoint

/-- The deadline, if there is one, counts from the last of some readings of the clock, and there is
one as long as anything is held. -/
structure Station.Dated (readings : List Millis) (s : Station) : Prop where
  deadline {time : Millis} : s.reception.deadline = some time →
    ∃ reading, readings.getLast? = some reading ∧ time = reading.after s.config.stallTimeout
  partly : 0 < s.reception.filled → ∃ time, s.reception.deadline = some time

/-- What is dated is not late at a reading in time. -/
theorem Station.Dated.le_deadline {s : Station} {readings : List Millis} (h : s.Dated readings)
    {now : Millis} (htime : ∀ earlier ∈ readings.getLast?,
      Endpoint.InTime s.config.stallTimeout earlier now) :
    ∀ time, s.reception.deadline = some time → now ≤ time := by
  intro time hset
  obtain ⟨reading, hlast, rfl⟩ := h.deadline hset
  exact (htime reading hlast).le_after

/-- What is held is late at a reading that is not in time. -/
theorem Station.Dated.late_iff {s : Station} {readings : List Millis} (h : s.Dated readings)
    (hfilled : 0 < s.reception.filled) :
    ∃ reading, readings.getLast? = some reading ∧
      ∀ now, s.Late now ↔ ¬ Endpoint.InTime s.config.stallTimeout reading now := by
  obtain ⟨time, hset⟩ := h.partly hfilled
  obtain ⟨reading, hlast, rfl⟩ := h.deadline hset
  refine ⟨reading, hlast, fun now ↦ ?_⟩
  have hnow : now.toNat < UInt64.size := now.toNat_lt
  unfold Station.Late Endpoint.InTime
  rw [hset, Option.any_some, decide_eq_true_iff, UInt64.lt_iff_toNat_lt, Millis.toNat_after]
  omega

/-- The readings of the clock in those turns of a poll that found octets ready. -/
def Polled.readings (env : Environment ω) (polled : Polled ω) : List Millis :=
  polled.endpoint.turnReadings env polled.fuel polled.surroundings

namespace Endpoint

variable {env : Environment ω} {c : Conduct ω} {config : Config} {e e' : Endpoint ω} {w w' : ω}
variable {polls : List (Polled ω)} {ready : Nat} {found : ω} {readings : List Millis}

/-- A turn that finds octets dates the deadline anew. -/
theorem dated_turn (readings : List Millis) (hwithin : e.Within .free)
    (hfound : env.channel.available w = (.ok ready, found)) (hready : ready ≠ 0) :
    (e.turn env w).2.1.Dated (readings ++ [(env.now found).1]) := by
  have hkept := @keepsTime_turn ω env e w ready found hwithin hfound hready
  have hset : (e.waiting env (env.now found).1 (env.now found).2).1.reception.deadline =
      some ((env.now found).1.after (e.turn env w).2.1.config.stallTimeout) := by
    rw [hkept.config]
    rfl
  constructor
  case deadline =>
    intro time htime
    refine ⟨_, List.getLast?_concat, ?_⟩
    rcases hkept.deadline with hsame | ⟨hnone, -⟩
    · rw [hsame, hset] at htime
      exact (Option.some_inj.mp htime).symm
    · rw [hnone] at htime
      cases htime
  case partly =>
    intro hfilled
    rcases hkept.deadline with hsame | ⟨-, hempty⟩
    · exact ⟨_, hsame.trans hset⟩
    · rw [hempty] at hfilled
      exact absurd hfilled (Nat.lt_irrefl 0)

/-- What every turn that finds octets keeps, a poll keeps. It may speak of the readings of the clock
that are still to come. -/
theorem pollFrom_readings {I : List Millis → Endpoint ω → ω → Prop}
    (hturn : ∀ {later e w ready found}, I ((env.now found).1 :: later) e w →
      env.channel.available w = (.ok (ready + 1), found) →
      I later (e.turn env w).2.1 (e.turn env w).2.2)
    (hnone : ∀ {e w}, I [] e w → I [] e (env.channel.available w).2)
    (fuel packets : Nat) (h : I (e.turnReadings env fuel w) e w) :
    I [] (pollFrom env fuel packets e w).2.1 (pollFrom env fuel packets e w).2.2 := by
  induction fuel generalizing packets e w with
  | zero => exact h
  | succ fuel ih =>
    rw [turnReadings] at h
    rcases hfound : env.channel.available w with ⟨error | ready, found⟩
    · rw [hfound] at h
      have hasked := hnone h
      rw [hfound] at hasked
      rw [pollFrom, turn_of_error hfound]
      cases error <;> exact hasked
    · rw [hfound] at h
      cases ready with
      | zero =>
        have hasked := hnone h
        rw [hfound] at hasked
        rw [pollFrom, turn_of_not_ready hfound]
        exact hasked
      | succ ready =>
        have hkept := hturn h hfound
        rw [pollFrom]
        rcases hresult : e.turn env w with ⟨outcome, e', w'⟩
        rw [hresult] at hkept
        cases outcome with
        | received more => exact ih _ hkept
        | idle | closed | failed error => exact hkept

/-- A poll dates the deadline by its last turn that found octets, if there was one. -/
theorem dated_pollFrom (h : e.Dated readings) (hwithin : e.Within .free) (fuel packets : Nat) :
    (pollFrom env fuel packets e w).2.1.Dated (readings ++ e.turnReadings env fuel w) := by
  let I (later : List Millis) (e' : Endpoint ω) (_ : ω) : Prop :=
    ∃ earlier, earlier ++ later = readings ++ e.turnReadings env fuel w ∧ e'.Dated earlier ∧
      e'.Within .free
  have hturn {later : List Millis} {e w} {ready : Nat} {found : ω}
      (h : I ((env.now found).1 :: later) e w)
      (hfound : env.channel.available w = (.ok (ready + 1), found)) :
      I later (e.turn env w).2.1 (e.turn env w).2.2 := by
    obtain ⟨earlier, hall, -, hwithin⟩ := h
    exact ⟨earlier ++ [(env.now found).1], by rwa [← List.append_cons],
      dated_turn _ hwithin hfound (Nat.succ_ne_zero _), within_turn hwithin _⟩
  obtain ⟨earlier, hall, hdated, -⟩ :=
    pollFrom_readings hturn id fuel packets ⟨readings, rfl, h, hwithin⟩
  rwa [← hall, List.append_nil]

/-- As long as the clock is read in time, no packet counts as stalled. -/
theorem stalls_pollFrom (h : e.Dated readings) (hwithin : e.Within .free) {fuel : Nat}
    (hpaced : Paced e.config.stallTimeout readings.getLast? (e.turnReadings env fuel w))
    (packets : Nat) :
    (pollFrom env fuel packets e w).2.1.counters.stalls = e.counters.stalls := by
  let I (later : List Millis) (e' : Endpoint ω) (_ : ω) : Prop :=
    ∃ earlier, e'.Dated earlier ∧ Paced e.config.stallTimeout earlier.getLast? later ∧
      e'.Within .free ∧ e'.config = e.config ∧ e'.counters.stalls = e.counters.stalls
  have hturn {later : List Millis} {e' w} {ready : Nat} {found : ω}
      (h : I ((env.now found).1 :: later) e' w)
      (hfound : env.channel.available w = (.ok (ready + 1), found)) :
      I later (e'.turn env w).2.1 (e'.turn env w).2.2 := by
    obtain ⟨earlier, hdated, hpaced, hwithin, hconfig, hstalls⟩ := h
    obtain ⟨htime, hlater⟩ := hpaced.of_cons
    have hearly : ¬ e'.Late (env.now found).1 :=
      Station.not_late_iff.mpr (hdated.le_deadline (hconfig.symm ▸ htime))
    refine ⟨earlier ++ [(env.now found).1],
      dated_turn _ hwithin hfound (Nat.succ_ne_zero _), ?_, within_turn hwithin _,
      (config_turn hwithin hfound (Nat.succ_ne_zero _)).trans hconfig, ?_⟩
    · rwa [List.getLast?_concat]
    · rw [stalls_turn hwithin hfound (Nat.succ_ne_zero _), if_neg (fun h ↦ hearly h.1)]
      exact hstalls
  obtain ⟨-, -, -, -, -, hstalls⟩ :=
    pollFrom_readings hturn id fuel packets ⟨readings, h, hpaced, hwithin, rfl, rfl⟩
  exact hstalls

/-- A poll whose readings of the clock are in time one after the other counts a packet as stalled
if its first turn finds it late. -/
theorem stalls_poll (hidle : e.dispatching = false) (hwithin : e.Within .free)
    (hfound : env.channel.available w = (.ok ready, found)) (hready : ready ≠ 0) {fuel : Nat}
    (hpaced : (e.turnReadings env (fuel + 1) w).IsChain (InTime e.config.stallTimeout)) :
    (e.poll env (fuel + 1) w).2.1.counters.stalls =
      e.counters.stalls + if e.Late (env.now found).1 ∧ 0 < e.reception.filled then 1 else 0 := by
  obtain ⟨ready, rfl⟩ := Nat.exists_eq_succ_of_ne_zero hready
  have hdated := @dated_turn ω env e w (ready + 1) found [] hwithin hfound hready
  have hstalls := @stalls_turn ω env e w (ready + 1) found hwithin hfound hready
  have hconfig := @config_turn ω env e w (ready + 1) found hwithin hfound hready
  have hstill : (e.turn env w).2.1.Within .free := within_turn hwithin w
  rw [turnReadings, hfound] at hpaced
  rw [poll_of_idle hidle, pollFrom]
  rcases hturn : e.turn env w with ⟨outcome, e', w'⟩
  rw [hturn] at hdated hstalls hpaced hstill hconfig
  cases outcome with
  | received more =>
    rw [← hconfig] at hpaced
    exact (stalls_pollFrom hdated hstill hpaced _).trans hstalls
  | idle | closed | failed error => exact hstalls

/-- Programs have no part in the deadline. -/
theorem dated_run (program : Program ω) (hwithin : e.Within .free) (h : e.Dated readings) :
    (program.run env e w).2.1.Dated readings := by
  obtain ⟨hundisturbed, -⟩ :=
    (@upheld_undisturbed ω env .free e.toStation (.plain 0 0 0)).run
      (e := e) (w := w) program.within_free hwithin (.refl _)
  have hreception := hundisturbed.reception
  constructor
  case deadline =>
    intro time htime
    rw [hreception] at htime
    rw [hundisturbed.config]
    exact h.deadline htime
  case partly =>
    intro hfilled
    rw [hreception] at hfilled ⊢
    exact h.partly hfilled

/-- In every run the deadline counts from the last reading in a turn that found octets. -/
theorem Course.dated (h : Course env config c polls e w) :
    e.Dated (polls.flatMap (Polled.readings env)) := by
  induction h with
  | created hcreated =>
    obtain ⟨-, id, rfl, -⟩ := created_eq hcreated
    exact ⟨fun hset ↦ (nomatch hset), fun hfilled ↦ absurd hfilled (Nat.lt_irrefl 0)⟩
  | named id _ ih => exact ⟨ih.deadline, ih.partly⟩
  | run program _ h ih => exact dated_run program h.operated.ready.within ih
  | @poll polls e w fuel h ih =>
    have hready := h.operated.ready
    rw [poll_of_idle hready.placed.idle, List.flatMap_append, List.flatMap_singleton]
    exact dated_pollFrom ih hready.within fuel 0

end Endpoint

end FramedLink
