import FramedLink.Proofs.Reception.Arrivals

/-!
# Decoding a buffer at once

`Frame.decode` takes one frame from the front of a buffer that holds all octets, and gives up at
the first octets that are no frame. Repeated until nothing more can be taken, it comes to the same
frames as a scan up to the first fault, and its error says what the scan finds there
(`Scan.followed_decodeAll`).

An endpoint takes its octets in portions, but no turn takes more than it wants, so that each turn
comes to one finding at most (`Stage.turn`). An endpoint that polls once therefore stands, between
two of its turns, where the decoder has given up, and its next finding is the fault
(`Endpoint.poll_decodeAll`).
-/

namespace FramedLink

/-- What a scanner finds where a decoder gives up with an error. -/
def FrameError.finding? : FrameError → Option Finding
  | .badMarker _ => some .badMarker
  | .tooLarge .. => some .oversize
  | .checksumMismatch .. => some .badTrailer
  | _ => none

theorem FrameError.frame?_of_finding? {error : FrameError} {finding : Finding}
    (h : error.finding? = some finding) : finding.frame? = none := by
  cases error <;> cases h <;> rfl

namespace Scan

variable {limit : Nat} {mode : Integrity} {octets : Bytes}

/-- A step of decoding and a step of scanning that agree. -/
inductive Alike : Except FrameError (Option (Frame × Bytes)) → Option (Finding × Bytes) → Prop where
  | wait : Alike (.ok none) none
  | frame (frame : Frame) (rest : Bytes) :
      Alike (.ok (some (frame, rest))) (some (.frame frame, rest))
  | fault (error : FrameError) (finding : Finding) (rest : Bytes)
      (hfinding : error.finding? = some finding) : Alike (.error error) (some (finding, rest))

/-- Octets that suffice for a header are refused for their marker only. -/
theorem finding?_of_decode {error : FrameError} (hlength : headerSize ≤ octets.length)
    (h : Header.decode octets = .error error) : error.finding? = some .badMarker := by
  match octets, hlength with
  | marker :: _ :: _ :: _ :: _ :: _ :: _ :: _ :: _, _ =>
    by_cases hmarker : marker = startMarker
    · simp [Header.decode, hmarker] at h
    · obtain rfl : FrameError.badMarker marker = error := by simpa [Header.decode, hmarker] using h
      rfl

/-- A trailer is refused for its checksum only. -/
theorem finding?_of_verify {error : FrameError} {body : Bytes} {received : UInt16}
    (h : mode.verify body received = .error error) : error.finding? = some .badTrailer := by
  unfold Integrity.verify at h
  split at h
  · cases h
  · dsimp only at h
    split at h
    · cases h
    · cases h
      rfl

theorem judge_take (header : Header) (octets : Bytes) :
    judge mode header (octets.take header.frameSize) =
      match mode.verify (octets.take (headerSize + header.payloadSize)) (UInt16.ofNat
          (LittleEndian.value ((octets.drop (headerSize + header.payloadSize)).take trailerSize)))
        with
      | .ok () => .frame ⟨header, (octets.drop headerSize).take header.payloadSize⟩
      | .error _ => .badTrailer := by
  have hframe : header.frameSize = headerSize + header.payloadSize + trailerSize := by
    unfold Header.frameSize frameOverhead
    omega
  have hbody : (octets.take header.frameSize).take (headerSize + header.payloadSize) =
      octets.take (headerSize + header.payloadSize) := by
    rw [List.take_take, hframe, Nat.min_eq_left (Nat.le_add_right _ _)]
  have htrailer : (octets.take header.frameSize).drop (headerSize + header.payloadSize) =
      (octets.drop (headerSize + header.payloadSize)).take trailerSize := by
    rw [List.drop_take, hframe, Nat.add_sub_cancel_left]
  have hpayload : (octets.take (headerSize + header.payloadSize)).drop headerSize =
      (octets.drop headerSize).take header.payloadSize := by
    rw [List.drop_take, Nat.add_sub_cancel_left]
  cases hverified : mode.verify (octets.take (headerSize + header.payloadSize)) (UInt16.ofNat
      (LittleEndian.value ((octets.drop (headerSize + header.payloadSize)).take trailerSize))) with
  | ok => simp only [judge, hbody, htrailer, hpayload, hverified]
  | error => simp only [judge, hbody, htrailer, hverified]

/-- The decoder and the scanner agree on what stands at the front of some octets. -/
theorem decode_alike (octets : Bytes) :
    Alike (Frame.decode octets limit mode) (next? limit mode octets) := by
  by_cases hshort : octets.length < headerSize
  · rw [Frame.decode, if_pos hshort, next?_of_length_lt hshort]
    exact .wait
  · rw [Frame.decode, if_neg hshort, next?_eq (Nat.not_lt.mp hshort)]
    cases hdecode : Header.decode octets with
    | error error => exact .fault _ _ _ (finding?_of_decode (Nat.not_lt.mp hshort) hdecode)
    | ok header =>
      dsimp only
      by_cases hlimit : limit < header.payloadSize
      · rw [if_pos hlimit, if_pos hlimit]
        exact .fault _ _ _ rfl
      · rw [if_neg hlimit, if_neg hlimit]
        by_cases hpart : octets.length < header.frameSize
        · rw [if_pos hpart, if_pos hpart]
          exact .wait
        · rw [if_neg hpart, if_neg hpart, judge_take]
          cases hverified : mode.verify (octets.take (headerSize + header.payloadSize))
              (UInt16.ofNat (LittleEndian.value
                ((octets.drop (headerSize + header.payloadSize)).take trailerSize))) with
          | error error => exact .fault _ _ _ (finding?_of_verify hverified)
          | ok => exact .frame _ _

theorem length_lt_of_decode {frame : Frame} {rest : Bytes}
    (h : Frame.decode octets limit mode = .ok (some (frame, rest))) :
    rest.length < octets.length := by
  have halike := @decode_alike limit mode octets
  rw [h] at halike
  generalize hnext : next? limit mode octets = next at halike
  cases halike
  exact length_lt_of_next? hnext

end Scan

/-- What repeated decoding comes to: the frames, in order, the octets that are left, and the error
that ended it, if it was one. -/
structure Decoded where
  frames : List Frame
  rest : Bytes
  fault : Option FrameError

/-- Decodes frames from the front of a buffer until the buffer ends before the next frame does, or
until there is an error. -/
def decodeAll (max : Nat) (mode : Integrity) (buffer : Bytes) : Decoded :=
  match _h : Frame.decode buffer max mode with
  | .error error => ⟨[], buffer, some error⟩
  | .ok none => ⟨[], buffer, none⟩
  | .ok (some (frame, rest)) =>
    let later := decodeAll max mode rest
    ⟨frame :: later.frames, later.rest, later.fault⟩
termination_by buffer.length
decreasing_by exact Scan.length_lt_of_decode _h

theorem decodeAll_eq (max : Nat) (mode : Integrity) (buffer : Bytes) :
    decodeAll max mode buffer =
      match Frame.decode buffer max mode with
      | .error error => ⟨[], buffer, some error⟩
      | .ok none => ⟨[], buffer, none⟩
      | .ok (some (frame, rest)) =>
        ⟨frame :: (decodeAll max mode rest).frames, (decodeAll max mode rest).rest,
          (decodeAll max mode rest).fault⟩ := by
  rw [decodeAll]
  split <;> rename_i h <;> rw [h]

namespace Scan

variable {limit : Nat} {mode : Integrity}

/-- Decoding until the end and a scan that agree: to the end of the scan if there is no error, and
up to the finding that the error tells of otherwise. -/
inductive Followed : Decoded → Scan → Prop where
  | all (frames : List Frame) (rest : Bytes) :
      Followed ⟨frames, rest, none⟩ ⟨frames.map .frame, rest⟩
  | upTo (frames : List Frame) (left rest : Bytes) (error : FrameError) (finding : Finding)
      (later : List Finding) (hfinding : error.finding? = some finding) :
      Followed ⟨frames, left, some error⟩ ⟨frames.map .frame ++ finding :: later, rest⟩

theorem Followed.cons {decoded : Decoded} {found : Scan} (h : Followed decoded found)
    (frame : Frame) :
    Followed ⟨frame :: decoded.frames, decoded.rest, decoded.fault⟩
      ⟨.frame frame :: found.findings, found.rest⟩ := by
  cases h with
  | all frames rest => exact .all (frame :: frames) rest
  | upTo frames left rest error finding later hfinding =>
    exact .upTo (frame :: frames) left rest error finding later hfinding

/-- Decoding until the end agrees with the scan. -/
theorem followed_decodeAll (octets : Bytes) :
    Followed (decodeAll limit mode octets) (scan limit mode octets) := by
  induction octets using scan.induct limit mode with
  | case1 octets hnext =>
    have halike := @decode_alike limit mode octets
    rw [hnext] at halike
    rw [decodeAll_eq, scan_of_next?_none hnext]
    generalize Frame.decode octets limit mode = step at halike ⊢
    cases halike
    exact .all [] octets
  | case2 octets finding rest hnext ih =>
    have halike := @decode_alike limit mode octets
    rw [hnext] at halike
    rw [decodeAll_eq, scan_of_next?_some hnext]
    generalize Frame.decode octets limit mode = step at halike ⊢
    cases halike with
    | frame frame => exact ih.cons frame
    | fault error _ _ hfinding => exact .upTo [] octets _ error finding _ hfinding

/-! ## One finding a turn -/

/-- Octets after whose first finding less than a header is left come to one finding at most. -/
theorem findings_eq_toList {octets : Bytes}
    (h : ∀ finding rest, next? limit mode octets = some (finding, rest) →
      rest.length < headerSize) :
    ∃ found : Option Finding, (scan limit mode octets).findings = found.toList := by
  cases hnext : next? limit mode octets with
  | none =>
    rw [scan_of_next?_none hnext]
    exact ⟨none, rfl⟩
  | some found =>
    obtain ⟨finding, rest⟩ := found
    rw [scan_of_next?_some hnext, scan_of_next?_none (next?_of_length_lt (h finding rest hnext))]
    exact ⟨some finding, rfl⟩

end Scan

theorem Finding.filterMap_map_frame (frames : List Frame) :
    (frames.map frame).filterMap frame? = frames := by
  rw [List.filterMap_map]
  exact List.filterMap_some

theorem Counters.refusals_tally_frames (frames : List Frame) (later : List Finding) :
    (tally {} (frames.map .frame ++ later)).refusals =
      (later.count .badMarker, later.count .oversize, later.count .badTrailer, 0) := by
  have hframes {finding : Finding} (h : finding.frame? = none) :
      (frames.map Finding.frame).count finding = 0 := by
    rw [List.count_eq_zero]
    intro hmem
    obtain ⟨frame, -, rfl⟩ := List.mem_map.mp hmem
    cases h
  simp only [refusals, tally, List.count_append, Nat.zero_add,
    @hframes .badMarker rfl, @hframes .oversize rfl, @hframes .badTrailer rfl]

/-- What is held comes to one finding at most with the octets that are wanted. -/
theorem Reception.Sound.findings_eq_toList {r : Reception} {limit : Nat} {mode : Integrity}
    {taken : Bytes} (h : r.Sound limit) (htaken : taken.length ≤ r.wanted) :
    ∃ found : Option Finding, (scan limit mode (r.held ++ taken)).findings = found.toList := by
  apply Scan.findings_eq_toList
  intro finding rest hnext
  have hless := Scan.length_lt_of_next? hnext
  have hheld := h.length_held
  unfold wanted at htaken
  cases h.settled with
  | header hpacket _ hfilled =>
    rw [List.length_append, hheld] at hless
    rw [if_neg (by omega)] at htaken
    omega
  | packet header hheader hlimit _ hpacket hcomplete hfilled =>
    have hlength : headerSize ≤ (r.held ++ taken).length := by
      rw [List.length_append]
      omega
    rw [hpacket, if_pos (by unfold Header.frameSize frameOverhead headerSize; omega)] at htaken
    rw [Scan.next?_eq hlength, Scan.decode_append (hheld ▸ hcomplete), hheader] at hnext
    simp only [Nat.not_lt.mpr hlimit, if_false] at hnext
    split at hnext
    · cases hnext
    · cases hnext
      rw [List.length_drop, List.length_append]
      unfold headerSize
      omega

namespace Endpoint

variable {σ : Type} {clock : σ → Millis × σ} {x : End} {config : Config} {now : Millis}
variable {e : Endpoint (Wire σ)} {w : Wire σ} {all : Bytes} {findings : List Finding}

/-- An endpoint that stands between two turns, while the clock stands still: it has come to some
findings, and with the octets in its pipe it will have taken given octets. -/
def Stage (x : End) (config : Config) (now : Millis) (all : Bytes) (findings : List Finding)
    (e : Endpoint (Wire σ)) (w : Wire σ) : Prop :=
  ∃ octets last, Heard x config octets last e w ∧ octets ++ (w.toward x).queue.octets = all ∧
    (config.scan octets).findings = findings ∧ ∀ reading ∈ last, reading = now

/-- What was found so far is found in all octets. -/
theorem Stage.findings_prefix (h : Stage x config now all findings e w) :
    findings <+: (config.scan all).findings := by
  obtain ⟨octets, last, -, rfl, rfl, -⟩ := h
  rw [Config.scan_append]
  exact List.prefix_append _ _

theorem Stage.findings_eq (h : Stage x config now all findings e w)
    (hempty : (w.toward x).queue.octets = []) : findings = (config.scan all).findings := by
  obtain ⟨octets, last, -, rfl, rfl, -⟩ := h
  rw [hempty, List.append_nil]

theorem Stage.delivered (h : Stage x config now all findings e w) :
    deliveries (w.noted x) = findings.filterMap Finding.frame? := by
  obtain ⟨octets, last, hheard, -, rfl, -⟩ := h
  exact hheard.delivered

theorem Stage.refusals (h : Stage x config now all findings e w) :
    e.counters.refusals = (Counters.tally {} findings).refusals := by
  obtain ⟨octets, last, hheard, -, rfl, -⟩ := h
  exact hheard.counters

/-- A turn comes to one finding at most. -/
theorem Stage.turn (h : Stage x config now all findings e w) (hclock : ∀ app, (clock app).1 = now)
    (hsome : (w.toward x).queue.octets ≠ []) :
    ∃ (found : Option Finding) (result : Endpoint (Wire σ) × Wire σ),
      e.turn (Wire.environment clock x) w =
        (.received (found.toList.filterMap Finding.frame?).length, result) ∧
      (result.2.toward x).queue.octets.length < (w.toward x).queue.octets.length ∧
      Stage x config now all (findings ++ found.toList) result.1 result.2 := by
  obtain ⟨octets, last, hheard, rfl, rfl, hlast⟩ := h
  have hready : (w.toward x).available ≠ 0 := by
    intro hnone
    exact ((w.toward x).available_eq_zero_iff.mp hnone).elim hsome hheard.cap
  have htime : ∀ reading ∈ last, InTime config.stallTimeout reading (clock w.app).1 := by
    intro reading hmem
    rw [hlast reading hmem, hclock]
    exact Nat.le_add_right _ _
  obtain ⟨taken, ⟨count, e', w'⟩, hturn, htaken, hwanted, hqueue, hcount, hhearing'⟩ :=
    hheard.hearing.turn hready htime
  obtain ⟨found, hfound⟩ : ∃ found : Option Finding,
      (config.scan (e.reception.held ++ taken)).findings = found.toList :=
    hheard.receiving.sound.findings_eq_toList hwanted
  have hfindings : (config.scan (octets ++ taken)).findings =
      (config.scan octets).findings ++ found.toList := by
    rw [hheard.hearing.scan_append, hfound]
  have hframes : count = (found.toList.filterMap Finding.frame?).length := by
    rw [Scan.frames, Scan.frames, hfindings, List.filterMap_append, List.length_append] at hcount
    omega
  refine ⟨found, (e', w'), hframes ▸ hturn, ?_, octets ++ taken, _,
    heard_iff_hearing.mpr hhearing', ?_, hfindings, ?_⟩
  · have hpositive := List.length_pos_of_ne_nil htaken
    rw [hqueue, List.length_append]
    exact Nat.lt_add_of_pos_left hpositive
  · rw [List.append_assoc, ← hqueue]
  · intro reading hmem
    rw [← Option.mem_some.mp hmem, hclock]

/-- For each finding there is a turn that comes to it, and before this turn the poll has come to the
findings before it. -/
theorem Stage.reach (h : Stage x config now all findings e w)
    (hclock : ∀ app, (clock app).1 = now)
    {between later : List Finding} {finding : Finding}
    (hall : (config.scan all).findings = findings ++ (between ++ finding :: later))
    (packets : Nat) :
    ∃ (turns : Nat) (before after : Endpoint (Wire σ) × Wire σ),
      turns < (w.toward x).queue.octets.length ∧
      pollFrom (Wire.environment clock x) turns packets e w =
        (.unfinished (packets + (between.filterMap Finding.frame?).length), before) ∧
      Stage x config now all (findings ++ between) before.1 before.2 ∧
      before.1.turn (Wire.environment clock x) before.2 =
        (.received ([finding].filterMap Finding.frame?).length, after) ∧
      Stage x config now all (findings ++ between ++ [finding]) after.1 after.2 := by
  induction hqueue : (w.toward x).queue.octets.length using Nat.strong_induction_on
    generalizing findings between packets e w with
  | _ size ih =>
    subst hqueue
    have hsome : (w.toward x).queue.octets ≠ [] := by
      intro hempty
      rw [← h.findings_eq hempty] at hall
      simp at hall
    obtain ⟨found, ⟨e', w'⟩, hturn, hless, hstage⟩ := h.turn hclock hsome
    have hprefix := hstage.findings_prefix
    rw [hall, List.prefix_append_right_inj] at hprefix
    have hsplit : (∃ more, between = found.toList ++ more) ∨
        between = [] ∧ found = some finding := by
      cases found with
      | none => exact .inl ⟨between, rfl⟩
      | some found =>
        cases between with
        | nil => exact .inr ⟨rfl, congrArg some (List.cons_prefix_cons.mp hprefix).1⟩
        | cons next more => exact .inl ⟨more, by rw [(List.cons_prefix_cons.mp hprefix).1]; rfl⟩
    rcases hsplit with ⟨more, rfl⟩ | ⟨rfl, rfl⟩
    · rw [List.append_assoc, ← List.append_assoc] at hall
      obtain ⟨turns, before, after, hturns, hpoll, hbefore, hnext, hafter⟩ :=
        ih _ hless hstage hall (packets + (found.toList.filterMap Finding.frame?).length) rfl
      rw [List.append_assoc findings] at hbefore hafter
      refine ⟨turns + 1, before, after, Nat.lt_of_le_of_lt hturns hless, ?_, hbefore, hnext, hafter⟩
      rw [pollFrom, hturn, List.filterMap_append, List.length_append, ← Nat.add_assoc]
      exact hpoll
    · refine ⟨0, (e, w), (e', w'), List.length_pos_of_ne_nil hsome, rfl, ?_, hturn, ?_⟩
      · rwa [List.append_nil]
      · rwa [List.append_nil]

theorem Unused.stage (h : Unused x config e w) {arrival : Arrival} (hcap : Open arrival.cap) :
    Stage x config now arrival.octets [] e (w.arrive x arrival) := by
  refine ⟨[], none, h.heard.arrive hcap, ?_, ?_, fun _ hmem ↦ nomatch hmem⟩
  · rw [h.octets_arrive]
    rfl
  · exact congrArg Scan.findings (Scan.scan_of_next?_none rfl)

/-- A new endpoint that polls while the clock stands still comes to stand where the scan of all
octets ends. -/
theorem Unused.poll (h : Unused x config e w) (hclock : ∀ app, (clock app).1 = now)
    {arrival : Arrival} (hcap : Open arrival.cap) {fuel : Nat}
    (hfuel : arrival.octets.length < fuel) :
    ∃ (packets : Nat) (last : Option Millis) (e' : Endpoint (Wire σ)) (w' : Wire σ),
      e.poll (Wire.environment clock x) fuel (w.arrive x arrival) = (.done packets, e', w') ∧
      Heard x config arrival.octets last e' w' := by
  have hready := h.octets_arrive arrival
  have hpaced : Paced config.stallTimeout none
      (e.turnReadings (Wire.environment clock x) fuel (w.arrive x arrival) ++ []) := by
    rw [List.append_nil]
    exact isChain_of_forall_eq (eq_of_mem_turnReadings hclock fuel)
  obtain ⟨packets, last, e', w', hpoll, -, -, hhearing, -⟩ :=
    (h.heard.arrive hcap).hearing.poll (hready ▸ hfuel) hpaced
  rw [hready, List.nil_append] at hhearing
  exact ⟨packets, last, e', w', hpoll, heard_iff_hearing.mpr hhearing⟩

/-- The first finding that is no frame is counted in a turn of its own, after the frames before it
were dispatched. -/
theorem Unused.turn_refusal (h : Unused x config e w) (hclock : ∀ app, (clock app).1 = now)
    {arrival : Arrival} (hcap : Open arrival.cap) {frames : List Frame} {finding : Finding}
    {later : List Finding}
    (hfound : (config.scan arrival.octets).findings = frames.map .frame ++ finding :: later)
    (hfinding : finding.frame? = none) :
    ∃ (turns : Nat) (before after : Endpoint (Wire σ) × Wire σ),
      turns < arrival.octets.length ∧
      e.poll (Wire.environment clock x) turns (w.arrive x arrival) =
        (.unfinished frames.length, before) ∧
      deliveries (before.2.noted x) = frames ∧
      before.1.counters.refusals = (0, 0, 0, 0) ∧
      before.1.turn (Wire.environment clock x) before.2 = (.received 0, after) ∧
      deliveries (after.2.noted x) = frames ∧
      after.1.counters.refusals =
        ([finding].count .badMarker, [finding].count .oversize,
          [finding].count .badTrailer, 0) := by
  have hstage : Stage x config now arrival.octets [] e (w.arrive x arrival) := h.stage hcap
  have harrived := h.heard.arrive hcap
  have hnone : [finding].filterMap Finding.frame? = [] := List.filterMap_cons_none hfinding
  obtain ⟨turns, before, after, hturns, hpoll, hbefore, hturn, hafter⟩ :=
    hstage.reach hclock hfound 0
  rw [h.octets_arrive] at hturns
  rw [List.nil_append] at hbefore hafter
  rw [Finding.filterMap_map_frame, Nat.zero_add] at hpoll
  rw [hnone] at hturn
  refine ⟨turns, before, after, hturns, ?_, ?_, ?_, hturn, ?_, ?_⟩
  · rw [harrived.receiving.poll_eq, hpoll]
  · rw [hbefore.delivered, Finding.filterMap_map_frame]
  · rw [hbefore.refusals, ← List.append_nil (frames.map _), Counters.refusals_tally_frames]
    rfl
  · calc
      deliveries (after.2.noted x) =
          (frames.map Finding.frame ++ [finding]).filterMap Finding.frame? := hafter.delivered
      _ = frames ++ [finding].filterMap Finding.frame? := by
        rw [List.filterMap_append, Finding.filterMap_map_frame]
      _ = frames := by rw [hnone, List.append_nil]
  · rw [hafter.refusals, Counters.refusals_tally_frames]

/-- A new endpoint that polls while the clock stands still dispatches at first the frames that are
decoded from all octets at once. Where decoding ends without an error, it dispatches no more, holds
as many octets as are left, and refuses nothing. Where it ends with an error, there is a turn of
the poll that counts the fault of this kind: before it, just these frames were dispatched and
nothing was refused, and nothing is dispatched in it. -/
theorem poll_decodeAll {arrival : Arrival} {fuel : Nat} (hunused : e.Unused x config w)
    (hclock : ∀ app, (clock app).1 = now) (hcap : Open arrival.cap)
    (hfuel : arrival.octets.length < fuel) :
    let env := Wire.environment clock x
    let decoded := decodeAll config.maxDeclared config.integrity arrival.octets
    (∃ (packets : Nat) (e' : Endpoint (Wire σ)) (w' : Wire σ),
      e.poll env fuel (w.arrive x arrival) = (.done packets, e', w') ∧
      decoded.frames <+: deliveries (w'.noted x) ∧
      (decoded.fault = none →
        deliveries (w'.noted x) = decoded.frames ∧
        e'.reception.filled = decoded.rest.length ∧ e'.counters.refusals = (0, 0, 0, 0))) ∧
    ∀ error, decoded.fault = some error →
      ∃ (finding : Finding) (turns : Nat) (before after : Endpoint (Wire σ) × Wire σ),
        error.finding? = some finding ∧ turns < fuel ∧
        e.poll env turns (w.arrive x arrival) = (.unfinished decoded.frames.length, before) ∧
        deliveries (before.2.noted x) = decoded.frames ∧
        before.1.counters.refusals = (0, 0, 0, 0) ∧
        before.1.turn env before.2 = (.received 0, after) ∧
        deliveries (after.2.noted x) = decoded.frames ∧
        after.1.counters.refusals =
          ([finding].count .badMarker, [finding].count .oversize,
            [finding].count .badTrailer, 0) := by
  intro env decoded
  obtain ⟨packets, last, e', w', hpoll, hheard⟩ := hunused.poll hclock hcap hfuel
  have hfilled : e'.reception.filled = (config.scan arrival.octets).rest.length := by
    rw [← hheard.held, hheard.receiving.sound.length_held]
  have hdelivered := hheard.delivered
  have hcounters := hheard.counters
  have hfollowed : Scan.Followed decoded (config.scan arrival.octets) :=
    Scan.followed_decodeAll arrival.octets
  generalize decoded = decoded at hfollowed ⊢
  generalize hfound : config.scan arrival.octets = found at *
  cases hfollowed with
  | all frames rest =>
    rw [Scan.frames, Finding.filterMap_map_frame] at hdelivered
    rw [← List.append_nil (frames.map _), Counters.refusals_tally_frames] at hcounters
    constructor
    · exact ⟨packets, e', w', hpoll, hdelivered ▸ List.prefix_rfl,
        fun _ ↦ ⟨hdelivered, hfilled, hcounters⟩⟩
    · intro error herror
      cases herror
  | upTo frames left rest error finding later hfinding =>
    rw [Scan.frames, List.filterMap_append, Finding.filterMap_map_frame] at hdelivered
    constructor
    · refine ⟨packets, e', w', hpoll, hdelivered ▸ List.prefix_append _ _, ?_⟩
      intro hnone
      cases hnone
    · intro _ herror
      obtain rfl := Option.some_inj.mp herror
      obtain ⟨turns, before, after, hturns, hreached⟩ :=
        hunused.turn_refusal hclock hcap (congrArg Scan.findings hfound)
          (FrameError.frame?_of_finding? hfinding)
      exact ⟨finding, turns, before, after, hfinding, hturns.trans hfuel, hreached⟩

/-- Behind a frame, a header that announces too much is counted next, also where three octets are
handed out at a time. -/
theorem poll_decodeAll_oversize :
    let arrival : Arrival :=
      ⟨[0x23, 7, 1, 0, 0, 0, 0, 0, 0, 0, 0x23, 1, 2, 0, 11, 0, 0, 0], some 3⟩
    let frame : Frame := ⟨.plain 7 1 0, []⟩
    let env : Environment (Wire Unit) := Wire.environment (fun app ↦ (0, app)) .near
    let e : Endpoint (Wire Unit) := .ofConfig (.ofSizes 18 18) 7
    let w : Wire Unit := .fresh (fun _ ↦ ⟨[], 1⟩) ()
    ∃ (turns : Nat) (before after : Endpoint (Wire Unit) × Wire Unit),
      e.poll env turns (w.arrive .near arrival) = (.unfinished 1, before) ∧
      deliveries (before.2.noted .near) = [frame] ∧
      before.1.counters.refusals = (0, 0, 0, 0) ∧
      before.1.turn env before.2 = (.received 0, after) ∧
      deliveries (after.2.noted .near) = [frame] ∧
      after.1.counters.refusals = (0, 1, 0, 0) := by
  intro arrival frame env e w
  have hunused : e.Unused .near (.ofSizes 18 18) w := unused_ofConfig rfl 7 _ ()
  have hframe : Frame.decode arrival.octets 10 .unchecked =
      .ok (some (frame, arrival.octets.drop 10)) := by decide
  have hlast : Frame.decode (arrival.octets.drop 10) 10 .unchecked = .error (.tooLarge 11 10) := by
    decide
  have hdecoded : decodeAll 10 .unchecked arrival.octets =
      ⟨[frame], arrival.octets.drop 10, some (.tooLarge 11 10)⟩ := by
    rw [decodeAll_eq, hframe]
    dsimp only
    rw [decodeAll_eq, hlast]
  obtain ⟨-, hfault⟩ := @poll_decodeAll Unit (fun app ↦ (0, app)) .near (.ofSizes 18 18) 0 e w
    arrival 19 hunused (fun _ ↦ rfl) (by decide) (by decide)
  have hlimit : (Config.ofSizes 18 18).maxDeclared = 10 := rfl
  have hmode : (Config.ofSizes 18 18).integrity = .unchecked := rfl
  rw [hlimit, hmode, hdecoded] at hfault
  obtain ⟨finding, turns, before, after, hfinding, -, hreached⟩ := hfault _ rfl
  cases hfinding
  exact ⟨turns, before, after, hreached⟩

end Endpoint

end FramedLink
