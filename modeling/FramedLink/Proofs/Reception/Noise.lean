import Mathlib.Algebra.Order.Floor.Div
import Mathlib.Data.List.TakeWhile
import Mathlib.GroupTheory.GroupAction.Ring
import FramedLink.Proofs.Reception.Arrivals

/-!
# Frames in noise

Noise is octets without a start marker. A scan skips it eight octets at a time, and the last step
ends at the next marker, so that the frame behind the noise is found whatever the frame holds:
markers inside a frame are never looked for. Noise at the end is skipped as far as it makes up whole
headers, and the rest of it is kept.

What a scan finds in frames with noise before each of them (`findings_scan_bursts`) carries over to
an endpoint that polls while they arrive in portions (`Endpoint.pollEach_bursts`).
-/

namespace FramedLink

/-- A frame that is sent: what it carries, and its octets. -/
structure Parcel where
  type : UInt8
  id : UInt8
  payload : Bytes
  encoded : Bytes
  deriving DecidableEq, Repr

namespace Parcel

def frame (parcel : Parcel) : Frame :=
  ⟨.plain parcel.type parcel.id (UInt16.ofNat parcel.payload.length), parcel.payload⟩

/-- A parcel for a receiver that takes payloads up to a limit: its octets are the encoding of its
payload. -/
structure Sent (limit : Nat) (mode : Integrity) (parcel : Parcel) : Prop where
  fits : parcel.payload.length ≤ limit
  encoded : Frame.encode parcel.type parcel.id parcel.payload mode = .ok parcel.encoded

variable {limit : Nat} {mode : Integrity} {parcel : Parcel}

/-- A parcel has the octets of its frame. -/
theorem Sent.encoded_eq (h : parcel.Sent limit mode) :
    parcel.encoded = parcel.frame.wire mode ∧ parcel.payload.length ≤ maxPayload :=
  Frame.wire_of_encode h.encoded

theorem Sent.payloadSize_eq (h : parcel.Sent limit mode) :
    parcel.frame.header.payloadSize = parcel.payload.length := by
  apply UInt16.toNat_ofNat_of_lt'
  exact Nat.lt_succ_of_le h.encoded_eq.2

theorem Sent.length_encoded (h : parcel.Sent limit mode) :
    parcel.encoded.length = parcel.payload.length + frameOverhead := by
  rw [h.encoded_eq.1, Frame.length_wire]
  rfl

theorem Sent.head?_encoded (h : parcel.Sent limit mode) :
    parcel.encoded.head? = some startMarker := by
  rw [h.encoded_eq.1]
  rfl

/-- A parcel is found to be its frame, whatever follows it. -/
theorem Sent.scan_append (h : parcel.Sent limit mode) (rest : Bytes) :
    scan limit mode (parcel.encoded ++ rest) =
      ⟨.frame parcel.frame :: (scan limit mode rest).findings, (scan limit mode rest).rest⟩ := by
  apply Scan.scan_of_next?_some
  rw [h.encoded_eq.1]
  apply Scan.next?_wire_append
  · exact h.payloadSize_eq.symm
  · rw [h.payloadSize_eq]
    exact h.fits

end Parcel

/-- A parcel with noise before it. -/
structure Burst extends Parcel where
  noise : Bytes
  deriving DecidableEq, Repr

def Burst.octets (burst : Burst) : Bytes :=
  burst.noise ++ burst.encoded

/-- What is found in a burst: a rejected header for every eight octets of noise begun, and the
frame. -/
def Burst.findings (burst : Burst) : List Finding :=
  List.replicate (burst.noise.length ⌈/⌉ headerSize) .badMarker ++ [.frame burst.frame]

namespace Scan

variable {limit : Nat} {mode : Integrity} {noise rest : Bytes}

theorem filterMap_replicate_badMarker (count : Nat) :
    (List.replicate count Finding.badMarker).filterMap Finding.frame? = [] := by
  simp [Finding.frame?]

/-- Noise that fills a header, or is shorter but ends at a start marker. -/
def Bounded (noise rest : Bytes) : Prop :=
  headerSize ≤ noise.length ∨ rest.head? = some startMarker

theorem all_ne_of_not_mem (h : startMarker ∉ noise) :
    ∀ octet ∈ noise, (octet != startMarker) = true := by
  intro octet hmem
  rw [bne_iff_ne]
  rintro rfl
  exact h hmem

/-- Where noise is skipped, its first eight octets are dropped, or all of it if it is shorter. -/
theorem afterRejected_noise_append (hnoise : startMarker ∉ noise) (hsome : noise ≠ [])
    (hbounded : Bounded noise rest) :
    afterRejected (noise ++ rest) = noise.drop headerSize ++ rest := by
  have htail : startMarker ∉ (noise.take headerSize).tail :=
    fun hmem ↦ hnoise (List.mem_of_mem_take (List.mem_of_mem_tail hmem))
  have hstop : (rest.take (headerSize - noise.length)).takeWhile (· != startMarker) = [] := by
    rcases hbounded with hlong | hmarker
    · simp [Nat.sub_eq_zero_of_le hlong]
    · obtain ⟨more, rfl⟩ := List.head?_eq_some_iff.mp hmarker
      cases headerSize - noise.length <;> simp
  have htake : (noise.take headerSize) ≠ [] := by
    simp [hsome, headerSize]
  have hskip : 1 + (((noise ++ rest).take headerSize).tail.takeWhile (· != startMarker)).length =
      min headerSize noise.length := by
    have hpositive := List.length_pos_iff.mpr hsome
    calc
      1 + (((noise ++ rest).take headerSize).tail.takeWhile (· != startMarker)).length =
          1 + ((noise.take headerSize).tail ++
            (rest.take (headerSize - noise.length)).takeWhile (· != startMarker)).length := by
        rw [List.take_append, List.tail_append_of_ne_nil htake,
          List.takeWhile_append_of_pos (all_ne_of_not_mem htail)]
      _ = 1 + (min headerSize noise.length - 1) := by
        rw [hstop, List.append_nil, List.length_tail, List.length_take]
      _ = min headerSize noise.length := by
        unfold headerSize
        omega
  unfold afterRejected
  rw [hskip, List.drop_append_of_le_length (Nat.min_le_right _ _)]
  rcases Nat.le_total headerSize noise.length with hlong | hshort
  · rw [Nat.min_eq_left hlong]
  · rw [Nat.min_eq_right hshort, List.drop_length, List.drop_of_length_le hshort]

theorem decode_of_head_ne {octets : Bytes} (hlength : headerSize ≤ octets.length)
    (hhead : octets.head? ≠ some startMarker) :
    ∃ octet, Header.decode octets = .error (.badMarker octet) := by
  match octets, hlength with
  | marker :: _ :: _ :: _ :: _ :: _ :: _ :: _ :: _, _ =>
    have hmarker : marker ≠ startMarker := fun h ↦ hhead (congrArg some h)
    exact ⟨marker, by simp [Header.decode, hmarker]⟩

/-- Noise is found to be no frame. -/
theorem next?_noise_append (hnoise : startMarker ∉ noise) (hsome : noise ≠ [])
    (hbounded : Bounded noise rest) (hlength : headerSize ≤ (noise ++ rest).length) :
    next? limit mode (noise ++ rest) = some (.badMarker, noise.drop headerSize ++ rest) := by
  have hhead : (noise ++ rest).head? ≠ some startMarker := by
    rw [List.head?_append_of_ne_nil _ hsome]
    exact fun h ↦ hnoise (List.mem_of_head? h)
  obtain ⟨octet, hdecode⟩ := decode_of_head_ne hlength hhead
  rw [next?_eq hlength, hdecode, afterRejected_noise_append hnoise hsome hbounded]

/-- Dropping the first header of some noise takes one header off the count. -/
theorem ceilDiv_drop (hsome : noise ≠ []) :
    noise.length ⌈/⌉ headerSize = (noise.drop headerSize).length ⌈/⌉ headerSize + 1 := by
  have hpositive := List.length_pos_iff.mpr hsome
  rw [Nat.ceilDiv_eq_add_pred_div, Nat.ceilDiv_eq_add_pred_div, List.length_drop]
  unfold headerSize
  omega

/-- The scan goes on at the marker behind noise. -/
theorem scan_noise_append (hnoise : startMarker ∉ noise) (hmarker : rest.head? = some startMarker)
    (hlength : headerSize ≤ rest.length) :
    scan limit mode (noise ++ rest) =
      ⟨List.replicate (noise.length ⌈/⌉ headerSize) .badMarker ++ (scan limit mode rest).findings,
        (scan limit mode rest).rest⟩ := by
  -- eight octets of the noise are gone after each finding
  induction hcount : noise.length using Nat.strong_induction_on generalizing noise with
  | _ count ih =>
    subst hcount
    by_cases hsome : noise = []
    · simp [hsome]
    · have hwhole : headerSize ≤ (noise ++ rest).length := by
        rw [List.length_append]
        omega
      have hless : (noise.drop headerSize).length < noise.length := by
        have hpositive := List.length_pos_iff.mpr hsome
        rw [List.length_drop]
        unfold headerSize
        omega
      have hquiet : startMarker ∉ noise.drop headerSize :=
        fun hmem ↦ hnoise (List.mem_of_mem_drop hmem)
      rw [scan_of_next?_some (next?_noise_append hnoise hsome (.inr hmarker) hwhole),
        ih _ hless hquiet rfl, ceilDiv_drop hsome, List.replicate_succ]
      rfl

/-- At the end, noise is skipped as far as it makes up whole headers. -/
theorem scan_noise (hnoise : startMarker ∉ noise) :
    scan limit mode noise =
      ⟨List.replicate (noise.length / headerSize) .badMarker,
        noise.drop (noise.length / headerSize * headerSize)⟩ := by
  induction hcount : noise.length using Nat.strong_induction_on generalizing noise with
  | _ count ih =>
    subst hcount
    by_cases hshort : noise.length < headerSize
    · rw [scan_of_next?_none (next?_of_length_lt hshort), Nat.div_eq_of_lt hshort]
      simp
    · have hlong : headerSize ≤ noise.length := Nat.not_lt.mp hshort
      have hsome : noise ≠ [] := by
        rintro rfl
        exact absurd hlong (by decide)
      have hless : (noise.drop headerSize).length < noise.length := by
        rw [List.length_drop]
        unfold headerSize at hlong ⊢
        omega
      have hquiet : startMarker ∉ noise.drop headerSize :=
        fun hmem ↦ hnoise (List.mem_of_mem_drop hmem)
      have hnext : next? limit mode noise = some (.badMarker, noise.drop headerSize) := by
        have h := @next?_noise_append limit mode noise [] hnoise hsome (.inl hlong)
          (by rwa [List.append_nil])
        rwa [List.append_nil, List.append_nil] at h
      have hdiv : noise.length / headerSize = (noise.length - headerSize) / headerSize + 1 :=
        Nat.div_eq_sub_div (by decide) hlong
      let later := noise.drop headerSize
      calc
        scan limit mode noise =
            ⟨.badMarker :: (scan limit mode later).findings, (scan limit mode later).rest⟩ :=
          scan_of_next?_some hnext
        _ = ⟨.badMarker :: List.replicate (later.length / headerSize) .badMarker,
              later.drop (later.length / headerSize * headerSize)⟩ := by
          rw [ih _ hless hquiet rfl]
        _ = ⟨List.replicate (noise.length / headerSize) .badMarker,
              noise.drop (noise.length / headerSize * headerSize)⟩ := by
          rw [List.length_drop, hdiv, List.replicate_succ, List.drop_drop, Nat.succ_mul,
            Nat.add_comm headerSize]

/-- A scan finds the bursts one after another, and noise at the end as far as it makes up whole
headers. -/
theorem findings_scan_bursts {bursts : List Burst} {tail : Bytes}
    (hbursts : ∀ burst ∈ bursts, burst.Sent limit mode ∧ startMarker ∉ burst.noise)
    (htail : startMarker ∉ tail) :
    (scan limit mode (bursts.flatMap Burst.octets ++ tail)).findings =
      bursts.flatMap Burst.findings ++
        List.replicate (tail.length / headerSize) .badMarker := by
  induction bursts with
  | nil =>
    rw [List.flatMap_nil, List.nil_append, scan_noise htail]
    rfl
  | cons burst bursts ih =>
    rw [List.forall_mem_cons] at hbursts
    obtain ⟨⟨hsent, hnoise⟩, hlater⟩ := hbursts
    let rest := bursts.flatMap Burst.octets ++ tail
    have hmarker : (burst.encoded ++ rest).head? = some startMarker := by
      rw [List.head?_append, hsent.head?_encoded]
      rfl
    have hlength : headerSize ≤ (burst.encoded ++ rest).length := by
      rw [List.length_append, hsent.length_encoded]
      unfold frameOverhead
      omega
    calc
      (scan limit mode ((burst :: bursts).flatMap Burst.octets ++ tail)).findings =
          (scan limit mode (burst.noise ++ (burst.encoded ++ rest))).findings := by
        simp only [List.flatMap_cons, Burst.octets, List.append_assoc, rest]
      _ = burst.findings ++ (scan limit mode rest).findings := by
        rw [scan_noise_append hnoise hmarker hlength, hsent.scan_append]
        simp [Burst.findings]
      _ = _ := by
        rw [ih hlater, List.flatMap_cons, List.append_assoc]

end Scan

namespace Burst

variable {bursts : List Burst} {count : Nat}

/-- The frames that are found in bursts and in noise behind them. -/
theorem filterMap_findings (bursts : List Burst) (count : Nat) :
    (bursts.flatMap findings ++ List.replicate count Finding.badMarker).filterMap Finding.frame? =
      bursts.map (·.frame) := by
  have hburst : ∀ burst ∈ bursts, burst.findings.filterMap Finding.frame? = [burst.frame] := by
    intro burst _
    rw [findings, List.filterMap_append, Scan.filterMap_replicate_badMarker]
    rfl
  calc
    (bursts.flatMap findings ++ List.replicate count Finding.badMarker).filterMap Finding.frame? =
        (bursts.flatMap findings).filterMap Finding.frame? := by
      rw [List.filterMap_append, Scan.filterMap_replicate_badMarker, List.append_nil]
    _ = bursts.flatMap fun burst ↦ burst.findings.filterMap Finding.frame? :=
      List.filterMap_flatMap
    _ = bursts.flatMap fun burst ↦ [burst.frame] := List.flatMap_congr hburst
    _ = bursts.map (·.frame) := List.map_eq_flatMap.symm

/-- How often a header is rejected for its marker in bursts and in noise behind them. -/
theorem count_badMarker (bursts : List Burst) (count : Nat) :
    (bursts.flatMap findings ++ List.replicate count Finding.badMarker).count Finding.badMarker =
      (bursts.map fun burst ↦ burst.noise.length ⌈/⌉ headerSize).sum + count := by
  rw [List.count_append, List.count_replicate_self, List.count_flatMap]
  congr 2
  apply List.map_congr_left
  intro burst _
  simp [findings]

theorem count_eq_zero {finding : Finding} (hmarker : finding ≠ .badMarker)
    (hframe : finding.frame? = none) :
    (bursts.flatMap findings ++ List.replicate count Finding.badMarker).count finding = 0 := by
  rw [List.count_eq_zero]
  intro hmem
  rcases List.mem_append.mp hmem with hburst | htail
  · obtain ⟨burst, -, hburst⟩ := List.mem_flatMap.mp hburst
    rcases List.mem_append.mp hburst with hnoise | hfound
    · exact hmarker (List.eq_of_mem_replicate hnoise)
    · rw [List.mem_singleton.mp hfound] at hframe
      cases hframe
  · exact hmarker (List.eq_of_mem_replicate htail)

end Burst

namespace Endpoint

variable {σ : Type} {clock : σ → Millis × σ} {x : End} {config : Config}
variable {e : Endpoint (Wire σ)} {w : Wire σ}

/-- However frames with noise before each of them and at the end are cut into portions: just these
frames are dispatched, each once and in their order. Nothing counts as too large, as damaged or as
stalled; the headers that count as rejected are those that the noise before each frame makes up or
begins, and those that the noise at the end makes up. -/
theorem pollEach_bursts {bursts : List Burst} {tail : Bytes} {arrivals : List Arrival}
    {fuel : Nat} {now : Millis} (hunused : e.Unused x config w)
    (hclock : ∀ app, (clock app).1 = now)
    (hbursts : ∀ burst ∈ bursts,
      burst.Sent config.maxDeclared config.integrity ∧ startMarker ∉ burst.noise)
    (htail : startMarker ∉ tail)
    (harrivals : arrivals.flatMap Arrival.octets = bursts.flatMap Burst.octets ++ tail)
    (hcaps : ∀ arrival ∈ arrivals, Open arrival.cap)
    (hfuel : (arrivals.flatMap Arrival.octets).length < fuel) :
    ∃ (counts : List Nat) (e' : Endpoint (Wire σ)) (w' : Wire σ),
      pollEach clock x fuel arrivals e w = (counts.map .done, e', w') ∧
      deliveries (w'.noted x) = bursts.map (·.frame) ∧
      e'.counters.badMagic =
        (bursts.map fun burst ↦ burst.noise.length ⌈/⌉ headerSize).sum +
          tail.length / headerSize ∧
      e'.counters.oversize = 0 ∧ e'.counters.checksumFailures = 0 ∧ e'.counters.stalls = 0 := by
  obtain ⟨counts, last, e', w', hpolled, hheard⟩ := hunused.pollEach hclock hcaps hfuel
  have hfindings : (config.scan (arrivals.flatMap Arrival.octets)).findings =
      bursts.flatMap Burst.findings ++
        List.replicate (tail.length / headerSize) .badMarker := by
    rw [harrivals]
    exact Scan.findings_scan_bursts hbursts htail
  have hdelivered : deliveries (w'.noted x) = bursts.map (·.frame) := by
    rw [hheard.delivered, Scan.frames, hfindings, Burst.filterMap_findings]
  have hcounts := hheard.counts
  rw [hfindings, Burst.count_badMarker, Burst.count_eq_zero (by decide) rfl,
    Burst.count_eq_zero (by decide) rfl] at hcounts
  simp only [Counters.refusals, Prod.mk.injEq] at hcounts
  exact ⟨counts, e', w', hpolled, hdelivered, hcounts⟩

/-- A frame whose payload is a marker, with noise before it and behind it, in three portions. -/
theorem pollEach_bursts_marker :
    let burst : Burst :=
      { type := 7, id := 1, payload := [0x23], noise := [1, 2, 3, 4, 5, 6, 7, 8, 9]
        encoded := [0x23, 7, 1, 0, 1, 0, 0, 0, 0x23, 0, 0] }
    let arrivals : List Arrival :=
      [⟨[1, 2, 3, 4, 5, 6], none⟩, ⟨[7, 8, 9, 0x23, 7, 1, 0, 1, 0], some 3⟩,
        ⟨[0, 0, 0x23, 0, 0, 0, 0], none⟩]
    let e : Endpoint (Wire Unit) := .ofConfig (.ofSizes 18 18) 7
    let w : Wire Unit := .fresh (fun _ ↦ ⟨[], 1⟩) ()
    ∃ (counts : List Nat) (e' : Endpoint (Wire Unit)) (w' : Wire Unit),
      pollEach (fun app ↦ (0, app)) .near 23 arrivals e w = (counts.map .done, e', w') ∧
      deliveries (w'.noted .near) = [burst.frame] ∧ e'.counters.badMagic = 2 := by
  intro burst arrivals e w
  have hunused : e.Unused .near (.ofSizes 18 18) w := unused_ofConfig rfl 7 _ ()
  have hburst : burst.Sent (Config.ofSizes 18 18).maxDeclared .unchecked ∧
      startMarker ∉ burst.noise := ⟨⟨by decide, by decide⟩, by decide⟩
  obtain ⟨counts, e', w', hpolled, hdelivered, hbadMagic, -⟩ :=
    @pollEach_bursts Unit (fun app ↦ (0, app)) .near (.ofSizes 18 18) e w [burst] [0, 0] arrivals
      23 0 hunused (fun _ ↦ rfl) (List.forall_mem_singleton.mpr hburst) (by decide) (by decide)
      (by decide) (by decide)
  exact ⟨counts, e', w', hpolled, hdelivered, hbadMagic.trans (by decide)⟩

end Endpoint

end FramedLink
