import FramedLink.Frame.Codec

/-!
# Scanning octets in one pass

The receiving side takes octets in portions of any size. What it finds in them is what a scanner
finds that has all of them at hand: `next?` looks at the front of the octets for one frame or one
reason to skip some of them, and `scan` goes on until the octets end before the next decision.

What follows the octets never changes a finding, so the scan of a whole continues the scan of its
first part (`scan_append`). Octets that are encoded frames, one behind the other, are found to be
just these frames, also when the last of them is cut off (`scan_of_append_eq_wires`).
-/

namespace FramedLink

/-- What a scanner comes across. -/
inductive Finding where
  /-- A header that does not begin with the start marker. -/
  | badMarker
  /-- A header that announces more payload than the receiver takes. -/
  | oversize
  /-- A packet whose trailer does not verify. -/
  | badTrailer
  | frame (frame : Frame)
  deriving DecidableEq, Repr

def Finding.frame? : Finding → Option Frame
  | .frame found => some found
  | _ => none

/-- What a scan comes to: what was found, in order, and the octets left for later. -/
structure Scan where
  findings : List Finding
  rest : Bytes
  deriving DecidableEq, Repr

/-- Whether trailers made in one mode pass in another. -/
def Integrity.Admits (mode sent : Integrity) : Prop :=
  mode = sent ∨ mode = .unchecked

theorem Integrity.Admits.verify_trailer {mode sent : Integrity} (h : mode.Admits sent)
    (body : Bytes) : mode.verify body (sent.trailer body) = .ok () := by
  rcases h with rfl | rfl
  · exact mode.verify_trailer body
  · rfl

namespace Scan

open LittleEndian

def frames (scan : Scan) : List Frame :=
  scan.findings.filterMap Finding.frame?

/-- Octets behind a rejected header: from the first start marker among its last seven octets on, or
from its end if there is none. -/
def afterRejected (octets : Bytes) : Bytes :=
  octets.drop (1 + ((octets.take headerSize).tail.takeWhile (· != startMarker)).length)

/-- What a complete packet with a given header is found to be. -/
def judge (mode : Integrity) (header : Header) (packet : Bytes) : Finding :=
  let body := packet.take (headerSize + header.payloadSize)
  let trailer := packet.drop (headerSize + header.payloadSize)
  match mode.verify body (UInt16.ofNat (value trailer)) with
  | .ok () => .frame ⟨header, body.drop headerSize⟩
  | .error _ => .badTrailer

/-- The next finding at the front of some octets and what follows it, or nothing while the octets
end too early to tell. -/
def next? (limit : Nat) (mode : Integrity) (octets : Bytes) : Option (Finding × Bytes) :=
  match octets with
  | marker :: type :: id :: reserved1 :: low :: high :: low' :: high' :: body =>
    if marker ≠ startMarker then some (.badMarker, afterRejected octets)
    else
      let header : Header :=
        { type, id, length := word16 low high, reserved1, reserved2 := word16 low' high' }
      if limit < header.payloadSize then some (.oversize, afterRejected octets)
      else if body.length < header.payloadSize + trailerSize then none
      else some (judge mode header (octets.take header.frameSize),
        octets.drop header.frameSize)
  | _ => none

variable {limit : Nat} {mode : Integrity} {octets rest more : Bytes} {finding : Finding}

theorem next?_of_length_lt (h : octets.length < headerSize) : next? limit mode octets = none := by
  match octets, h with
  | [], _ | [_], _ | [_, _], _ | [_, _, _], _ | [_, _, _, _], _ | [_, _, _, _, _], _
  | [_, _, _, _, _, _], _ | [_, _, _, _, _, _, _], _ => rfl

/-- The next finding by way of the header's codec. -/
theorem next?_eq (h : headerSize ≤ octets.length) :
    next? limit mode octets =
      match Header.decode octets with
      | .error _ => some (.badMarker, afterRejected octets)
      | .ok header =>
        if limit < header.payloadSize then some (.oversize, afterRejected octets)
        else if octets.length < header.frameSize then none
        else some (judge mode header (octets.take header.frameSize),
          octets.drop header.frameSize) := by
  match octets, h with
  | marker :: type :: id :: reserved1 :: low :: high :: low' :: high' :: body, _ =>
    by_cases hmarker : marker = startMarker
    case neg => simp [next?, Header.decode, hmarker]
    case pos =>
      subst hmarker
      have hframe (n : Nat) : n + (8 + 2) = n + 2 + 8 := by omega
      simp only [next?, Header.decode, ne_eq, not_true_eq_false, if_false, if_true,
        Header.frameSize, frameOverhead, headerSize, trailerSize, List.length_cons, hframe,
        Nat.add_lt_add_iff_right]

theorem decode_append (h : headerSize ≤ octets.length) (more : Bytes) :
    Header.decode (octets ++ more) = Header.decode octets := by
  match octets, h with
  | _ :: _ :: _ :: _ :: _ :: _ :: _ :: _ :: _, _ => rfl

theorem decode_take (h : headerSize ≤ octets.length) :
    Header.decode (octets.take headerSize) = Header.decode octets := by
  match octets, h with
  | _ :: _ :: _ :: _ :: _ :: _ :: _ :: _ :: _, _ => rfl

/-- At least one octet is skipped, and no more than a header. -/
theorem skipped_bounds (octets : Bytes) :
    0 < 1 + ((octets.take headerSize).tail.takeWhile (· != startMarker)).length ∧
      1 + ((octets.take headerSize).tail.takeWhile (· != startMarker)).length ≤ headerSize := by
  have hle : ((octets.take headerSize).tail.takeWhile (· != startMarker)).length ≤
      (octets.take headerSize).tail.length :=
    (List.takeWhile_sublist (· != startMarker)).length_le
  simp only [List.length_tail, List.length_take, headerSize] at hle ⊢
  omega

theorem afterRejected_append (h : headerSize ≤ octets.length) (more : Bytes) :
    afterRejected (octets ++ more) = afterRejected octets ++ more := by
  have hskip := skipped_bounds octets
  unfold afterRejected
  rw [List.take_append_of_le_length h, List.drop_append_of_le_length (by omega)]

theorem length_afterRejected_lt (h : headerSize ≤ octets.length) :
    (afterRejected octets).length < octets.length := by
  have hskip := skipped_bounds octets
  simp only [headerSize] at h
  rw [afterRejected, List.length_drop]
  omega

theorem length_lt_of_next? (h : next? limit mode octets = some (finding, rest)) :
    rest.length < octets.length := by
  by_cases hlength : octets.length < headerSize
  · simp [next?_of_length_lt hlength] at h
  · have hskip : (afterRejected octets).length < octets.length :=
      length_afterRejected_lt (by omega)
    rw [next?_eq (by omega)] at h
    split at h
    case h_1 =>
      cases h
      exact hskip
    case h_2 header _ =>
      split at h
      case isTrue =>
        cases h
        exact hskip
      case isFalse =>
        split at h
        case isTrue => cases h
        case isFalse hwhole =>
          cases h
          simp only [List.length_drop, Header.frameSize, frameOverhead, headerSize] at hwhole ⊢
          omega

theorem next?_append (h : next? limit mode octets = some (finding, rest)) (more : Bytes) :
    next? limit mode (octets ++ more) = some (finding, rest ++ more) := by
  by_cases hlength : octets.length < headerSize
  · simp [next?_of_length_lt hlength] at h
  · have hle : headerSize ≤ octets.length := by omega
    rw [next?_eq hle] at h
    rw [next?_eq (by simp; omega), decode_append hle, afterRejected_append hle]
    split at h
    case h_1 =>
      cases h
      rfl
    case h_2 header _ =>
      split at h
      case isTrue hlimit =>
        cases h
        simp [hlimit]
      case isFalse hlimit =>
        split at h
        case isTrue => cases h
        case isFalse hwhole =>
          have hframe : header.frameSize ≤ octets.length := by omega
          have hlonger : ¬ (octets ++ more).length < header.frameSize := by
            rw [List.length_append]
            omega
          cases h
          simp only [hlimit, if_false, hlonger, List.take_append_of_le_length hframe,
            List.drop_append_of_le_length hframe]

/-! ## The scan -/

end Scan

open Scan in
/-- Scans octets from front to end. -/
def scan (limit : Nat) (mode : Integrity) (octets : Bytes) : Scan :=
  match _h : next? limit mode octets with
  | none => ⟨[], octets⟩
  | some (finding, rest) =>
    let later := scan limit mode rest
    ⟨finding :: later.findings, later.rest⟩
termination_by octets.length
decreasing_by exact length_lt_of_next? _h

namespace Scan

variable {limit : Nat} {mode : Integrity} {octets rest more : Bytes} {finding : Finding}

theorem scan_of_next?_none (h : next? limit mode octets = none) :
    scan limit mode octets = ⟨[], octets⟩ := by
  rw [scan]
  split
  · rfl
  · simp_all

theorem scan_of_next?_some (h : next? limit mode octets = some (finding, rest)) :
    scan limit mode octets =
      ⟨finding :: (scan limit mode rest).findings, (scan limit mode rest).rest⟩ := by
  rw [scan]
  split
  · simp_all
  · simp_all

/-- A scan that finds nothing leaves everything. -/
theorem rest_of_findings_eq_nil (h : (scan limit mode octets).findings = []) :
    (scan limit mode octets).rest = octets := by
  cases hnext : next? limit mode octets with
  | none => rw [scan_of_next?_none hnext]
  | some found =>
    obtain ⟨finding, rest⟩ := found
    rw [scan_of_next?_some hnext] at h
    cases h

/-- The scan of a whole continues the scan of its first part. -/
theorem scan_append (octets more : Bytes) :
    scan limit mode (octets ++ more) =
      ⟨(scan limit mode octets).findings ++
          (scan limit mode ((scan limit mode octets).rest ++ more)).findings,
        (scan limit mode ((scan limit mode octets).rest ++ more)).rest⟩ := by
  induction octets using scan.induct limit mode with
  | case1 octets h => simp [scan_of_next?_none h]
  | case2 octets finding rest h ih =>
    rw [scan_of_next?_some (next?_append h more), scan_of_next?_some h, ih]
    rfl

/-- An encoded frame is found to be that frame where its trailer passes. -/
theorem next?_admitted_append {sent : Integrity} (hmode : mode.Admits sent) {frame : Frame}
    (hsize : frame.payload.length = frame.header.payloadSize)
    (hlimit : frame.header.payloadSize ≤ limit) (more : Bytes) :
    next? limit mode (frame.wire sent ++ more) = some (.frame frame, more) := by
  obtain ⟨header, payload⟩ := frame
  have hbody : (header.encode ++ payload).length = headerSize + header.payloadSize := by
    rw [List.length_append, Header.length_encode]
    exact congrArg _ hsize
  have hwire : ((Frame.mk header payload).wire sent).length = header.frameSize := by
    rw [Frame.length_wire]
    exact congrArg (· + frameOverhead) hsize
  have hjudged : judge mode header ((Frame.mk header payload).wire sent) =
      .frame ⟨header, payload⟩ := by
    simp only [judge, Frame.wire, Frame.body, ← hbody, List.take_left, List.drop_left,
      LittleEndian.uint16_value_digits, hmode.verify_trailer]
    rw [← Header.length_encode header, List.drop_left]
  rw [next?_eq (by rw [List.length_append, hwire, Header.frameSize, frameOverhead]; omega),
    Frame.decode_wire_append]
  simp only [Nat.not_lt.mpr hlimit, if_false, List.length_append, hwire,
    Nat.not_lt.mpr (Nat.le_add_right _ _)]
  rw [← hwire, List.take_left, List.drop_left, hjudged]

theorem next?_wire_append {frame : Frame} (hsize : frame.payload.length = frame.header.payloadSize)
    (hlimit : frame.header.payloadSize ≤ limit) (more : Bytes) :
    next? limit mode (frame.wire mode ++ more) = some (.frame frame, more) :=
  next?_admitted_append (.inl rfl) hsize hlimit more

/-- Encoded frames, one behind the other, are found to be these frames, and nothing is left. -/
theorem scan_flatMap_wire {sent : Integrity} (hmode : mode.Admits sent) {frames : List Frame}
    (hframes : ∀ frame ∈ frames,
      frame.payload.length = frame.header.payloadSize ∧ frame.header.payloadSize ≤ limit) :
    scan limit mode (frames.flatMap (Frame.wire sent)) = ⟨frames.map .frame, []⟩ := by
  induction frames with
  | nil => exact scan_of_next?_none rfl
  | cons frame frames ih =>
    obtain ⟨⟨hsize, hlimit⟩, hlater⟩ := List.forall_mem_cons.mp hframes
    rw [List.flatMap_cons,
      scan_of_next?_some (next?_admitted_append hmode hsize hlimit _), ih hlater]
    rfl

/-- The beginning of an encoded frame tells nothing yet. -/
theorem next?_of_append_eq_wire {frame : Frame}
    (hlimit : frame.header.payloadSize ≤ limit) (h : octets ++ more = frame.wire mode ++ rest)
    (hlength : octets.length < frame.wireSize) :
    next? limit mode octets = none := by
  by_cases hheader : octets.length < headerSize
  · exact next?_of_length_lt hheader
  · have hle : headerSize ≤ octets.length := by omega
    have hdecode : Header.decode octets = .ok frame.header := by
      rw [← decode_append hle more, h, Frame.decode_wire_append]
    rw [next?_eq hle, hdecode]
    simp only [Nat.not_lt.mpr hlimit, if_false]
    exact if_pos hlength

/-- Octets that begin a row of encoded frames are found to be the first of these frames, and what
is left of them begins the rest of the row. -/
theorem scan_of_append_eq_wires {frames : List Frame}
    (hframes : ∀ frame ∈ frames,
      frame.payload.length = frame.header.payloadSize ∧ frame.header.payloadSize ≤ limit)
    (h : octets ++ more = frames.flatMap (Frame.wire mode)) :
    ∃ first later, frames = first ++ later ∧
      (scan limit mode octets).findings = first.map .frame ∧
      (scan limit mode octets).rest ++ more = later.flatMap (Frame.wire mode) := by
  induction frames generalizing octets with
  | nil =>
    obtain ⟨rfl, rfl⟩ := List.append_eq_nil_iff.mp h
    exact ⟨[], [], rfl, by rw [scan_of_next?_none rfl]; rfl, by rw [scan_of_next?_none rfl]; rfl⟩
  | cons frame frames ih =>
    obtain ⟨⟨hsize, hlimit⟩, hlater⟩ := List.forall_mem_cons.mp hframes
    rw [List.flatMap_cons] at h
    by_cases hlength : octets.length < frame.wireSize
    · have hnone := next?_of_append_eq_wire hlimit h hlength
      refine ⟨[], frame :: frames, rfl, ?_, ?_⟩
      · rw [scan_of_next?_none hnone]
        rfl
      · rw [scan_of_next?_none hnone, List.flatMap_cons]
        exact h
    · have hwire : (frame.wire mode).length ≤ octets.length := by
        rw [Frame.length_wire, hsize]
        exact Nat.not_lt.mp hlength
      obtain ⟨beyond, rfl⟩ : frame.wire mode <+: octets :=
        List.prefix_of_prefix_length_le ⟨_, rfl⟩ ⟨more, h⟩ hwire
      rw [List.append_assoc, List.append_cancel_left_eq] at h
      obtain ⟨first, later, rfl, hfindings, hrest⟩ := ih hlater h
      refine ⟨frame :: first, later, rfl, ?_, ?_⟩
      · rw [scan_of_next?_some (next?_wire_append hsize hlimit beyond), hfindings]
        rfl
      · rw [scan_of_next?_some (next?_wire_append hsize hlimit beyond)]
        exact hrest

end Scan

end FramedLink
