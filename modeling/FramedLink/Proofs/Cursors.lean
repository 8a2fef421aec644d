import FramedLink.Proofs.Handling.Sending
import FramedLink.Proofs.Reception.Stages

/-!
# Cursors in their bounds

A region is used through a cursor, and every access is preceded by a check that adds up the cursor
and a length chosen by the caller. Here the operations are written down once more with sums of
machine words, and with every slice taken only if it lies inside the region
(`Outgoing.perform?`, `Incoming.perform?`). What an operation can do is said once, outcome by
outcome (`Outgoing.Does`, `Incoming.Does`). From there it follows that the cursor keeps its bounds,
and that inside them no sum is too large and no slice is missing, so that both ways of writing an
operation agree; a refused operation leaves everything as it was, a write changes the octets at the
cursor, and sealing changes header and trailer. All of this holds after any run of operations
(`cursors_kept`).
-/

namespace FramedLink

/-- The sum of two machine words, if it is one. -/
def sumWord? (a b : Nat) : Option Nat :=
  if a + b < UInt64.size then some (a + b) else none

theorem sumWord?_eq {a b : Nat} (h : a + b < UInt64.size) : sumWord? a b = some (a + b) :=
  if_pos h

/-- Where `needed` octets from `start` on stop, if that is a machine word and within a limit. -/
def stopWithin (start needed limit : Nat) (error : FrameError) : Except FrameError Nat :=
  match (sumWord? start needed).filter (· ≤ limit) with
  | some stop => .ok stop
  | none => .error error

theorem stopWithin_inside {start needed limit : Nat} (hword : limit < UInt64.size)
    (h : start + needed ≤ limit) (error : FrameError) :
    stopWithin start needed limit error = .ok (start + needed) := by
  rw [stopWithin, sumWord?_eq (Nat.lt_of_le_of_lt h hword), Option.filter_some,
    if_pos (decide_eq_true h)]

/-- Past the limit it makes no difference whether the sum is a word. -/
theorem stopWithin_past {start needed limit : Nat} (h : limit < start + needed)
    (error : FrameError) : stopWithin start needed limit error = .error error := by
  have hfilter : (sumWord? start needed).filter (· ≤ limit) = none := by
    unfold sumWord?
    split
    · rw [Option.filter_some, if_neg (by rw [decide_eq_true_eq]; omega)]
    · rfl
  rw [stopWithin, hfilter]

/-- What follows a slice from the front on. -/
theorem Region.slice_append_drop (region : Region) (stop : Nat) :
    region.slice 0 stop ++ region.toList.drop stop = region.toList := by
  rw [slice_eq, List.drop_zero, List.take_append_drop]

theorem Region.slice_to_end (region : Region) (start : Nat) :
    region.slice start region.size = region.toList.drop start := by
  rw [slice_eq, List.take_of_length_le (Nat.le_of_eq Array.length_toList)]

/-- Writing leaves everything behind what is written. -/
theorem Region.drop_overwrite {region : Region} {start stop : Nat} {octets : Bytes}
    (h : start + octets.length ≤ stop) (hstop : stop ≤ region.size) :
    (region.overwrite start octets).toList.drop stop = region.toList.drop stop := by
  rw [← slice_to_end, ← slice_to_end, size_overwrite,
    slice_overwrite_behind h (Nat.le_trans h hstop)]

/-- The region with a slice replaced by as many octets, if the slice lies inside. -/
def Region.overwrite? (region : Region) (start stop : Nat) (octets : Bytes) : Option Region :=
  if start ≤ stop ∧ stop ≤ region.size ∧ octets.length = stop - start then
    some (region.overwrite start octets)
  else none

theorem Region.overwrite?_eq {region : Region} {start stop : Nat} {octets : Bytes}
    (h : start + octets.length = stop) (hstop : stop ≤ region.size) :
    region.overwrite? start stop octets = some (region.overwrite start octets) :=
  if_pos ⟨by omega, hstop, by omega⟩

/-! ## The outgoing region -/

namespace Outgoing

/-- Puts header and trailer around a payload, if they and the payload lie inside the region. -/
def enclose? (out : Outgoing) (type id : UInt8) (size : Nat) (mode : Integrity) :
    Option (Bytes × Outgoing) := do
  let header := Header.plain type id (UInt16.ofNat size)
  let headed ← out.region.overwrite? 0 headerSize header.encode
  let bodySize ← sumWord? headerSize size
  let body ← headed.slice? 0 bodySize
  let stop ← sumWord? bodySize trailerSize
  let trailer := LittleEndian.digits trailerSize (mode.trailer body).toNat
  let sealed ← headed.overwrite? bodySize stop trailer
  let frame ← sealed.slice? 0 stop
  return (frame, { out with region := sealed })

/-- Carries an operation out, if no sum is too large and all slices lie inside the region. -/
def perform? (out : Outgoing) : (op : Op) → Option (op.Answer × Outgoing)
  | .write field =>
    match field.encode with
    | .error e => some (.error e, out)
    | .ok octets =>
      let needed := octets.length
      match stopWithin out.cursor needed out.limit (.overflow out.cursor needed out.limit) with
      | .error e => some (.error e, out)
      | .ok stop => (out.region.overwrite? out.cursor stop octets).map fun region ↦
        (.ok (), ⟨region, stop⟩)
  | .skip count =>
    match stopWithin out.cursor count out.limit (.overflow out.cursor count out.limit) with
    | .error e => some (.error e, out)
    | .ok cursor => some (.ok (), { out with cursor })
  | .reset => some ((), out.reset)
  | .patch offset octets => (out.region.slice? headerSize out.cursor).map fun _ ↦
    ((), out.patch offset octets)
  | .fillSpare octets => (out.region.slice? out.cursor out.limit).map fun spare ↦
    (spare.length, out.fillSpare octets)
  | .sealFrame type id size mode =>
    if size ≤ maxPayload ∧ size ≤ out.payloadCapacity then
      (out.enclose? type id size mode).map fun (frame, sealed) ↦ (.ok frame, sealed)
    else some (.error (.tooLarge size out.payloadCapacity), out)

def Op.refusal? : (op : Op) → op.Answer → Option FrameError
  | .write _, .error e => some e
  | .skip _, .error e => some e
  | .sealFrame .., .error e => some e
  | _, _ => none

/-- An outgoing region with its cursor between header and trailer, no larger than a machine word
can tell. -/
structure Sound (out : Outgoing) : Prop where
  word : out.capacity < UInt64.size
  room : frameOverhead ≤ out.capacity
  cursor_ge : headerSize ≤ out.cursor
  cursor_le : out.cursor ≤ out.limit

variable {out : Outgoing}

theorem sound_ofCapacity {size : Nat} (h : size < UInt64.size) : (ofCapacity size).Sound := by
  have hcapacity : (ofCapacity size).capacity = max size frameOverhead := Array.size_replicate
  have hlimit : (ofCapacity size).limit = (ofCapacity size).capacity - trailerSize := rfl
  have hoverhead : frameOverhead = headerSize + trailerSize := rfl
  have hsmall : frameOverhead < UInt64.size := by decide
  constructor
  case word => rw [hcapacity]; omega
  case room => rw [hcapacity]; omega
  case cursor_ge => exact Nat.le_refl headerSize
  case cursor_le =>
    rw [hlimit, hcapacity]
    show headerSize ≤ _
    omega

/-- Only the size of the region and the place of the cursor matter. -/
theorem Sound.of_capacity (h : out.Sound) {next : Outgoing}
    (hcapacity : next.capacity = out.capacity) (hge : headerSize ≤ next.cursor)
    (hle : next.cursor ≤ out.limit) : next.Sound where
  word := hcapacity ▸ h.word
  room := hcapacity ▸ h.room
  cursor_ge := hge
  cursor_le := by
    have hlimit : next.limit = out.limit := congrArg (· - trailerSize) hcapacity
    rw [hlimit]
    exact hle

/-- A frame that can be built here lies inside the region. -/
theorem Sound.end_le (h : out.Sound) {size : Nat} (hroom : size ≤ out.payloadCapacity) :
    headerSize + size + trailerSize ≤ out.region.size := by
  have hwhole : size ≤ out.region.size - (headerSize + trailerSize) := hroom
  have hleast : headerSize + trailerSize ≤ out.region.size := h.room
  omega

section Sealing

variable {type id : UInt8} {size : Nat} {mode : Integrity} {frame : Bytes} {sealed : Outgoing}

/-- Sealing writes twice, and hands out what then lies at the front of the region. -/
theorem exists_of_sealFrame (h : out.sealFrame type id size mode = .ok (frame, sealed)) :
    ∃ header trailer : Bytes, header.length = headerSize ∧ trailer.length = trailerSize ∧
      frame = sealed.region.slice 0 (headerSize + size + trailerSize) ∧
      sealed = { out with
        region := (out.region.overwrite 0 header).overwrite (headerSize + size) trailer } := by
  unfold sealFrame at h
  dsimp only at h
  split at h
  case isTrue =>
    rw [Except.ok.injEq, Prod.mk.injEq] at h
    obtain ⟨hframe, hsealed⟩ := h
    refine ⟨_, _, Header.length_encode _, LittleEndian.length_digits _ _, ?_, hsealed.symm⟩
    rw [← hsealed]
    dsimp only
    exact hframe.symm
  case isFalse => cases h

theorem cursor_of_sealFrame (h : out.sealFrame type id size mode = .ok (frame, sealed)) :
    sealed.cursor = out.cursor := by
  obtain ⟨header, trailer, -, -, -, hsealed⟩ := exists_of_sealFrame h
  rw [hsealed]

/-- Behind the frame, sealing leaves everything as it was. -/
theorem toList_of_sealFrame (hend : headerSize + size + trailerSize ≤ out.region.size)
    (h : out.sealFrame type id size mode = .ok (frame, sealed)) :
    sealed.region.toList =
      frame ++ out.region.toList.drop (headerSize + size + trailerSize) := by
  obtain ⟨header, trailer, hheader, htrailer, hframe, hsealed⟩ := exists_of_sealFrame h
  have hregion : sealed.region =
      (out.region.overwrite 0 header).overwrite (headerSize + size) trailer := by rw [hsealed]
  have hbehind : sealed.region.toList.drop (headerSize + size + trailerSize) =
      out.region.toList.drop (headerSize + size + trailerSize) := by
    rw [hregion, Region.drop_overwrite (by rw [htrailer])
      (by rw [Region.size_overwrite]; exact hend)]
    exact Region.drop_overwrite (by rw [hheader]; omega) hend
  rw [← hbehind, hframe, Region.slice_append_drop]

end Sealing

/-- What an operation can answer and leave behind. -/
inductive Does (out : Outgoing) : (op : Op) → op.Answer × Outgoing → Prop where
  | written {field : Field} {octets : Bytes} (hoctets : field.encode = .ok octets)
      (hroom : out.cursor + octets.length ≤ out.limit) :
    Does out (.write field)
      (.ok (), ⟨out.region.overwrite out.cursor octets, out.cursor + octets.length⟩)
  | unwritable {field : Field} {e : FrameError} (herror : field.encode = .error e) :
    Does out (.write field) (.error e, out)
  | writePast {field : Field} {octets : Bytes} (hoctets : field.encode = .ok octets)
      (hpast : out.limit < out.cursor + octets.length) :
    Does out (.write field) (.error (.overflow out.cursor octets.length out.limit), out)
  | skipped {count : Nat} (hroom : out.cursor + count ≤ out.limit) :
    Does out (.skip count) (.ok (), { out with cursor := out.cursor + count })
  | skipPast {count : Nat} (hpast : out.limit < out.cursor + count) :
    Does out (.skip count) (.error (.overflow out.cursor count out.limit), out)
  | reset : Does out .reset ((), out.reset)
  | patched (offset : Nat) (octets : Bytes) :
    Does out (.patch offset octets) ((), out.patch offset octets)
  | filled (octets : Bytes) :
    Does out (.fillSpare octets) (out.remaining, out.fillSpare octets)
  | framed {type id : UInt8} {size : Nat} {mode : Integrity} {frame : Bytes} {sealed : Outgoing}
      (hmax : size ≤ maxPayload) (hroom : size ≤ out.payloadCapacity)
      (hsealed : out.sealFrame type id size mode = .ok (frame, sealed)) :
    Does out (.sealFrame type id size mode) (.ok frame, sealed)
  | tooLarge {type id : UInt8} {size : Nat} {mode : Integrity}
      (hlarge : ¬ (size ≤ maxPayload ∧ size ≤ out.payloadCapacity)) :
    Does out (.sealFrame type id size mode) (.error (.tooLarge size out.payloadCapacity), out)

theorem does_perform (out : Outgoing) (op : Op) : out.Does op (out.perform op) := by
  cases op with
  | write field =>
    cases hoctets : field.encode with
    | error e =>
      have hwrite : out.write field = .error e := by rw [write, hoctets]; rfl
      simp only [perform, hwrite]
      exact .unwritable hoctets
    | ok octets =>
      by_cases hroom : out.cursor + octets.length ≤ out.limit
      · simp only [perform, write_of_fits hoctets hroom]
        exact .written hoctets hroom
      · have hwrite : out.write field =
            .error (.overflow out.cursor octets.length out.limit) := by
          rw [write, hoctets]
          simp only [Except.bind, writeBytes, advance, if_neg hroom]
          rfl
        simp only [perform, hwrite]
        exact .writePast hoctets (Nat.lt_of_not_le hroom)
  | skip count =>
    by_cases hroom : out.cursor + count ≤ out.limit
    · simp only [perform, skip, advance, if_pos hroom, Except.map]
      exact .skipped hroom
    · simp only [perform, skip, advance, if_neg hroom, Except.map]
      exact .skipPast (Nat.lt_of_not_le hroom)
  | reset => exact .reset
  | patch offset octets => exact .patched offset octets
  | fillSpare octets => exact .filled octets
  | sealFrame type id size mode =>
    by_cases hfits : size ≤ maxPayload ∧ size ≤ out.payloadCapacity
    · obtain ⟨frame, sealed, hsealed⟩ := exists_sealFrame hfits.1 hfits.2 type id mode
      simp only [perform, hsealed]
      exact .framed hfits.1 hfits.2 hsealed
    · have hsealed : out.sealFrame type id size mode =
          .error (.tooLarge size out.payloadCapacity) := if_neg hfits
      simp only [perform, hsealed]
      exact .tooLarge hfits

/-- No operation changes the size of the region. -/
theorem Does.capacity {op : Op} {result : op.Answer × Outgoing} (h : out.Does op result) :
    result.2.capacity = out.capacity := by
  cases h with
  | written _ _ | patched _ _ | filled _ => exact Region.size_overwrite _ _ _
  | framed _ _ hsealed => exact size_of_sealFrame hsealed
  | unwritable _ | writePast _ _ | skipped _ | skipPast _ | reset | tooLarge _ => rfl

/-- Every operation leaves the cursor between header and trailer. -/
theorem Does.sound {op : Op} {result : op.Answer × Outgoing} (h : out.Does op result)
    (hsound : out.Sound) : result.2.Sound := by
  have hge := hsound.cursor_ge
  have hle := hsound.cursor_le
  suffices hbounds : headerSize ≤ result.2.cursor ∧ result.2.cursor ≤ out.limit from
    hsound.of_capacity h.capacity hbounds.1 hbounds.2
  cases h with
  | written _ hroom | skipped hroom => exact ⟨Nat.le_trans hge (Nat.le_add_right _ _), hroom⟩
  | reset => exact ⟨Nat.le_refl headerSize, Nat.le_trans hge hle⟩
  | framed _ _ hsealed => exact cursor_of_sealFrame hsealed ▸ ⟨hge, hle⟩
  | unwritable _ | writePast _ _ | skipPast _ | patched _ _ | filled _ | tooLarge _ =>
    exact ⟨hge, hle⟩

/-- A payload that fits is enclosed inside the region. -/
theorem Sound.enclose?_eq (hsound : out.Sound) {type id : UInt8} {size : Nat} {mode : Integrity}
    {frame : Bytes} {sealed : Outgoing} (hmax : size ≤ maxPayload)
    (hroom : size ≤ out.payloadCapacity)
    (h : out.sealFrame type id size mode = .ok (frame, sealed)) :
    out.enclose? type id size mode = some (frame, sealed) := by
  have hend : headerSize + size + trailerSize ≤ out.region.size := hsound.end_le hroom
  have hsum {a b : Nat} (hab : a + b ≤ out.region.size) : sumWord? a b = some (a + b) :=
    sumWord?_eq (Nat.lt_of_le_of_lt hab hsound.word)
  let header := Header.plain type id (UInt16.ofNat size)
  let headed := out.region.overwrite 0 header.encode
  let trailer := LittleEndian.digits trailerSize
    (mode.trailer (headed.slice 0 (headerSize + size))).toNat
  let whole := headed.overwrite (headerSize + size) trailer
  have hheadedSize : headed.size = out.region.size := Region.size_overwrite _ _ _
  have hwholeSize : whole.size = out.region.size :=
    (Region.size_overwrite _ _ _).trans hheadedSize
  have hheaded : out.region.overwrite? 0 headerSize header.encode = some headed :=
    Region.overwrite?_eq (by rw [Header.length_encode, Nat.zero_add]) (by omega)
  have hbody : headed.slice? 0 (headerSize + size) = some (headed.slice 0 (headerSize + size)) :=
    Region.slice?_eq (Nat.zero_le _) (by omega)
  have hwhole : headed.overwrite? (headerSize + size) (headerSize + size + trailerSize) trailer =
      some whole :=
    Region.overwrite?_eq (by rw [LittleEndian.length_digits]) (by omega)
  have hframe : whole.slice? 0 (headerSize + size + trailerSize) =
      some (whole.slice 0 (headerSize + size + trailerSize)) :=
    Region.slice?_eq (Nat.zero_le _) (by omega)
  have hsealFrame : out.sealFrame type id size mode =
      .ok (whole.slice 0 (headerSize + size + trailerSize), { out with region := whole }) :=
    if_pos ⟨hmax, hroom⟩
  rw [hsealFrame, Except.ok.injEq] at h
  rw [← h]
  unfold enclose?
  simp only [Option.bind_eq_bind]
  refine Option.bind_eq_some_iff.mpr ⟨headed, hheaded, ?_⟩
  refine Option.bind_eq_some_iff.mpr ⟨_, hsum (Nat.le_of_add_right_le hend), ?_⟩
  refine Option.bind_eq_some_iff.mpr ⟨_, hbody, ?_⟩
  refine Option.bind_eq_some_iff.mpr ⟨_, hsum hend, ?_⟩
  refine Option.bind_eq_some_iff.mpr ⟨whole, hwhole, ?_⟩
  exact Option.bind_eq_some_iff.mpr ⟨_, hframe, rfl⟩

/-- Where the cursor is in its bounds, no sum is too large and no slice is missing. -/
theorem Does.checked {op : Op} {result : op.Answer × Outgoing} (h : out.Does op result)
    (hsound : out.Sound) : out.perform? op = some result := by
  have hlimit : out.limit ≤ out.region.size := Nat.sub_le _ _
  have hword : out.limit < UInt64.size := Nat.lt_of_le_of_lt hlimit hsound.word
  cases h with
  | written hoctets hroom =>
    simp only [perform?, hoctets, stopWithin_inside hword hroom,
      Region.overwrite?_eq rfl (Nat.le_trans hroom hlimit), Option.map_some]
  | unwritable herror => simp only [perform?, herror]
  | writePast hoctets hpast => simp only [perform?, hoctets, stopWithin_past hpast]
  | skipped hroom => simp only [perform?, stopWithin_inside hword hroom]
  | skipPast hpast => simp only [perform?, stopWithin_past hpast]
  | reset => rfl
  | patched offset octets =>
    simp only [perform?, Region.slice?_eq hsound.cursor_ge (Nat.le_trans hsound.cursor_le hlimit),
      Option.map_some]
  | filled octets =>
    simp only [perform?, Region.slice?_eq hsound.cursor_le hlimit, Option.map_some,
      Region.length_slice, Nat.min_eq_left hlimit]
    rfl
  | @framed type id size mode frame sealed hmax hroom hsealed =>
    simp only [perform?, if_pos (And.intro hmax hroom), hsound.enclose?_eq hmax hroom hsealed,
      Option.map_some]
  | tooLarge hlarge => simp only [perform?, if_neg hlarge]

/-- A refused operation leaves everything as it was. -/
theorem Does.refused {op : Op} {result : op.Answer × Outgoing} (h : out.Does op result)
    {error : FrameError} (herror : op.refusal? result.1 = some error) : result.2 = out := by
  cases h with
  | unwritable _ | writePast _ _ | skipPast _ | tooLarge _ => rfl
  | written _ _ | skipped _ | reset | patched _ _ | filled _ | framed _ _ _ => cases herror

/-- What a field that was written changes: its octets, which are as many as its type says, are now
at the place where the cursor was. -/
theorem Does.of_written {field : Field} {next : Outgoing}
    (h : out.Does (.write field) (.ok (), next)) :
    next.cursor = out.cursor + field.type.size ∧
      ∃ octets, field.encode = .ok octets ∧ octets.length = field.type.size ∧
        next.region.toList =
          out.region.toList.take out.cursor ++ octets ++ out.region.toList.drop next.cursor := by
  cases h with
  | @written _ octets hoctets hroom =>
    have hlength : octets.length = field.type.size := Field.length_of_encode hoctets
    have hinside : out.cursor + octets.length ≤ out.region.size :=
      Nat.le_trans hroom (Nat.sub_le _ _)
    refine ⟨congrArg (out.cursor + ·) hlength, octets, hoctets, hlength, ?_⟩
    exact Region.toList_overwrite hinside

/-- Passing over octets moves nothing but the cursor. -/
theorem Does.of_skipped {count : Nat} {next : Outgoing}
    (h : out.Does (.skip count) (.ok (), next)) :
    next = { out with cursor := out.cursor + count } := by
  cases h with
  | skipped hroom => rfl

/-- What sealing changes: header and trailer, around the octets at the place of the payload. The
cursor stays. -/
theorem Does.of_framed (hsound : out.Sound) {type id : UInt8} {size : Nat} {mode : Integrity}
    {frame : Bytes} {next : Outgoing}
    (h : out.Does (.sealFrame type id size mode) (.ok frame, next)) :
    next.cursor = out.cursor ∧ (out.payloadOf size).length = size ∧
      ∃ header trailer : Bytes, header.length = headerSize ∧ trailer.length = trailerSize ∧
        frame = header ++ out.payloadOf size ++ trailer ∧
        next.region.toList = frame ++ out.region.toList.drop (headerSize + size + trailerSize) := by
  cases h with
  | framed hmax hroom hsealed =>
    obtain ⟨-, hlength, -, hframe⟩ := sealFrame_ok hsound.room hsealed
    refine ⟨cursor_of_sealFrame hsealed, hlength, _, _, Header.length_encode _,
      LittleEndian.length_digits _ _, hframe, toList_of_sealFrame (hsound.end_le hroom) hsealed⟩

/-- What the owner of an outgoing region of a size can rely on. -/
structure Kept (size : Nat) (out : Outgoing) : Prop where
  capacity : out.capacity = size
  cursor_ge : headerSize ≤ out.cursor
  cursor_le : out.cursor + trailerSize ≤ size
  sizes : out.payloadSize + out.remaining = out.payloadCapacity
  /-- What fits is done, and what does not is refused. -/
  outcome (op : Op) : out.Does op (out.perform op)
  /-- No sum is too large and no slice is missing. -/
  inside (op : Op) : out.perform? op = some (out.perform op)
  refused (op : Op) (error : FrameError) :
    op.refusal? (out.perform op).1 = some error → (out.perform op).2 = out
  written (field : Field) (next : Outgoing) : out.perform (.write field) = (.ok (), next) →
    next.cursor = out.cursor + field.type.size ∧
      ∃ octets, field.encode = .ok octets ∧ octets.length = field.type.size ∧
        next.region.toList =
          out.region.toList.take out.cursor ++ octets ++ out.region.toList.drop next.cursor
  skipped (count : Nat) (next : Outgoing) : out.perform (.skip count) = (.ok (), next) →
    next = { out with cursor := out.cursor + count }
  framed (type id : UInt8) (size : Nat) (mode : Integrity) (frame : Bytes) (next : Outgoing) :
    out.perform (.sealFrame type id size mode) = (.ok frame, next) →
      next.cursor = out.cursor ∧ (out.payloadOf size).length = size ∧
        ∃ header trailer : Bytes, header.length = headerSize ∧ trailer.length = trailerSize ∧
          frame = header ++ out.payloadOf size ++ trailer ∧
          next.region.toList = frame ++ out.region.toList.drop (headerSize + size + trailerSize)

theorem Sound.kept (h : out.Sound) : out.Kept out.capacity where
  capacity := rfl
  cursor_ge := h.cursor_ge
  cursor_le := by
    have hroom : headerSize + trailerSize ≤ out.capacity := h.room
    have hle : out.cursor ≤ out.capacity - trailerSize := h.cursor_le
    omega
  sizes := by
    have hge := h.cursor_ge
    have hle : out.cursor ≤ out.region.size - trailerSize := h.cursor_le
    simp only [payloadSize, remaining, limit, payloadCapacity, frameOverhead]
    omega
  outcome := does_perform out
  inside op := (does_perform out op).checked h
  refused op _ herror := (does_perform out op).refused herror
  written field _ heq := Does.of_written (heq ▸ does_perform out (.write field))
  skipped count _ heq := Does.of_skipped (heq ▸ does_perform out (.skip count))
  framed type id size mode _ _ heq :=
    Does.of_framed h (heq ▸ does_perform out (.sealFrame type id size mode))

def after (ops : List Op) (out : Outgoing) : Outgoing :=
  ops.foldl (fun out op ↦ (out.perform op).2) out

/-- Every run of operations leaves the cursor between header and trailer, and the region its
size. -/
theorem Sound.after (h : out.Sound) (ops : List Op) :
    (out.after ops).Sound ∧ (out.after ops).capacity = out.capacity := by
  induction ops generalizing out with
  | nil => exact ⟨h, rfl⟩
  | cons op ops ih =>
    have hdoes : out.Does op (out.perform op) := does_perform out op
    obtain ⟨hsound, hcapacity⟩ := ih (hdoes.sound h)
    exact ⟨hsound, hcapacity.trans hdoes.capacity⟩

end Outgoing

/-! ## The incoming region -/

namespace Incoming

/-- Carries an operation out, if no sum is too large and all slices lie inside the region. A size
to be opened that no machine word can hold is cut down to one. -/
def perform? (inc : Incoming) : (op : Op) → Option (op.Answer × Incoming)
  | .read type =>
    let needed := type.size
    match stopWithin inc.cursor needed inc.limit (.underflow inc.cursor needed inc.limit) with
    | .error e => some (.error e, inc)
    | .ok stop => (inc.region.slice? inc.cursor stop).map fun octets ↦
      (.ok (type.decode octets), { inc with cursor := stop })
  | .skip count =>
    match stopWithin inc.cursor count inc.limit (.underflow inc.cursor count inc.limit) with
    | .error e => some (.error e, inc)
    | .ok cursor => some (.ok (), { inc with cursor })
  | .store offset octets =>
    let needed := octets.length
    match stopWithin offset needed inc.capacity (.overflow offset needed inc.capacity) with
    | .error e => some (.error e, inc)
    | .ok stop => (inc.region.overwrite? offset stop octets).map fun region ↦
      (.ok (), { inc with region })
  | .slot offset size =>
    match stopWithin offset size inc.capacity (.overflow offset size inc.capacity) with
    | .error e => some (.error e, inc)
    | .ok stop => (inc.region.slice? offset stop).map fun octets ↦ (.ok octets, inc)
  | .openPayload size =>
    let stop := min (headerSize + size) (UInt64.size - 1)
    some ((), { inc with cursor := headerSize, limit := min stop inc.capacity })
  | .rewind => some ((), inc.rewind)
  | .reset => some ((), inc.reset)
  | .discardFront count filled =>
    let filled := min filled inc.capacity
    let count := min count filled
    (inc.region.slice? count filled).bind fun kept ↦
      (inc.region.overwrite? 0 kept.length kept).map fun region ↦ ((), { inc with region })

def Op.refusal? : (op : Op) → op.Answer → Option FrameError
  | .read _, .error e => some e
  | .skip _, .error e => some e
  | .store .., .error e => some e
  | .slot .., .error e => some e
  | _, _ => none

/-- An incoming region with its cursor in the open payload, no larger than a machine word can
tell. -/
structure Sound (inc : Incoming) : Prop where
  word : inc.capacity < UInt64.size
  room : headerSize ≤ inc.capacity
  cursor_ge : headerSize ≤ inc.cursor
  cursor_le : inc.cursor ≤ inc.limit
  limit_le : inc.limit ≤ inc.capacity

variable {inc : Incoming}

theorem sound_ofCapacity {size : Nat} (h : size < UInt64.size) : (ofCapacity size).Sound := by
  have hcapacity : (ofCapacity size).capacity = max size frameOverhead := Array.size_replicate
  have hsmall : frameOverhead < UInt64.size := by decide
  have hroom : headerSize ≤ (ofCapacity size).capacity := by
    rw [hcapacity]
    exact Nat.le_trans (Nat.le_add_right headerSize trailerSize) (Nat.le_max_right _ _)
  exact ⟨by rw [hcapacity]; omega, hroom, Nat.le_refl _, Nat.le_refl _, hroom⟩

inductive Does (inc : Incoming) : (op : Op) → op.Answer × Incoming → Prop where
  | taken {type : FieldType} (hinside : inc.cursor + type.size ≤ inc.limit) :
    Does inc (.read type)
      (.ok (type.decode (inc.region.slice inc.cursor (inc.cursor + type.size))),
        { inc with cursor := inc.cursor + type.size })
  | readPast {type : FieldType} (hpast : inc.limit < inc.cursor + type.size) :
    Does inc (.read type) (.error (.underflow inc.cursor type.size inc.limit), inc)
  | skipped {count : Nat} (hinside : inc.cursor + count ≤ inc.limit) :
    Does inc (.skip count) (.ok (), { inc with cursor := inc.cursor + count })
  | skipPast {count : Nat} (hpast : inc.limit < inc.cursor + count) :
    Does inc (.skip count) (.error (.underflow inc.cursor count inc.limit), inc)
  | stored {offset : Nat} {octets : Bytes} (hinside : offset + octets.length ≤ inc.capacity) :
    Does inc (.store offset octets) (.ok (), inc.store offset octets)
  | storePast {offset : Nat} {octets : Bytes} (hpast : inc.capacity < offset + octets.length) :
    Does inc (.store offset octets) (.error (.overflow offset octets.length inc.capacity), inc)
  | shown {offset size : Nat} (hinside : offset + size ≤ inc.capacity) :
    Does inc (.slot offset size) (.ok (inc.region.slice offset (offset + size)), inc)
  | slotPast {offset size : Nat} (hpast : inc.capacity < offset + size) :
    Does inc (.slot offset size) (.error (.overflow offset size inc.capacity), inc)
  | opened (size : Nat) : Does inc (.openPayload size) ((), inc.openPayload size)
  | rewound : Does inc .rewind ((), inc.rewind)
  | reset : Does inc .reset ((), inc.reset)
  | discarded (count filled : Nat) :
    Does inc (.discardFront count filled) ((), inc.discardFront count filled)

theorem does_perform (inc : Incoming) (op : Op) : inc.Does op (inc.perform op) := by
  cases op with
  | read type =>
    by_cases hinside : inc.cursor + type.size ≤ inc.limit
    · simp only [perform, read, take, advance, if_pos hinside, Except.map]
      exact .taken hinside
    · simp only [perform, read, take, advance, if_neg hinside, Except.map]
      exact .readPast (Nat.lt_of_not_le hinside)
  | skip count =>
    by_cases hinside : inc.cursor + count ≤ inc.limit
    · simp only [perform, skip, advance, if_pos hinside, Except.map]
      exact .skipped hinside
    · simp only [perform, skip, advance, if_neg hinside, Except.map]
      exact .skipPast (Nat.lt_of_not_le hinside)
  | store offset octets =>
    by_cases hinside : offset + octets.length ≤ inc.capacity
    · simp only [perform, checkSlot, if_pos hinside]
      exact .stored hinside
    · simp only [perform, checkSlot, if_neg hinside]
      exact .storePast (Nat.lt_of_not_le hinside)
  | slot offset size =>
    by_cases hinside : offset + size ≤ inc.capacity
    · simp only [perform, checkSlot, if_pos hinside]
      exact .shown hinside
    · simp only [perform, checkSlot, if_neg hinside]
      exact .slotPast (Nat.lt_of_not_le hinside)
  | openPayload size => exact .opened size
  | rewind => exact .rewound
  | reset => exact .reset
  | discardFront count filled => exact .discarded count filled

theorem Does.capacity {op : Op} {result : op.Answer × Incoming} (h : inc.Does op result) :
    result.2.capacity = inc.capacity := by
  cases h with
  | stored _ | discarded _ _ => exact Region.size_overwrite _ _ _
  | taken _ | readPast _ | skipped _ | skipPast _ | storePast _ | shown _ | slotPast _ | opened _
  | rewound | reset => rfl

theorem Does.sound {op : Op} {result : op.Answer × Incoming} (h : inc.Does op result)
    (hsound : inc.Sound) : result.2.Sound := by
  have hcapacity : result.2.capacity = inc.capacity := h.capacity
  have hge := hsound.cursor_ge
  have hle := hsound.cursor_le
  suffices hbounds : headerSize ≤ result.2.cursor ∧ result.2.cursor ≤ result.2.limit ∧
      result.2.limit ≤ inc.capacity from
    ⟨hcapacity ▸ hsound.word, hcapacity ▸ hsound.room, hbounds.1, hbounds.2.1,
      hcapacity ▸ hbounds.2.2⟩
  cases h with
  | taken hinside | skipped hinside =>
    exact ⟨Nat.le_trans hge (Nat.le_add_right _ _), hinside, hsound.limit_le⟩
  | opened size =>
    exact ⟨Nat.le_refl _, Nat.le_min.mpr ⟨Nat.le_add_right _ _, hsound.room⟩, Nat.min_le_right _ _⟩
  | rewound => exact ⟨Nat.le_refl _, Nat.le_trans hge hle, hsound.limit_le⟩
  | reset => exact ⟨Nat.le_refl _, Nat.le_refl _, hsound.room⟩
  | readPast _ | skipPast _ | stored _ | storePast _ | shown _ | slotPast _ | discarded _ _ =>
    exact ⟨hge, hle, hsound.limit_le⟩

theorem Does.refused {op : Op} {result : op.Answer × Incoming} (h : inc.Does op result)
    {error : FrameError} (herror : op.refusal? result.1 = some error) : result.2 = inc := by
  cases h with
  | readPast _ | skipPast _ | storePast _ | slotPast _ => rfl
  | taken _ | skipped _ | stored _ | shown _ | opened _ | rewound | reset | discarded _ _ =>
    cases herror

/-- Where the cursor is in its bounds, no sum is too large and no slice is missing. -/
theorem Does.checked {op : Op} {result : op.Answer × Incoming} (h : inc.Does op result)
    (hsound : inc.Sound) : inc.perform? op = some result := by
  have hlimit : inc.limit < UInt64.size := Nat.lt_of_le_of_lt hsound.limit_le hsound.word
  cases h with
  | taken hinside =>
    simp only [perform?, stopWithin_inside hlimit hinside,
      Region.slice?_eq (Nat.le_add_right _ _) (Nat.le_trans hinside hsound.limit_le),
      Option.map_some]
  | readPast hpast | skipPast hpast => simp only [perform?, stopWithin_past hpast]
  | skipped hinside => simp only [perform?, stopWithin_inside hlimit hinside]
  | stored hinside =>
    simp only [perform?, stopWithin_inside hsound.word hinside, Region.overwrite?_eq rfl hinside,
      Option.map_some, store]
  | storePast hpast | slotPast hpast => simp only [perform?, stopWithin_past hpast]
  | shown hinside =>
    simp only [perform?, stopWithin_inside hsound.word hinside,
      Region.slice?_eq (Nat.le_add_right _ _) hinside, Option.map_some]
  | opened size =>
    have hword := hsound.word
    have hstop : min (min (headerSize + size) (UInt64.size - 1)) inc.capacity =
        min (headerSize + size) inc.capacity := by omega
    simp only [perform?, hstop, openPayload]
  | rewound | reset => rfl
  | discarded count filled =>
    have hfilled : min filled inc.capacity ≤ inc.region.size := Nat.min_le_right _ _
    have hcount : min count (min filled inc.capacity) ≤ min filled inc.capacity :=
      Nat.min_le_right _ _
    have hkept : (inc.region.slice (min count (min filled inc.capacity))
        (min filled inc.capacity)).length ≤ inc.region.size := by
      rw [Region.length_slice]
      omega
    simp only [perform?, Region.slice?_eq hcount hfilled, Option.bind_some,
      Region.overwrite?_eq (Nat.zero_add _) hkept, Option.map_some, discardFront, store]

structure Kept (size : Nat) (inc : Incoming) : Prop where
  capacity : inc.capacity = size
  cursor_ge : headerSize ≤ inc.cursor
  cursor_le : inc.cursor ≤ inc.limit
  limit_le : inc.limit ≤ size
  payload : inc.region.slice? headerSize inc.limit = some inc.payload
  unread : inc.region.slice? inc.cursor inc.limit = some inc.unread
  /-- What lies inside the payload is read, and what fits into the region is stored. -/
  outcome (op : Op) : inc.Does op (inc.perform op)
  /-- No sum is too large and no slice is missing. -/
  inside (op : Op) : inc.perform? op = some (inc.perform op)
  refused (op : Op) (error : FrameError) :
    op.refusal? (inc.perform op).1 = some error → (inc.perform op).2 = inc

theorem Sound.kept (h : inc.Sound) : inc.Kept inc.capacity where
  capacity := rfl
  cursor_ge := h.cursor_ge
  cursor_le := h.cursor_le
  limit_le := h.limit_le
  payload := Region.slice?_eq (Nat.le_trans h.cursor_ge h.cursor_le) h.limit_le
  unread := Region.slice?_eq h.cursor_le h.limit_le
  outcome := does_perform inc
  inside op := (does_perform inc op).checked h
  refused op _ herror := (does_perform inc op).refused herror

def after (ops : List Op) (inc : Incoming) : Incoming :=
  ops.foldl (fun inc op ↦ (inc.perform op).2) inc

/-- Every run of operations leaves the cursor in the open payload, and the region its size. -/
theorem Sound.after (h : inc.Sound) (ops : List Op) :
    (inc.after ops).Sound ∧ (inc.after ops).capacity = inc.capacity := by
  induction ops generalizing inc with
  | nil => exact ⟨h, rfl⟩
  | cons op ops ih =>
    have hdoes : inc.Does op (inc.perform op) := does_perform inc op
    obtain ⟨hsound, hcapacity⟩ := ih (hdoes.sound h)
    exact ⟨hsound, hcapacity.trans hdoes.capacity⟩

end Incoming

/-- Whatever is asked of an outgoing or an incoming region of any capacity, its cursor stays in its
bounds, so that every slice lies inside the region; what is refused changes nothing, and what is
written or sealed changes its own octets. -/
theorem cursors_kept (size : UInt64) :
    (∀ ops, ((Outgoing.ofCapacity size.toNat).after ops).Kept (max size.toNat frameOverhead)) ∧
      ∀ ops, ((Incoming.ofCapacity size.toNat).after ops).Kept (max size.toNat frameOverhead) := by
  have hword : size.toNat < UInt64.size := size.toNat_lt_size
  constructor
  case left =>
    intro ops
    obtain ⟨hsound, hcapacity⟩ := (Outgoing.sound_ofCapacity hword).after ops
    have hsize : (Outgoing.ofCapacity size.toNat).capacity = max size.toNat frameOverhead :=
      Array.size_replicate
    exact hsize ▸ hcapacity ▸ hsound.kept
  case right =>
    intro ops
    obtain ⟨hsound, hcapacity⟩ := (Incoming.sound_ofCapacity hword).after ops
    have hsize : (Incoming.ofCapacity size.toNat).capacity = max size.toNat frameOverhead :=
      Array.size_replicate
    exact hsize ▸ hcapacity ▸ hsound.kept

/-- One octet is left in a region of fourteen, and a field of two is refused. -/
example : ((Outgoing.ofCapacity 14).after [.write (.uint16 1), .write (.uint8 2)]).perform
      (.write (.uint16 3)) =
    (.error (.overflow 11 2 12), ⟨#[0, 0, 0, 0, 0, 0, 0, 0, 1, 0, 2, 0, 0, 0], 11⟩) := by
  rfl

/-- A sum that no machine word can hold is refused like any other that is too large. -/
example : (Outgoing.ofCapacity 14).perform? (.skip (UInt64.size - 1)) =
    some (.error (.overflow 8 (UInt64.size - 1) 12), .ofCapacity 14) := by
  cbv

end FramedLink
