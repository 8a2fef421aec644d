import FramedLink.Proofs.Handling.Reading

/-!
# Payloads of fields

Fields that are written into an outgoing region come out of an incoming one as they were put in: a
field is read back from its octets by its own type, fields lie in the payload one behind the other,
and the readers pass over it in the same steps. What does not fit is refused and changes nothing.
-/

namespace FramedLink

namespace Field

open LittleEndian

/-- Whether a field has octets: all have, but for characters beyond code point 255. -/
def Writable : Field → Prop
  | .char value => value.toNat < 256
  | _ => True

/-- The octets of a field that has some. -/
def octets (field : Field) : Bytes :=
  match field.encode with
  | .ok octets => octets
  | .error _ => []

def totalSize : List Field → Nat
  | [] => 0
  | field :: rest => field.type.size + totalSize rest

theorem encode_of_writable {field : Field} (h : field.Writable) :
    field.encode = .ok field.octets := by
  cases field with
  | char value => simp only [octets, encode, if_pos (show value.toNat < 256 from h)]
  | _ => rfl

theorem encode_of_not_writable (value : Char) (h : ¬ (Field.char value).Writable) :
    (Field.char value).encode = .error (.wideCharacter value) :=
  if_neg h

theorem length_octets {field : Field} (h : field.Writable) :
    field.octets.length = field.type.size :=
  length_of_encode (encode_of_writable h)

theorem length_flatMap_octets {fields : List Field} (h : ∀ field ∈ fields, field.Writable) :
    (fields.flatMap octets).length = totalSize fields := by
  induction fields with
  | nil => rfl
  | cons field rest ih =>
    obtain ⟨hfield, hrest⟩ := List.forall_mem_cons.mp h
    calc
      ((field :: rest).flatMap octets).length =
          field.octets.length + (rest.flatMap octets).length := by
        rw [List.flatMap_cons, List.length_append]
      _ = field.type.size + totalSize rest := by rw [length_octets hfield, ih hrest]
      _ = totalSize (field :: rest) := by rw [totalSize]

theorem decode_octets {field : Field} (h : field.Writable) :
    field.type.decode field.octets = field := by
  cases field with
  | int8 v => exact congrArg (int8 ·.toInt8) (uint8_value_digits v.toUInt8)
  | uint8 v => exact congrArg uint8 (uint8_value_digits v)
  | int16 v => exact congrArg (int16 ·.toInt16) (uint16_value_digits v.toUInt16)
  | uint16 v => exact congrArg uint16 (uint16_value_digits v)
  | int32 v => exact congrArg (int32 ·.toInt32) (ofNat_value_digits_toNat v.toUInt32)
  | uint32 v => exact congrArg uint32 (ofNat_value_digits_toNat v)
  | bool v => cases v <;> rfl
  | char v =>
    have hv : v.toNat < span 1 := h
    have hvalue : Char.ofNat (value (digits 1 v.toNat)) = v := by
      rw [value_digits hv, Char.ofNat_toNat]
    have hoctets : (char v).octets = digits 1 v.toNat := by
      simp only [octets, encode, if_pos (show v.toNat < 256 from h)]
    rw [hoctets]
    exact congrArg char hvalue
  | bytes v => rfl

end Field

namespace Outgoing

variable {out : Outgoing} {fields : List Field}

theorem writeAll_of_writable (hfields : ∀ field ∈ fields, field.Writable)
    (h : out.cursor + Field.totalSize fields ≤ out.limit) :
    ∃ region, out.writeAll fields = (.ok (), ⟨region, out.cursor + Field.totalSize fields⟩) ∧
      region.size = out.region.size ∧
      ∀ start ≤ out.cursor, region.slice start (out.cursor + Field.totalSize fields) =
        out.region.slice start out.cursor ++ fields.flatMap Field.octets := by
  have hencode : fields.map Field.encode = (fields.map Field.octets).map .ok := by
    rw [List.map_map]
    exact List.map_congr_left fun field hmem ↦ Field.encode_of_writable (hfields field hmem)
  have hlength : (fields.map Field.octets).flatten.length = Field.totalSize fields :=
    Field.length_flatMap_octets hfields
  have hwrite := @writeAll_of_fits out fields (fields.map Field.octets) hencode
  rw [hlength] at hwrite
  exact hwrite h

/-- A field whose octets do not fit is refused. -/
theorem write_of_past {field : Field} (hfield : field.Writable)
    (h : out.limit < out.cursor + field.type.size) :
    out.write field = .error (.overflow out.cursor field.type.size out.limit) := by
  have hfull : out.advance field.type.size =
      .error (.overflow out.cursor field.type.size out.limit) := if_neg (Nat.not_le_of_lt h)
  calc
    out.write field = out.writeBytes field.octets := by
      rw [write, Field.encode_of_writable hfield, Except.bind]
    _ = .error (.overflow out.cursor field.type.size out.limit) := by
      rw [writeBytes, Field.length_octets hfield, hfull]
      rfl

/-- Writing fields and others behind them is writing all of them. -/
theorem writeAll_append {written : Outgoing} (h : out.writeAll fields = (.ok (), written))
    (more : List Field) : out.writeAll (fields ++ more) = written.writeAll more := by
  induction fields generalizing out with
  | nil =>
    cases h
    rfl
  | cons field rest ih =>
    rw [List.cons_append, writeAll]
    rw [writeAll] at h
    cases hfield : out.write field with
    | ok next =>
      rw [hfield] at h
      exact ih h
    | error e =>
      rw [hfield] at h
      cases h

end Outgoing

/-- What was written at the front of a region is read back piece by piece. -/
theorem Region.slice_overwrite_inside {region : Region} {before middle behind : Bytes}
    (h : (before ++ (middle ++ behind)).length ≤ region.size) :
    (region.overwrite 0 (before ++ (middle ++ behind))).slice before.length
      (before.length + middle.length) = middle := by
  let tail := region.toList.drop (0 + (before ++ (middle ++ behind)).length)
  calc
    (region.overwrite 0 (before ++ (middle ++ behind))).slice before.length
        (before.length + middle.length) =
        ((before ++ (middle ++ behind) ++ tail).take (before.length + middle.length)).drop
          before.length := by
      rw [slice_eq, toList_overwrite (by omega), List.take_zero, List.nil_append]
    _ = (before ++ (middle ++ behind ++ tail).take middle.length).drop before.length := by
      rw [List.append_assoc, List.take_length_add_append]
    _ = (middle ++ behind ++ tail).take middle.length := List.drop_left
    _ = middle := by rw [List.append_assoc, List.take_left]

namespace Incoming

variable {inc : Incoming} {passed : Bytes} {fields : List Field}

/-- A frame that is stored at the front of a region, and its payload opened, shows the payload to
readers. -/
theorem shows_openPayload (frame : Frame) (mode : Integrity)
    (h : (frame.wire mode).length ≤ inc.capacity) :
    ((inc.store 0 (frame.wire mode)).openPayload frame.payload.length).Shows frame.payload 0 := by
  have hlimit : min (headerSize + frame.payload.length) (inc.store 0 (frame.wire mode)).capacity =
      headerSize + frame.payload.length := by
    rw [capacity, store, Region.size_overwrite, Nat.min_eq_left]
    have hlength := Frame.length_wire mode frame
    unfold frameOverhead at hlength
    unfold capacity at h
    omega
  have hslice : (inc.region.overwrite 0 (frame.wire mode)).slice headerSize
      (headerSize + frame.payload.length) = frame.payload := by
    rw [Frame.wire, Frame.body, List.append_assoc] at h ⊢
    have hinside := Region.slice_overwrite_inside h
    rwa [Header.length_encode] at hinside
  constructor
  case payload_eq =>
    rw [payload, openPayload, hlimit, store]
    dsimp only
    exact hslice
  case limit => exact hlimit
  case cursor => rfl
  case position_le => exact Nat.zero_le _

/-- Fields are read one behind the other as they lie in the payload. -/
theorem Shows.readAll (h : inc.Shows (passed ++ fields.flatMap Field.octets) passed.length)
    (hfields : ∀ field ∈ fields, field.Writable) :
    ∃ last, inc.readAll (fields.map Field.type) = (.ok fields, last) ∧
      last.Shows (passed ++ fields.flatMap Field.octets)
        (passed ++ fields.flatMap Field.octets).length := by
  induction fields generalizing inc passed with
  | nil =>
    rw [List.flatMap_nil, List.append_nil] at h ⊢
    exact ⟨inc, rfl, h⟩
  | cons field rest ih =>
    have hwritable := hfields field List.mem_cons_self
    have hsize := Field.length_octets hwritable
    rw [List.flatMap_cons, ← List.append_assoc] at h ⊢
    have hinside : passed.length + field.type.size ≤
        (passed ++ field.octets ++ rest.flatMap Field.octets).length := by
      rw [List.length_append, List.length_append, hsize]
      omega
    have htaken : ((passed ++ field.octets ++ rest.flatMap Field.octets).drop passed.length).take
        field.type.size = field.octets := by
      rw [List.append_assoc, List.drop_left, ← hsize, List.take_left]
    have hread := h.take_inside hinside
    rw [htaken] at hread
    have hnext := h.moved hinside
    rw [← hsize, ← List.length_append] at hnext
    obtain ⟨last, hlast, hshows⟩ := ih hnext fun other hmem ↦
      hfields other (List.mem_cons_of_mem _ hmem)
    refine ⟨last, ?_, hshows⟩
    rw [← hsize] at hread
    rw [List.map_cons, Incoming.readAll, Incoming.read, ← hsize, hread, ← List.length_append]
    simp only [Except.map, hlast, Field.decode_octets hwritable]

/-- A region of which nothing is left to read: whatever would take an octet is refused, and the
cursor stays. -/
structure Exhausted (inc : Incoming) : Prop where
  remaining : inc.remaining = 0
  read (type : FieldType) (h : 0 < type.size) :
    inc.perform (.read type) = (.error (.underflow inc.cursor type.size inc.limit), inc)
  skip (count : Nat) (h : 0 < count) :
    inc.perform (.skip count) = (.error (.underflow inc.cursor count inc.limit), inc)

theorem exhausted_of_cursor_eq (h : inc.cursor = inc.limit) : inc.Exhausted := by
  have hadvance (needed : Nat) (hneeded : 0 < needed) :
      inc.advance needed = .error (.underflow inc.cursor needed inc.limit) := by
    rw [advance, if_neg (by omega)]
  constructor
  case remaining => rw [Incoming.remaining, h, Nat.sub_self]
  case read =>
    intro type htype
    simp only [perform, Incoming.read, take, hadvance _ htype, Except.map]
  case skip =>
    intro count hcount
    simp only [perform, Incoming.skip, hadvance _ hcount, Except.map]

/-- A region gives fields back: a frame is stored at its front, a payload of a size is opened, and
reads of the types of the fields answer the fields, until nothing is left. -/
structure GivesBack (inc : Incoming) (frame : Bytes) (size : Nat) (fields : List Field) : Prop where
  stored : inc.perform (.store 0 frame) = (.ok (), inc.store 0 frame)
  readBack : ∃ last, ((inc.store 0 frame).openPayload size).readAll (fields.map Field.type) =
    (.ok fields, last) ∧ last.Exhausted

theorem givesBack (frame : Frame) (mode : Integrity) (h : (frame.wire mode).length ≤ inc.capacity)
    (hfields : ∀ field ∈ fields, field.Writable)
    (hpayload : frame.payload = fields.flatMap Field.octets) :
    inc.GivesBack (frame.wire mode) frame.payload.length fields := by
  have hshows := shows_openPayload frame mode h
  constructor
  case stored =>
    have hslot : inc.checkSlot 0 (frame.wire mode).length = .ok () := by
      rw [checkSlot, if_pos (by omega)]
    simp only [perform, hslot]
  case readBack =>
    generalize (inc.store 0 (frame.wire mode)).openPayload frame.payload.length = opened at hshows ⊢
    rw [hpayload] at hshows
    obtain ⟨last, hread, hlast⟩ := @Shows.readAll opened [] fields hshows hfields
    refine ⟨last, hread, exhausted_of_cursor_eq ?_⟩
    rw [hlast.cursor, hlast.limit]

end Incoming

/-- Fields that take more octets than there is room for: those in front fit, and then one does
not. -/
theorem Field.exists_first_past {fields : List Field} {room : Nat} (h : room < totalSize fields) :
    ∃ before field behind, fields = before ++ field :: behind ∧ totalSize before ≤ room ∧
      room < totalSize before + field.type.size := by
  induction fields generalizing room with
  | nil => exact absurd h (Nat.not_lt_zero _)
  | cons first rest ih =>
    have hsum : totalSize (first :: rest) = first.type.size + totalSize rest := rfl
    rcases Nat.lt_or_ge room first.type.size with hpast | hfits
    · exact ⟨[], first, rest, rfl, Nat.zero_le _, (Nat.zero_add _).symm ▸ hpast⟩
    · obtain ⟨before, field, behind, rfl, hbefore, hfield⟩ :=
        @ih (room - first.type.size) (by omega)
      have hsum : totalSize (first :: before) = first.type.size + totalSize before := rfl
      exact ⟨first :: before, field, behind, rfl, by omega, by omega⟩

namespace Outgoing

variable {out : Outgoing} {fields : List Field}

/-- What a region does with fields, from a reset on. -/
structure CarriesFields (out : Outgoing) : Prop where
  /-- Fields for which there is room are all written, and the frame built of them gives them back
  from every region that it fits into. -/
  whole (fields : List Field) (hfields : ∀ field ∈ fields, field.Writable)
      (hroom : Field.totalSize fields ≤ out.payloadCapacity)
      (hmax : Field.totalSize fields ≤ maxPayload) :
    ∃ written, out.reset.writeAll fields = (.ok (), written) ∧
      written.payload = fields.flatMap Field.octets ∧
      ∀ type id mode, ∃ frame sealed,
        written.sealFrame type id written.payloadSize mode = .ok (frame, sealed) ∧
          ∀ inc : Incoming, frame.length ≤ inc.capacity →
            inc.GivesBack frame written.payloadSize fields
  /-- Otherwise the first field that does not fit is refused, and nothing behind it is written. -/
  cut (fields : List Field) (hfields : ∀ field ∈ fields, field.Writable)
      (hroom : out.payloadCapacity < Field.totalSize fields) :
    ∃ before field behind written, fields = before ++ field :: behind ∧
      out.reset.writeAll before = (.ok (), written) ∧
      written.payload = before.flatMap Field.octets ∧
      written.perform (.write field) =
        (.error (.overflow written.cursor field.type.size written.limit), written) ∧
      out.reset.writeAll fields =
        (.error (.overflow written.cursor field.type.size written.limit), written)
  /-- A character without an octet of its own is refused, whatever room there is. -/
  wide (value : Char) (hvalue : 255 < value.toNat) :
    out.perform (.write (.char value)) = (.error (.wideCharacter value), out)

/-- Writable fields for which there is room are written into a region that was reset. -/
theorem writeAll_reset (hout : frameOverhead ≤ out.region.size)
    (hfields : ∀ field ∈ fields, field.Writable)
    (hroom : Field.totalSize fields ≤ out.payloadCapacity) :
    ∃ region, out.reset.writeAll fields = (.ok (), ⟨region, headerSize + Field.totalSize fields⟩) ∧
      region.size = out.region.size ∧
      region.slice headerSize (headerSize + Field.totalSize fields) =
        fields.flatMap Field.octets := by
  have hfits : out.reset.cursor + Field.totalSize fields ≤ out.reset.limit := by
    unfold payloadCapacity at hroom
    unfold reset limit
    unfold frameOverhead at hout hroom
    dsimp only
    omega
  obtain ⟨region, hwrite, hsize, hslice⟩ := writeAll_of_writable hfields hfits
  refine ⟨region, hwrite, hsize, (hslice headerSize (Nat.le_refl _)).trans ?_⟩
  have hempty : out.reset.region.slice headerSize out.reset.cursor = [] := by
    rw [← List.length_eq_zero_iff, Region.length_slice]
    exact Nat.sub_eq_zero_of_le (Nat.min_le_left _ _)
  rw [hempty, List.nil_append]

/-- Fields written into a region come out of another as they were put in. Those for which there is
room are all written, the frame built of them is stored and opened elsewhere, and mirrored reads
answer the same fields, to the last octet; the first field for which there is no room is refused,
and the payload stays that of the fields before it; and so is a character without an octet. -/
theorem fields_read_back (out : Outgoing) (hout : frameOverhead ≤ out.region.size) :
    out.CarriesFields where
  whole fields hfields hroom hmax := by
    obtain ⟨region, hwrite, hsize, hslice⟩ := writeAll_reset hout hfields hroom
    let written : Outgoing := ⟨region, headerSize + Field.totalSize fields⟩
    have hcount : written.payloadSize = Field.totalSize fields := Nat.add_sub_cancel_left _ _
    have hcapacity : written.payloadCapacity = out.payloadCapacity := by
      rw [payloadCapacity, payloadCapacity, hsize]
    refine ⟨written, hwrite, hslice, fun type id mode ↦ ?_⟩
    rw [hcount]
    obtain ⟨frame, sealed, hsealed⟩ := exists_sealFrame hmax (hcapacity ▸ hroom) type id mode
    refine ⟨frame, sealed, hsealed, fun inc hinc ↦ ?_⟩
    obtain ⟨-, hlength, -, rfl⟩ := sealFrame_ok (hsize ▸ hout) hsealed
    have hback := Incoming.givesBack _ mode hinc hfields hslice
    rwa [hlength] at hback
  cut fields hfields hroom := by
    obtain ⟨before, field, behind, rfl, hbefore, hfield⟩ := Field.exists_first_past hroom
    obtain ⟨region, hwrite, hsize, hslice⟩ :=
      writeAll_reset hout (fun f hmem ↦ hfields f (List.mem_append_left _ hmem)) hbefore
    have hwritable := hfields field (List.mem_append_right _ List.mem_cons_self)
    let written : Outgoing := ⟨region, headerSize + Field.totalSize before⟩
    have hpast : written.limit < written.cursor + field.type.size := by
      unfold payloadCapacity frameOverhead at hfield
      unfold limit
      dsimp only [written]
      omega
    have hrefused := write_of_past hwritable hpast
    refine ⟨before, field, behind, written, rfl, hwrite, hslice, ?_, ?_⟩
    · simp only [perform, hrefused]
    · rw [writeAll_append hwrite, writeAll, hrefused]
  wide value hvalue := by
    have hencode := Field.encode_of_not_writable value (Nat.not_lt.mpr hvalue)
    simp only [perform, write, hencode, Except.bind]

/-- A region of sixteen octets has room for six of payload. -/
theorem fields_read_back_sixteen :
    let out := ofCapacity 16
    out.CarriesFields ∧
      (out.writeAll [.int8 (-2), .char 'é', .uint16 4660, .bool true]).1 = .ok () ∧
      (out.writeAll [.int32 (-1), .bytes [1, 2, 3]]).1 = .error (.overflow 12 3 14) ∧
      (out.writeAll [.char '€']).1 = .error (.wideCharacter '€') :=
  ⟨fields_read_back _ (by decide), rfl, rfl, rfl⟩

end Outgoing

end FramedLink
