import FramedLink.Proofs.Handling.Reading

/-!
# Connect messages as octets and as fields

A connect message can be written as octets or field by field at the cursor of a region, and read in
either way. Both ways of writing give the same eight octets (`ConnectMessage.write_of_fits`), each
way of reading undoes them (`ConnectMessage.decode?_encode`), and a payload is read alike in both:
from eight octets on, and the message is in the first eight (`Incoming.Shows.read_message`,
`ConnectMessage.encode_of_decode?`).
-/

namespace FramedLink

namespace ConnectMessage

open LittleEndian

/-- The message in a payload is in its first eight octets. -/
theorem decode?_eq (payload : Bytes) :
    decode? payload = if size ≤ payload.length then
      some ⟨UInt32.ofNat (value (payload.take 4)), UInt16.ofNat (value ((payload.drop 4).take 2)),
        UInt16.ofNat (value ((payload.drop 6).take 2))⟩ else none := by
  unfold decode?
  split
  case h_1 => rfl
  case h_2 hshort =>
    rw [if_neg]
    intro hlong
    match payload, hlong with
    | a :: b :: c :: d :: e :: f :: g :: h :: rest, _ => exact hshort _ _ _ _ _ _ _ _ _ rfl

theorem decode?_encode (message : ConnectMessage) : decode? message.encode = some message := by
  have hlong : size ≤ message.encode.length := Nat.le_of_eq message.length_encode.symm
  calc
    decode? message.encode =
        some { connId := UInt32.ofNat (value (message.encode.take 4))
               limit := UInt16.ofNat (value ((message.encode.drop 4).take 2))
               connType := UInt16.ofNat (value ((message.encode.drop 6).take 2)) } := by
      rw [decode?_eq, if_pos hlong]
    _ = some { connId := UInt32.ofNat (value (digits 4 message.connId.toNat))
               limit := UInt16.ofNat (value (digits 2 message.limit.toNat))
               connType := UInt16.ofNat (value (digits 2 message.connType.toNat)) } := rfl
    _ = some message := by
      rw [ofNat_value_digits_toNat, uint16_value_digits, uint16_value_digits]

/-- The octets from which a message is read are its octets. -/
theorem encode_of_decode? {payload : Bytes} {message : ConnectMessage}
    (h : decode? payload = some message) : message.encode = payload.take size := by
  unfold decode? at h
  split at h
  case h_1 a b c d e f g h' rest =>
    cases h
    have hfirst : digits 4 (UInt32.ofNat (value [a, b, c, d])).toNat = [a, b, c, d] := by
      rw [UInt32.toNat_ofNat_of_lt' (value_lt [a, b, c, d])]
      exact digits_value [a, b, c, d]
    rw [encode, hfirst, digits_word16, digits_word16]
    rfl
  case h_2 => cases h

/-- What is behind the eighth octet is ignored. -/
theorem decode?_take (payload : Bytes) : decode? (payload.take size) = decode? payload := by
  cases h : decode? payload with
  | some message => rw [← encode_of_decode? h, decode?_encode]
  | none =>
    rw [decode?_eq] at h ⊢
    by_cases hlong : size ≤ payload.length
    · rw [if_pos hlong] at h
      cases h
    · rw [if_neg]
      rw [List.length_take]
      omega

end ConnectMessage

namespace Incoming

variable {inc : Incoming} {payload : Bytes}

/-- A payload that is long enough holds a message; it is read, and nothing behind it. -/
theorem Shows.read_message (h : inc.Shows payload 0)
    (hlong : ConnectMessage.size ≤ payload.length) :
    ∃ message, ConnectMessage.decode? payload = some message ∧
      ConnectMessage.read inc =
        (.ok message, { inc with cursor := headerSize + ConnectMessage.size }) := by
  have hsize : ConnectMessage.size = 8 := rfl
  have hfirst := h.take_inside (show 0 + 4 ≤ payload.length by omega)
  have hmoved := h.moved (show 0 + 4 ≤ payload.length by omega)
  have hsecond := hmoved.take_inside (show 0 + 4 + 2 ≤ payload.length by omega)
  have hlast := (hmoved.moved (show 0 + 4 + 2 ≤ payload.length by omega)).take_inside
    (show 0 + 4 + 2 + 2 ≤ payload.length by omega)
  refine ⟨_, (ConnectMessage.decode?_eq payload).trans (if_pos hlong), ?_⟩
  simp only [ConnectMessage.read, hfirst, hsecond, hlast]
  rfl

/-- A payload that is too short holds none, and reading it fails. -/
theorem Shows.exists_error (h : inc.Shows payload 0)
    (hshort : payload.length < ConnectMessage.size) :
    ∃ error, (ConnectMessage.read inc).1 = .error error := by
  have hsize : ConnectMessage.size = 8 := rfl
  rw [ConnectMessage.read]
  rcases Nat.lt_or_ge payload.length (0 + 4) with hpast | hfirst
  · rw [h.take_past hpast]
    exact ⟨_, rfl⟩
  have hmoved := h.moved hfirst
  rw [h.take_inside hfirst]
  dsimp only
  rcases Nat.lt_or_ge payload.length (0 + 4 + 2) with hpast | hsecond
  · rw [hmoved.take_past hpast]
    exact ⟨_, rfl⟩
  have hlast := hmoved.moved hsecond
  rw [hmoved.take_inside hsecond]
  dsimp only at hlast ⊢
  rw [hlast.take_past (by omega)]
  exact ⟨_, rfl⟩

/-- A payload that is long enough holds a message, and that is what is read. -/
theorem Shows.exists_message (h : inc.Shows payload 0)
    (hlong : ConnectMessage.size ≤ payload.length) :
    ∃ message, ConnectMessage.decode? payload = some message ∧
      (ConnectMessage.read inc).1 = .ok message := by
  obtain ⟨message, hmessage, hread⟩ := h.read_message hlong
  exact ⟨message, hmessage, by rw [hread]⟩

theorem Shows.message (h : inc.Shows payload 0) :
    (ConnectMessage.read inc).1.toOption = ConnectMessage.decode? payload := by
  rcases Nat.lt_or_ge payload.length ConnectMessage.size with hshort | hlong
  · obtain ⟨error, herror⟩ := h.exists_error hshort
    rw [herror, ConnectMessage.decode?_eq, if_neg (Nat.not_le_of_lt hshort)]
    rfl
  · obtain ⟨message, hmessage, hread⟩ := h.exists_message hlong
    rw [hread, hmessage]
    rfl

/-- A region that holds a payload where payloads are opened. -/
structure Holds (payload : Bytes) (inc : Incoming) : Prop where
  fits : headerSize + payload.length ≤ inc.capacity
  octets_eq : inc.region.slice headerSize (headerSize + payload.length) = payload

theorem holds_store (h : headerSize + payload.length ≤ inc.capacity) :
    (inc.store headerSize payload).Holds payload where
  fits := by
    rw [capacity, store, Region.size_overwrite]
    exact h
  octets_eq := Region.slice_overwrite_self h

theorem Holds.shows (h : inc.Holds payload) :
    (inc.openPayload payload.length).Shows payload 0 := by
  have hlimit : min (headerSize + payload.length) inc.capacity = headerSize + payload.length :=
    Nat.min_eq_left h.fits
  constructor
  case payload_eq =>
    rw [Incoming.payload, openPayload, hlimit]
    exact h.octets_eq
  case limit => exact hlimit
  case cursor => rfl
  case position_le => exact Nat.zero_le _

theorem Shows.unread_eq {position : Nat} (h : inc.Shows payload position) :
    inc.unread = payload.drop position := by
  have hbehind : (inc.region.slice headerSize inc.limit).drop (headerSize + position - headerSize) =
      inc.region.slice (headerSize + position) inc.limit :=
    Region.slice_suffix inc.region (Nat.le_add_right headerSize position)
  rw [Nat.add_sub_cancel_left] at hbehind
  rw [unread, h.cursor, ← hbehind]
  exact congrArg (List.drop position) h.payload_eq

end Incoming

namespace ConnectMessage

/-- A message is read in the same steps as the fields that it consists of. -/
theorem readAll_layout (inc : Incoming) :
    inc.readAll layout = ((read inc).1.map fields, (read inc).2) := by
  unfold layout read
  rw [Incoming.readAll, Incoming.read, FieldType.size]
  rcases inc.take 4 with _ | ⟨connId, inc⟩
  · rfl
  simp only [Except.map]
  rw [Incoming.readAll, Incoming.read, FieldType.size]
  rcases inc.take 2 with _ | ⟨limit, inc⟩
  · rfl
  simp only [Except.map]
  rw [Incoming.readAll, Incoming.read, FieldType.size]
  rcases inc.take 2 with _ | ⟨connType, inc⟩
  · rfl
  rfl

/-- A payload that is open from its start is read alike through the cursor, as a message and as
fields, and as octets: either there is a message in its first eight octets, and what is behind them
is left alone, or it is too short. -/
structure ReadAlike (payload : Bytes) (opened : Incoming) : Prop where
  long (h : size ≤ payload.length) : ∃ message last, read opened = (.ok message, last) ∧
    decode? payload = some message ∧ message.encode = payload.take size ∧
    last.unread = payload.drop size
  short (h : payload.length < size) : (∃ error last, read opened = (.error error, last)) ∧
    decode? payload = none
  ignored (other : Bytes) (h : other.take size = payload.take size) :
    decode? other = decode? payload
  fields_eq : opened.readAll layout = ((read opened).1.map fields, (read opened).2)

theorem readAlike_of_shows {opened : Incoming} {payload : Bytes} (h : opened.Shows payload 0) :
    ReadAlike payload opened where
  long hlong := by
    obtain ⟨message, hmessage, hread⟩ := h.read_message hlong
    refine ⟨message, _, hread, hmessage, encode_of_decode? hmessage, ?_⟩
    exact (h.moved hlong).unread_eq
  short hshort := by
    obtain ⟨error, herror⟩ := h.exists_error hshort
    refine ⟨⟨error, _, Prod.ext herror rfl⟩, ?_⟩
    rw [decode?_eq, if_neg (Nat.not_le_of_lt hshort)]
  ignored other hother := by rw [← decode?_take other, hother, decode?_take]
  fields_eq := readAll_layout opened

/-- The two ways of writing a connect message and the two of reading one agree: fields written into
a region with room for them are the octets of the message, from which it is read back; and whatever
payload a region holds, it is read alike once it is opened. -/
theorem codecs_agree :
    (∀ (message : ConnectMessage) (out : Outgoing), size ≤ out.payloadCapacity →
      ∃ written, message.write out.reset = (.ok (), written) ∧
        written.payload = message.encode) ∧
    (∀ message : ConnectMessage, decode? message.encode = some message) ∧
    (∀ (inc : Incoming) (payload : Bytes), headerSize + payload.length ≤ inc.capacity →
      (inc.store headerSize payload).Holds payload) ∧
    ∀ (inc : Incoming) (payload : Bytes), inc.Holds payload →
      ReadAlike payload (inc.openPayload payload.length) := by
  refine ⟨fun message out hroom ↦ ?_, decode?_encode, fun inc payload ↦ Incoming.holds_store,
    fun inc payload hholds ↦ readAlike_of_shows hholds.shows⟩
  have hfits : out.reset.cursor + size ≤ out.reset.limit := by
    unfold Outgoing.payloadCapacity frameOverhead size at hroom
    unfold Outgoing.reset Outgoing.limit size
    dsimp only
    omega
  obtain ⟨region, hwrite, -, hslice⟩ := message.write_of_fits hfits
  exact ⟨_, hwrite, hslice⟩

/-- The smallest region that a message can be written into, and one that holds a message with two
octets behind it. -/
theorem codecs_agree_ten :
    let message : ConnectMessage := ⟨0x04030201, 0x0605, 0x0807⟩
    let payload : Bytes := [1, 2, 3, 4, 5, 6, 7, 8, 9, 10]
    (∃ written, message.write (Outgoing.ofCapacity 18).reset = (.ok (), written) ∧
      written.payload = [1, 2, 3, 4, 5, 6, 7, 8]) ∧
    ∃ last, read (((Incoming.ofCapacity 20).store headerSize payload).openPayload 10) =
        (.ok message, last) ∧ last.unread = [9, 10] := by
  intro message payload
  obtain ⟨hwrite, -, hstore, hread⟩ := codecs_agree
  have hencode : message.encode = [1, 2, 3, 4, 5, 6, 7, 8] := by decide
  refine ⟨hencode ▸ hwrite message (.ofCapacity 18) (by decide), ?_⟩
  obtain ⟨found, last, hlast, hfound, -, hunread⟩ :=
    (hread _ payload (hstore (Incoming.ofCapacity 20) payload (by decide))).long (by decide)
  obtain rfl : message = found := Option.some_inj.mp hfound
  exact ⟨last, hlast, hunread⟩

end ConnectMessage

end FramedLink
