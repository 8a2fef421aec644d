import Mathlib.Data.List.Basic
import FramedLink.Proofs.Reception.Decoding

/-!
# Encoding and decoding

Frames that are appended to a buffer are taken out of it again, whatever stood in the buffer before
them and whatever comes behind them (`Frame.takeFrom_appendTo`).

Decoding ends in one of six ways (`Decoding`), each under a condition of its own. Two of them wait
for more octets. What the others decide does not depend on what follows in the buffer, so a decoder
that is given more octets decides the same (`Decoding.append`).
-/

namespace FramedLink

/-- What a frame is made for: a payload, its type and its id. -/
structure Message where
  type : UInt8
  id : UInt8
  payload : Bytes
  deriving DecidableEq, Repr

def Message.frame (message : Message) : Frame :=
  ⟨.plain message.type message.id (UInt16.ofNat message.payload.length), message.payload⟩

namespace Header

/-- Header and payload of a frame at the front of a buffer. -/
def bodyIn (header : Header) (buffer : Bytes) : Bytes :=
  buffer.take (headerSize + header.payloadSize)

def trailerIn (header : Header) (buffer : Bytes) : UInt16 :=
  UInt16.ofNat
    (LittleEndian.value ((buffer.drop (headerSize + header.payloadSize)).take trailerSize))

def payloadIn (header : Header) (buffer : Bytes) : Bytes :=
  (buffer.drop headerSize).take header.payloadSize

variable {header : Header} {buffer : Bytes}

theorem frameSize_eq (header : Header) :
    header.frameSize = headerSize + header.payloadSize + trailerSize := by
  unfold frameSize frameOverhead
  omega

/-- Only its own octets matter to a frame. -/
theorem parts_append (h : header.frameSize ≤ buffer.length) (more : Bytes) :
    header.bodyIn (buffer ++ more) = header.bodyIn buffer ∧
      header.trailerIn (buffer ++ more) = header.trailerIn buffer ∧
      header.payloadIn (buffer ++ more) = header.payloadIn buffer := by
  rw [frameSize_eq] at h
  have hbody : headerSize + header.payloadSize ≤ buffer.length := by omega
  have htrailer : trailerSize ≤ (buffer.drop (headerSize + header.payloadSize)).length := by
    rw [List.length_drop]
    omega
  have hpayload : header.payloadSize ≤ (buffer.drop headerSize).length := by
    rw [List.length_drop]
    omega
  refine ⟨List.take_append_of_le_length hbody, ?_, ?_⟩
  · rw [trailerIn, List.drop_append_of_le_length hbody, List.take_append_of_le_length htrailer]
    rfl
  · rw [payloadIn, List.drop_append_of_le_length (by omega),
      List.take_append_of_le_length hpayload]
    rfl

end Header

namespace Frame

variable {max : Nat} {mode : Integrity} {buffer more octets rest : Bytes} {frame : Frame}
variable {header : Header} {result : Except FrameError (Option (Frame × Bytes))}

/-! ## What decoding comes to -/

inductive Decoding (max : Nat) (mode : Integrity) (buffer : Bytes) :
    Except FrameError (Option (Frame × Bytes)) → Prop where
  /-- There is no header yet. -/
  | short (hshort : buffer.length < headerSize) : Decoding max mode buffer (.ok none)
  | unreadable {error : FrameError} (hlong : headerSize ≤ buffer.length)
      (hheader : Header.decode buffer = .error error) : Decoding max mode buffer (.error error)
  | tooLarge {header : Header} (hheader : Header.decode buffer = .ok header)
      (hlarge : max < header.payloadSize) :
      Decoding max mode buffer (.error (.tooLarge header.payloadSize max))
  /-- The buffer ends before the frame does. -/
  | cut {header : Header} (hheader : Header.decode buffer = .ok header)
      (hfits : header.payloadSize ≤ max) (hcut : buffer.length < header.frameSize) :
      Decoding max mode buffer (.ok none)
  | refused {header : Header} {error : FrameError} (hheader : Header.decode buffer = .ok header)
      (hfits : header.payloadSize ≤ max) (hwhole : header.frameSize ≤ buffer.length)
      (hverify : mode.verify (header.bodyIn buffer) (header.trailerIn buffer) = .error error) :
      Decoding max mode buffer (.error error)
  | frame {header : Header} (hheader : Header.decode buffer = .ok header)
      (hfits : header.payloadSize ≤ max) (hwhole : header.frameSize ≤ buffer.length)
      (hverify : mode.verify (header.bodyIn buffer) (header.trailerIn buffer) = .ok ()) :
      Decoding max mode buffer
        (.ok (some (⟨header, header.payloadIn buffer⟩, buffer.drop header.frameSize)))

theorem decoding_iff : Decoding max mode buffer result ↔ decode buffer max mode = result := by
  constructor
  case mp =>
    intro h
    have hlong {header : Header} (hheader : Header.decode buffer = .ok header) :
        ¬ buffer.length < headerSize :=
      Nat.not_lt.mpr (Header.length_of_decode hheader)
    unfold decode
    cases h with
    | short hshort => rw [if_pos hshort]
    | unreadable hheadered hheader =>
      rw [if_neg (Nat.not_lt.mpr hheadered), hheader]
    | tooLarge hheader hlarge =>
      rw [if_neg (hlong hheader), hheader]
      exact if_pos hlarge
    | cut hheader hfits hcut =>
      rw [if_neg (hlong hheader), hheader]
      dsimp only
      rw [if_neg (Nat.not_lt.mpr hfits), if_pos hcut]
    | refused hheader hfits hwhole hverify | frame hheader hfits hwhole hverify =>
      rw [if_neg (hlong hheader), hheader]
      unfold Header.bodyIn Header.trailerIn at hverify
      dsimp only [Header.payloadIn]
      rw [if_neg (Nat.not_lt.mpr hfits), if_neg (Nat.not_lt.mpr hwhole), hverify]
  case mpr =>
    rintro rfl
    unfold decode
    split
    case isTrue hshort => exact .short hshort
    case isFalse hlong =>
      split
      case h_1 error hheader => exact .unreadable (Nat.not_lt.mp hlong) hheader
      case h_2 header hheader =>
        split
        case isTrue hlarge => exact .tooLarge hheader hlarge
        case isFalse hfits =>
          split
          case isTrue hcut => exact .cut hheader (Nat.not_lt.mp hfits) hcut
          case isFalse hwhole =>
            dsimp only
            split
            case h_1 error hverify =>
              exact .refused hheader (Nat.not_lt.mp hfits) (Nat.not_lt.mp hwhole) hverify
            case h_2 hverify =>
              exact .frame hheader (Nat.not_lt.mp hfits) (Nat.not_lt.mp hwhole) hverify

/-- What a decoder does not wait for, it decides for good: more octets only stay behind a frame. -/
theorem Decoding.append (h : Decoding max mode buffer result) (hdecided : result ≠ .ok none)
    (more : Bytes) :
    Decoding max mode (buffer ++ more) (result.map (Option.map (Prod.map id (· ++ more)))) := by
  have hlonger : (buffer ++ more).length = buffer.length + more.length := List.length_append
  cases h with
  | short | cut => exact absurd rfl hdecided
  | unreadable hlong hheader =>
    exact .unreadable (by omega) ((Scan.decode_append hlong more).trans hheader)
  | tooLarge hheader hlarge =>
    have hlong := Header.length_of_decode hheader
    exact .tooLarge ((Scan.decode_append hlong more).trans hheader) hlarge
  | refused hheader hfits hwhole hverify =>
    have hlong := Header.length_of_decode hheader
    obtain ⟨hbody, htrailer, -⟩ := Header.parts_append hwhole more
    rw [← hbody, ← htrailer] at hverify
    exact .refused ((Scan.decode_append hlong more).trans hheader) hfits (by omega) hverify
  | frame hheader hfits hwhole hverify =>
    have hlong := Header.length_of_decode hheader
    obtain ⟨hbody, htrailer, hpayload⟩ := Header.parts_append hwhole more
    rw [← hbody, ← htrailer] at hverify
    have hmore := Decoding.frame ((Scan.decode_append hlong more).trans hheader) hfits (by omega)
      hverify
    rw [hpayload, List.drop_append_of_le_length hwhole] at hmore
    exact hmore

theorem decode_wire (hsize : frame.payload.length = frame.header.payloadSize)
    (hfits : frame.header.payloadSize ≤ max) (rest : Bytes) :
    decode (frame.wire mode ++ rest) max mode = .ok (some (frame, rest)) := by
  have halike := @Scan.decode_alike max mode (frame.wire mode ++ rest)
  rw [Scan.next?_wire_append hsize hfits] at halike
  generalize decode (frame.wire mode ++ rest) max mode = step at halike ⊢
  cases halike with
  | frame => rfl
  | fault error finding _ hfinding => cases FrameError.frame?_of_finding? hfinding

theorem decode_of_append_eq_wire (hsize : frame.payload.length = frame.header.payloadSize)
    (hfits : frame.header.payloadSize ≤ max) (h : octets ++ more = frame.wire mode)
    (hmore : more ≠ []) : decode octets max mode = .ok none := by
  have hless : octets.length < frame.wireSize := by
    have hlength := congrArg List.length h
    have hpositive := List.length_pos_iff.mpr hmore
    rw [List.length_append, length_wire, hsize] at hlength
    unfold wireSize Header.frameSize
    omega
  have halike := @Scan.decode_alike max mode octets
  rw [Scan.next?_of_append_eq_wire hfits (h.trans (List.append_nil _).symm) hless] at halike
  generalize decode octets max mode = step at halike ⊢
  cases halike
  rfl

/-! ## Messages in a buffer -/

/-- Appends the frames of some messages to a buffer, one behind the other, with the answers. -/
def appendAll (mode : Integrity) :
    List Message → Bytes → List (Except FrameError Unit) × Bytes
  | [], buffer => ([], buffer)
  | message :: messages, buffer =>
    let (answer, buffer) := appendTo buffer message.type message.id message.payload mode
    let (answers, buffer) := appendAll mode messages buffer
    (answer :: answers, buffer)

def takeEach (max : Nat) (mode : Integrity) :
    (times : Nat) → Bytes → List (Except FrameError (Option Frame)) × Bytes
  | 0, buffer => ([], buffer)
  | times + 1, buffer =>
    let (answer, buffer) := takeFrom buffer max mode
    let (answers, buffer) := takeEach max mode times buffer
    (answer :: answers, buffer)

theorem encode_of_le {message : Message} (h : message.payload.length ≤ maxPayload)
    (mode : Integrity) :
    encode message.type message.id message.payload mode = .ok (message.frame.wire mode) := by
  rw [encode, ofPayload, if_pos h]
  rfl

theorem appendTo_of_le {message : Message} (h : message.payload.length ≤ maxPayload)
    (buffer : Bytes) (mode : Integrity) :
    appendTo buffer message.type message.id message.payload mode =
      (.ok (), buffer ++ message.frame.wire mode) := by
  rw [appendTo_eq, encode_of_le h]

/-- A message that no frame can carry is refused, and nothing is appended. -/
theorem appendTo_of_lt {message : Message} (h : maxPayload < message.payload.length)
    (buffer : Bytes) (mode : Integrity) :
    appendTo buffer message.type message.id message.payload mode =
      (.error (.tooLarge message.payload.length maxPayload), buffer) := by
  rw [appendTo_eq, encode, ofPayload, if_neg (Nat.not_le.mpr h)]
  rfl

/-- The frame of a message announces the payload of the message. -/
theorem payloadSize_frame {message : Message} (h : message.payload.length ≤ maxPayload) :
    message.frame.header.payloadSize = message.payload.length :=
  UInt16.toNat_ofNat_of_lt' (Nat.lt_succ_of_le h)

theorem appendAll_eq {messages : List Message}
    (hsmall : ∀ message ∈ messages, message.payload.length ≤ maxPayload) (mode : Integrity)
    (buffer : Bytes) :
    appendAll mode messages buffer =
      (messages.map fun _ ↦ .ok (),
        buffer ++ messages.flatMap fun message ↦ message.frame.wire mode) := by
  induction messages generalizing buffer with
  | nil => simp [appendAll]
  | cons message messages ih =>
    obtain ⟨hfirst, hlater⟩ := List.forall_mem_cons.mp hsmall
    rw [appendAll, appendTo_of_le hfirst]
    dsimp only
    rw [ih hlater, List.flatMap_cons, List.append_assoc]
    rfl

theorem takeEach_wires {messages : List Message}
    (hfits : ∀ message ∈ messages,
      message.payload.length ≤ maxPayload ∧ message.payload.length ≤ max)
    (mode : Integrity) (suffix : Bytes) :
    takeEach max mode messages.length
        ((messages.flatMap fun message ↦ message.frame.wire mode) ++ suffix) =
      (messages.map fun message ↦ .ok (some message.frame), suffix) := by
  induction messages with
  | nil => rfl
  | cons message messages ih =>
    obtain ⟨⟨hsmall, hmax⟩, hlater⟩ := List.forall_mem_cons.mp hfits
    have hsize := payloadSize_frame hsmall
    have htaken (rest : Bytes) : takeFrom (message.frame.wire mode ++ rest) max mode =
        (.ok (some message.frame), rest) := by
      rw [takeFrom, decode_wire hsize.symm (hsize ▸ hmax)]
    simp only [List.length_cons, List.flatMap_cons, List.append_assoc, takeEach, htaken,
      ih hlater, List.map_cons]

/-- A frame is taken just if it is decoded. -/
theorem takeFrom_eq_frame_iff :
    takeFrom buffer max mode = (.ok (some frame), rest) ↔
      decode buffer max mode = .ok (some (frame, rest)) := by
  unfold takeFrom
  rcases decode buffer max mode with error | _ | ⟨found, left⟩ <;> simp

/-- There is an error just if decoding ends in it. -/
theorem takeFrom_eq_error_iff {error : FrameError} :
    (takeFrom buffer max mode).1 = .error error ↔ decode buffer max mode = .error error := by
  unfold takeFrom
  rcases decode buffer max mode with error | _ | ⟨found, left⟩ <;> simp

theorem decode_append_frame (h : decode buffer max mode = .ok (some (frame, rest)))
    (more : Bytes) : decode (buffer ++ more) max mode = .ok (some (frame, rest ++ more)) :=
  decoding_iff.mp ((decoding_iff.mpr h).append (fun hnone ↦ nomatch hnone) more)

theorem decode_append_error {error : FrameError} (h : decode buffer max mode = .error error)
    (more : Bytes) : decode (buffer ++ more) max mode = .error error :=
  decoding_iff.mp ((decoding_iff.mpr h).append (fun hnone ↦ nomatch hnone) more)

/-- The octets from which a frame is decoded are those of its header, its payload and a trailer that
verifies. -/
theorem eq_of_decode (h : decode buffer max mode = .ok (some (frame, rest))) :
    frame.payload.length = frame.header.payloadSize ∧
      ∃ low high, buffer = frame.body ++ [low, high] ++ rest ∧
        mode.verify frame.body (LittleEndian.word16 low high) = .ok () := by
  cases decoding_iff.mpr h with
  | @frame header hheader hfits hwhole hverify =>
    rw [Header.frameSize_eq] at hwhole
    have hbody : header.bodyIn buffer = (Frame.mk header (header.payloadIn buffer)).body := by
      rw [body, Header.encode_of_decode hheader, Header.bodyIn, List.take_add]
      rfl
    have htrailer : ((buffer.drop (headerSize + header.payloadSize)).take trailerSize).length =
        2 := by
      rw [List.length_take, List.length_drop]
      exact Nat.min_eq_left (by omega)
    obtain ⟨low, high, hoctets⟩ := List.length_eq_two.mp htrailer
    refine ⟨?_, low, high, ?_, ?_⟩
    · rw [Header.payloadIn, List.length_take, List.length_drop]
      exact Nat.min_eq_left (by omega)
    · calc
        buffer = buffer.take header.frameSize ++ buffer.drop header.frameSize :=
          (List.take_append_drop _ _).symm
        _ = header.bodyIn buffer ++
              (buffer.drop (headerSize + header.payloadSize)).take trailerSize ++
              buffer.drop header.frameSize := by
          rw [Header.bodyIn, ← List.take_add, Header.frameSize_eq]
        _ = (Frame.mk header (header.payloadIn buffer)).body ++ [low, high] ++
              buffer.drop header.frameSize := by rw [hbody, hoctets]
    · rw [← hbody, LittleEndian.word16, ← hoctets]
      exact hverify

/-- A frame with a checksum is decoded from its own octets, and from no others. -/
theorem eq_wire_of_decode (h : decode buffer max .crc = .ok (some (frame, rest))) :
    frame.payload.length = frame.header.payloadSize ∧ buffer = frame.wire .crc ++ rest := by
  obtain ⟨hsize, low, high, hbuffer, hverify⟩ := eq_of_decode h
  have hchecksum : Integrity.crc.trailer frame.body = LittleEndian.word16 low high := by
    unfold Integrity.verify at hverify
    dsimp only at hverify
    split at hverify
    case isTrue hsame => exact hsame
    case isFalse => cases hverify
  refine ⟨hsize, ?_⟩
  rw [wire, hchecksum, LittleEndian.digits_word16, hbuffer]

/-- A frame without anything in its reserved fields carries a message. -/
theorem frame_of_reserved (hsize : frame.payload.length = frame.header.payloadSize)
    (hfirst : frame.header.reserved1 = 0) (hsecond : frame.header.reserved2 = 0) :
    (⟨frame.header.type, frame.header.id, frame.payload⟩ : Message).frame = frame := by
  obtain ⟨⟨type, id, length, reserved1, reserved2⟩, payload⟩ := frame
  have hlength : UInt16.ofNat payload.length = length := by
    rw [hsize]
    exact UInt16.ofNat_toNat
  obtain rfl : reserved1 = 0 := hfirst
  obtain rfl : reserved2 = 0 := hsecond
  simp only [Message.frame, Header.plain, hlength]

/-- How appending frames to a buffer and taking them out of it fit together. -/
structure Inverse (max : Nat) (mode : Integrity) : Prop where
  /-- Messages that are small enough are appended, whatever the buffer holds, and are taken out
  again in order, one frame for each, whatever follows them; what follows is left. -/
  read_back : ∀ messages : List Message,
    (∀ message ∈ messages, message.payload.length ≤ min maxPayload max) →
    ∃ octets,
      (∀ buffer, appendAll mode messages buffer = (messages.map fun _ ↦ .ok (), buffer ++ octets)) ∧
      ∀ suffix, takeEach max mode messages.length (octets ++ suffix) =
        (messages.map fun message ↦ .ok (some message.frame), suffix)
  /-- While a frame is cut off anywhere, nothing is taken. -/
  incomplete : ∀ (message : Message) (octets : Bytes),
    message.payload.length ≤ min maxPayload max →
    appendTo [] message.type message.id message.payload mode = (.ok (), octets) →
    ∀ part, part <+: octets → part ≠ octets → takeFrom part max mode = (.ok none, part)
  /-- A frame that is taken is taken also if the buffer goes on. -/
  frame_kept : ∀ (buffer rest : Bytes) (frame : Frame),
    takeFrom buffer max mode = (.ok (some frame), rest) →
    ∀ more, takeFrom (buffer ++ more) max mode = (.ok (some frame), rest ++ more)
  /-- An error stays the same if the buffer goes on. -/
  error_kept : ∀ (buffer : Bytes) (error : FrameError),
    (takeFrom buffer max mode).1 = .error error →
    ∀ more, takeFrom (buffer ++ more) max mode = (.error error, buffer ++ more)
  /-- Where no frame is taken, the buffer is left alone. -/
  unchanged : ∀ buffer : Bytes,
    (∀ frame, (takeFrom buffer max mode).1 ≠ .ok (some frame)) →
    (takeFrom buffer max mode).2 = buffer
  /-- A frame with a checksum whose reserved fields are zero is encoded again to the octets that
  were taken. -/
  re_encoded : mode = .crc → ∀ (buffer rest : Bytes) (frame : Frame),
    takeFrom buffer max mode = (.ok (some frame), rest) →
    frame.header.reserved1 = 0 → frame.header.reserved2 = 0 →
    ∃ octets, appendTo [] frame.header.type frame.header.id frame.payload mode = (.ok (), octets) ∧
      buffer = octets ++ rest
  /-- Appending fails just for payloads that no frame can carry, and leaves the buffer alone. -/
  refused : ∀ (buffer : Bytes) (message : Message),
    ((∃ error, (appendTo buffer message.type message.id message.payload mode).1 = .error error) ↔
      maxPayload < message.payload.length) ∧
    (maxPayload < message.payload.length →
      (appendTo buffer message.type message.id message.payload mode).2 = buffer)

/-- What is appended is read back, and nothing else is, in both modes and for every limit on
payloads. -/
theorem takeFrom_appendTo (max : Nat) (mode : Integrity) : Inverse max mode where
  read_back messages hfits := by
    have hboth : ∀ message ∈ messages,
        message.payload.length ≤ maxPayload ∧ message.payload.length ≤ max :=
      fun message hmem ↦ Nat.le_min.mp (hfits message hmem)
    exact ⟨_, appendAll_eq (fun message hmem ↦ (hboth message hmem).1) mode,
      takeEach_wires hboth mode⟩
  incomplete message octets hfits happended part hpart hproper := by
    obtain ⟨hsmall, hmax⟩ := Nat.le_min.mp hfits
    have hsize := payloadSize_frame hsmall
    rw [appendTo_of_le hsmall, List.nil_append] at happended
    obtain rfl : message.frame.wire mode = octets := congrArg Prod.snd happended
    obtain ⟨more, hmore⟩ := hpart
    have hsome : more ≠ [] := by
      rintro rfl
      exact hproper ((List.append_nil part).symm.trans hmore)
    rw [takeFrom, decode_of_append_eq_wire hsize.symm (hsize ▸ hmax) hmore hsome]
  frame_kept buffer rest frame h more :=
    takeFrom_eq_frame_iff.mpr (decode_append_frame (takeFrom_eq_frame_iff.mp h) more)
  error_kept buffer error h more := by
    rw [takeFrom, decode_append_error (takeFrom_eq_error_iff.mp h) more]
  unchanged buffer hnone := by
    unfold takeFrom at hnone ⊢
    generalize decode buffer max mode = step at hnone ⊢
    match step with
    | .error error => rfl
    | .ok none => rfl
    | .ok (some (frame, rest)) => exact (hnone frame rfl).elim
  re_encoded hcrc buffer rest frame h hfirst hsecond := by
    subst hcrc
    obtain ⟨hsize, hbuffer⟩ := eq_wire_of_decode (takeFrom_eq_frame_iff.mp h)
    let message : Message := ⟨frame.header.type, frame.header.id, frame.payload⟩
    have hframe : message.frame = frame := frame_of_reserved hsize hfirst hsecond
    have hsmall : message.payload.length ≤ maxPayload :=
      hsize ▸ Nat.le_of_lt_succ frame.header.length.toNat_lt
    have happended := appendTo_of_le hsmall [] .crc
    rw [List.nil_append, hframe] at happended
    exact ⟨frame.wire .crc, happended, hbuffer⟩
  refused buffer message := by
    rcases Nat.lt_or_ge maxPayload message.payload.length with hlarge | hsmall
    · rw [appendTo_of_lt hlarge]
      exact ⟨⟨fun _ ↦ hlarge, fun _ ↦ ⟨_, rfl⟩⟩, fun _ ↦ rfl⟩
    · rw [appendTo_of_le hsmall]
      have hnot : ¬ maxPayload < message.payload.length := Nat.not_lt.mpr hsmall
      exact ⟨⟨fun ⟨_, h⟩ ↦ (nomatch h), fun hlarge ↦ absurd hlarge hnot⟩,
        fun hlarge ↦ absurd hlarge hnot⟩

/-- Two messages behind an octet that was in the buffer before, the first of them with a start
marker in its payload; a third marker stays behind. -/
theorem takeFrom_appendTo_two :
    let messages : List Message := [⟨7, 1, [0x23]⟩, ⟨0x23, 2, []⟩]
    (∀ message ∈ messages, message.payload.length ≤ min maxPayload 1) ∧
      ∃ octets, appendAll .crc messages [9] = ([.ok (), .ok ()], 9 :: octets) ∧
        takeEach 1 .crc 2 (octets ++ [0x23]) =
          (messages.map fun message ↦ .ok (some message.frame), [0x23]) := by
  intro messages
  have hfits : ∀ message ∈ messages, message.payload.length ≤ min maxPayload 1 := by decide
  obtain ⟨octets, happended, htaken⟩ := (takeFrom_appendTo 1 .crc).read_back messages hfits
  exact ⟨hfits, octets, happended [9], htaken [0x23]⟩

end Frame

end FramedLink
