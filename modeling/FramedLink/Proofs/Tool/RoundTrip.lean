import FramedLink.Proofs.Codec
import FramedLink.Proofs.Tool.Captures

/-!
# Encoding and decoding on the command line

Frames that were encoded one by one are all found again, whether their octets are put one behind the
other or their hex texts are put together with blanks in between; whatever else is decoded, decoding
fails for its contents just if there is something and no frame in it (`runDecode_encoded`).
-/

namespace FramedLink.Tool

def FrameRecord.frame (record : FrameRecord) : Frame :=
  Message.frame ⟨record.type, record.id, record.payload⟩

/-- What `encode` is to do for a record to come back: its payload can be read, and is small enough
for the receiver. -/
structure Orders (folder : Folder) (mode : Integrity) (limit : Nat) (order : EncodeOptions)
    (record : FrameRecord) : Prop where
  integrity : order.integrity = mode
  type : order.type = record.type
  id : order.id = record.id
  payload : order.payload.read folder = .ok record.payload
  fits : record.payload.length ≤ limit

variable {mode : Integrity} {limit : Nat} {order : EncodeOptions} {record : FrameRecord}
variable {encoding around : Surroundings} {orders : List EncodeOptions}
variable {records : List FrameRecord} {octets : Bytes} {config : Config}

/-- The frame of the record is encoded. -/
theorem Orders.runEncode_eq (h : Orders encoding.folder mode limit order record)
    (hlimit : limit ≤ maxPayload) (layout : Layout) :
    (runEncode layout order encoding).output = EncodedFrame.report layout
      ⟨record.type, record.id, record.payload.length, record.frame.wire mode⟩ := by
  have hsize : record.payload.length ≤ maxPayload := Nat.le_trans h.fits hlimit
  have hframe : order.frame record.payload =
      .ok ⟨record.type, record.id, record.payload.length, record.frame.wire mode⟩ := by
    have hencoded : Frame.encode record.type record.id record.payload mode =
        .ok (record.frame.wire mode) :=
      @Frame.encode_of_le ⟨record.type, record.id, record.payload⟩ hsize mode
    rw [EncodeOptions.frame, h.integrity, h.type, h.id, hencoded]
  simp only [runEncode, h.payload, hframe]

theorem Orders.announced {folder : Folder} (h : Orders folder mode limit order record)
    (hlimit : limit ≤ maxPayload) :
    record.frame.payload.length = record.frame.header.payloadSize ∧
      record.frame.header.payloadSize ≤ limit := by
  have hsize : record.payload.length ≤ maxPayload := Nat.le_trans h.fits hlimit
  have hannounced : record.frame.header.payloadSize = record.payload.length :=
    Frame.payloadSize_frame hsize
  exact ⟨hannounced.symm, hannounced ▸ h.fits⟩

/-- The octets of the frames of some records, one behind the other. -/
def wires (mode : Integrity) (records : List FrameRecord) : Bytes :=
  records.flatMap (·.frame.wire mode)

/-- Texts that are put together with blanks between them, and perhaps some behind the last. -/
inductive Joined : List String → String → Prop where
  | last (text : String) {gap : String} (hgap : ∀ c ∈ gap.toList, Text.isBlank c = true) :
      Joined [text] (text ++ gap)
  | more (text : String) {texts : List String} {gap rest : String}
      (hgap : ∀ c ∈ gap.toList, Text.isBlank c = true) (hsome : gap ≠ "")
      (hrest : Joined texts rest) : Joined (text :: texts) (text ++ gap ++ rest)

/-- How what was encoded for some orders is handed to `decode`, as octets or as hex text. -/
inductive Handed (encoding : Surroundings) (orders : List EncodeOptions) : Bool → Bytes → Prop where
  | octets : Handed encoding orders false
      (orders.flatMap fun order ↦ (runEncode .raw order encoding).output)
  | hex {texts : List String} {text : String}
      (htexts : List.Forall₂ (fun order text ↦
        (runEncode .pretty order encoding).output = line text) orders texts)
      (hjoined : Joined texts text) : Handed encoding orders true (Text.Utf8.encode text)

def DecodeOptions.source (options : DecodeOptions) (around : Surroundings) :
    Except Failure Bytes :=
  match options.file with
  | some path => readFile around.folder path
  | none => .ok around.input

theorem DecodeOptions.read_eq {options : DecodeOptions} (h : options.source around = .ok octets) :
    options.read around.folder around.input =
      if options.hex then readHexOctets octets else .ok octets := by
  unfold DecodeOptions.source at h
  unfold DecodeOptions.read
  generalize options.file = file at h ⊢
  cases file with
  | none =>
    obtain rfl := Except.ok.inj h
    rfl
  | some path =>
    dsimp only at h ⊢
    rw [h]

theorem flatMap_output (horders : List.Forall₂ (Orders encoding.folder mode limit) orders records)
    (hlimit : limit ≤ maxPayload) :
    (orders.flatMap fun order ↦ (runEncode .raw order encoding).output) = wires mode records := by
  induction horders with
  | nil => rfl
  | cons horder _ ih =>
    rw [List.flatMap_cons, ih, horder.runEncode_eq hlimit]
    rfl

theorem Orders.text_eq (h : Orders encoding.folder mode limit order record)
    (hlimit : limit ≤ maxPayload) {text : String}
    (htext : (runEncode .pretty order encoding).output = line text) :
    text = Text.Hex.encode (record.frame.wire mode) " " := by
  rw [h.runEncode_eq hlimit] at htext
  have hdecoded := congrArg Text.Utf8.decode htext
  rw [EncodedFrame.report, line, line, Text.Utf8.decode_encode, Text.Utf8.decode_encode] at hdecoded
  exact ((String.append_left_inj _).mp (Except.ok.inj hdecoded)).symm

/-- Joined hex texts spell the octets of all frames. -/
theorem Joined.spells {texts : List String} {text : String} (hjoined : Joined texts text)
    (hlimit : limit ≤ maxPayload)
    (horders : List.Forall₂ (Orders encoding.folder mode limit) orders records)
    (htexts : List.Forall₂ (fun order text ↦
      (runEncode .pretty order encoding).output = line text) orders texts) :
    Text.Hex.Spells (Text.Hex.pieces text) (wires mode records) := by
  have hspace : Text.Hex.Separates " " := Text.Hex.separates_space
  have hpieces {order : EncodeOptions} {record : FrameRecord} {text : String}
      (horder : Orders encoding.folder mode limit order record)
      (htext : (runEncode .pretty order encoding).output = line text) :
      Text.Hex.Spells (Text.Hex.pieces text) (record.frame.wire mode) := by
    rw [horder.text_eq hlimit htext, Text.Hex.pieces_encode hspace]
    exact Text.Hex.spells_digitsOf _
  have hblank {gap : String} (hgap : ∀ c ∈ gap.toList, Text.isBlank c = true) :
      Text.Hex.Separates gap := by
    intro c hc
    rw [Text.Hex.isSeparator, hgap c hc]
    rfl
  induction hjoined generalizing orders records with
  | last text hgap =>
    cases htexts with
    | cons htext hnone =>
      cases hnone
      cases horders with
      | cons horder hnone =>
        cases hnone
        rw [Text.Hex.pieces_append_gap (hblank hgap), wires, List.flatMap_singleton]
        exact hpieces horder htext
  | more text hgap hsome _ ih =>
    cases htexts with
    | cons htext htexts =>
      cases horders with
      | cons horder horders =>
        rw [Text.Hex.pieces_append (hblank hgap) hsome, wires, List.flatMap_cons]
        exact (hpieces horder htext).append (ih horders htexts)

/-- What is handed over is read as the octets of the frames. -/
theorem Handed.read_eq {options : DecodeOptions}
    (hhanded : Handed encoding orders options.hex octets) (hlimit : limit ≤ maxPayload)
    (horders : List.Forall₂ (Orders encoding.folder mode limit) orders records)
    (hsource : options.source around = .ok octets) :
    options.read around.folder around.input = .ok (wires mode records) := by
  rw [DecodeOptions.read_eq hsource]
  generalize options.hex = hex at hhanded
  cases hhanded with
  | octets =>
    rw [flatMap_output horders hlimit]
    rfl
  | hex htexts hjoined =>
    have hdecoded := Text.Hex.decode_of_spells (hjoined.spells hlimit horders htexts)
    rw [if_pos rfl, readHexOctets, Text.Utf8.decode_encode]
    dsimp only
    rw [readHex, hdecoded]
    rfl

/-- The frames of some records are found, and come to these records. -/
theorem recordsOf_wires (hmode : config.integrity.Admits mode) {folder : Folder}
    (hlimit : config.maxDeclared ≤ maxPayload)
    (horders : List.Forall₂ (Orders folder mode config.maxDeclared) orders records) :
    recordsOf allTypes (config.scan (wires mode records)).findings = records := by
  have hframes : ∀ frame ∈ records.map FrameRecord.frame,
      frame.payload.length = frame.header.payloadSize ∧
        frame.header.payloadSize ≤ config.maxDeclared := by
    induction horders with
    | nil => exact List.forall_mem_nil _
    | cons horder _ ih => exact List.forall_mem_cons.mpr ⟨horder.announced hlimit, ih⟩
  have hwires : wires mode records = (records.map FrameRecord.frame).flatMap (Frame.wire mode) :=
    (List.flatMap_map ..).symm
  have hfound : ((records.map FrameRecord.frame).map Finding.frame).filterMap Finding.frame? =
      records.map FrameRecord.frame := by
    rw [List.filterMap_map]
    exact List.filterMap_some
  let frames := records.map FrameRecord.frame
  calc
    recordsOf allTypes (config.scan (wires mode records)).findings =
        recordsOf allTypes (frames.map Finding.frame) := by
      rw [hwires, Config.scan, Scan.scan_flatMap_wire hmode hframes]
    _ = ((frames.map Finding.frame).filterMap Finding.frame?).map FrameRecord.ofFrame :=
      recordsOf_allTypes _
    _ = frames.map FrameRecord.ofFrame := by rw [hfound]
    _ = records.map (FrameRecord.ofFrame ∘ FrameRecord.frame) := List.map_map ..
    _ = records := List.map_id records

/-- Decoding fails for its contents just if there is something and no frame in it. -/
theorem code_reportCapture {layout : Layout} {counters : Bool} {capture : Capture}
    (h : capture.Scans config octets) (around : Surroundings) :
    (reportCapture layout counters octets.length capture around).code =
      if octets ≠ [] ∧ capture.counters.framesDispatched = 0 then .invalidData else .success := by
  have hnone : (capture.records.isEmpty = true ∧ 0 < octets.length) ↔
      octets ≠ [] ∧ capture.counters.framesDispatched = 0 :=
    calc
      capture.records.isEmpty = true ∧ 0 < octets.length ↔ capture.records = [] ∧ octets ≠ [] := by
        rw [List.isEmpty_iff, List.length_pos_iff]
      _ ↔ octets ≠ [] ∧ capture.records = [] := and_comm
      _ ↔ octets ≠ [] ∧ capture.counters.framesDispatched = 0 := by
        rw [h.framesDispatched, List.length_eq_zero_iff]
  unfold reportCapture
  rw [h.error]
  dsimp only [Outcome.code]
  by_cases hempty : capture.records.isEmpty = true ∧ 0 < octets.length
  · rw [if_pos hempty, if_pos (hnone.mp hempty)]
    rfl
  · rw [if_neg hempty, if_neg (mt hnone.mpr hempty)]
    rfl

/-- Frames that were encoded on the command line are given back by decoding, each once and in order,
as octets or as hex text; where nothing is checked, it makes no difference how their trailers were
made. Whatever is decoded, decoding fails for its contents just if there is something and no frame
was dispatched. -/
theorem runDecode_encoded (layout : Layout) {options : DecodeOptions} {around : Surroundings}
    {config : Config} (hsettings : options.settings.resolve around.folder = .ok config) :
    let outcome := runDecode layout options around
    (∀ {encoding : Surroundings} {mode : Integrity} {orders : List EncodeOptions}
        {records : List FrameRecord} {octets : Bytes}, orders ≠ [] →
      config.integrity = mode ∨ config.integrity = .unchecked →
      List.Forall₂ (Orders encoding.folder mode config.maxDeclared) orders records →
      Handed encoding orders options.hex octets → options.source around = .ok octets →
      ∃ capture, Capture.ofOctets config around.ids (wires mode records) = .ok capture ∧
        capture.records = records ∧ capture.counters.framesDispatched = records.length ∧
        outcome.output = FrameRecord.report layout around.time records ++
          (if options.counters then reportCounters layout capture.counters else []) ∧
        outcome.code = .success) ∧
    ∀ {octets : Bytes}, options.read around.folder around.input = .ok octets →
      ∃ capture, Capture.ofOctets config around.ids octets = .ok capture ∧
        outcome = reportCapture layout options.counters octets.length capture around ∧
        outcome.code = if octets ≠ [] ∧ capture.counters.framesDispatched = 0 then .invalidData
          else .success := by
  intro outcome
  have hdecoded {octets : Bytes}
      (hread : options.read around.folder around.input = .ok octets) :
      ∃ capture, Capture.ofOctets config around.ids octets = .ok capture ∧
        capture.Scans config octets ∧
        outcome = reportCapture layout options.counters octets.length capture around ∧
        outcome.code = if octets ≠ [] ∧ capture.counters.framesDispatched = 0 then .invalidData
          else .success := by
    obtain ⟨capture, hcapture, hscans, houtcome⟩ := runDecode_eq layout hsettings hread
    refine ⟨capture, hcapture, hscans, houtcome, ?_⟩
    rw [← code_reportCapture hscans around, ← houtcome]
  refine ⟨?_, fun hread ↦ ?_⟩
  · intro encoding mode orders records octets hsome hmode horders hhanded hsource
    have hlimit : config.maxDeclared ≤ maxPayload := by
      have hbounds := config.bounds_of_valid (SettingsOptions.fault?_of_resolve hsettings)
      exact Nat.sub_le_of_le_add hbounds.2.1
    obtain ⟨capture, hcapture, hscans, houtcome, hcode⟩ :=
      hdecoded (hhanded.read_eq hlimit horders hsource)
    have hrecords : capture.records = records := by
      rw [hscans.records, recordsOf_wires hmode hlimit horders]
    have hdispatched : capture.counters.framesDispatched = records.length := by
      rw [hscans.framesDispatched, hrecords]
    refine ⟨capture, hcapture, hrecords, hdispatched, ?_, ?_⟩
    · rw [houtcome, reportCapture, hscans.error, hrecords]
    · rw [hcode, if_neg]
      rintro ⟨-, hnone⟩
      rw [hdispatched, ← horders.length_eq, List.length_eq_zero_iff] at hnone
      exact hsome hnone
  · obtain ⟨capture, hcapture, -, houtcome, hcode⟩ := hdecoded hread
    exact ⟨capture, hcapture, houtcome, hcode⟩

/-- Two frames of the types of the handshake, checked on the one side only. Neither carries a
connect message. -/
theorem runDecode_encoded_handshakes :
    let encoding : Surroundings := { folder := {}, input := [], ids := { next := 1 }, time := 0 }
    let orders : List EncodeOptions := [⟨0, 7, .empty, .crc⟩, ⟨1, 0, .text "hi", .crc⟩]
    let octets := orders.flatMap fun order ↦ (runEncode .raw order encoding).output
    let options : DecodeOptions := { file := none, hex := false, counters := false, settings := {} }
    let outcome := runDecode .pretty options { encoding with input := octets }
    outcome.output = lines ["type=0 (CONNECT_REQUEST) id=7 size=0 payload=",
      "type=1 (CONNECT_RESPONSE) id=0 size=2 payload=hi"] ∧ outcome.code = .success := by
  intro encoding orders octets options outcome
  have hpayload : Text.Utf8.encode "hi" = [0x68, 0x69] := Text.Utf8.encode_ofList ['h', 'i']
  have horders : List.Forall₂ (Orders {} .crc 248) orders [⟨0, 7, []⟩, ⟨1, 0, [0x68, 0x69]⟩] := by
    refine .cons ⟨rfl, rfl, rfl, rfl, by decide⟩ (.cons ⟨rfl, rfl, rfl, ?_, by decide⟩ .nil)
    exact congrArg Except.ok hpayload
  obtain ⟨capture, -, -, -, houtput, hcode⟩ :=
    (@runDecode_encoded .pretty options { encoding with input := octets } {} rfl).1
      (List.cons_ne_nil _ _) (.inr rfl) horders .octets rfl
  exact ⟨houtput.trans ((List.append_nil _).trans (congrArg lines (by decide +kernel))), hcode⟩

end FramedLink.Tool
