import FramedLink.Endpoint.Station
import FramedLink.Proofs.Reception.Scan

/-!
# What has been collected

Between two turns of receiving, an endpoint holds the beginning of a frame: too few octets for a
header, or an accepted header and less than the packet that it announces. `Reception.Sound` says so
of the region and of the sizes kept beside it.

Every step of receiving that needs nothing from outside is then a step of the scanner on the octets
held: judging a header or a packet comes to the next finding, and what is still held afterwards is
what the scanner leaves.
-/

namespace FramedLink

/-- The scan of octets under the settings of a receiver. -/
def Config.scan (config : Config) (octets : Bytes) : Scan :=
  FramedLink.scan config.maxDeclared config.integrity octets

theorem Config.scan_append (config : Config) (octets more : Bytes) :
    config.scan (octets ++ more) =
      ⟨(config.scan octets).findings ++
          (config.scan ((config.scan octets).rest ++ more)).findings,
        (config.scan ((config.scan octets).rest ++ more)).rest⟩ :=
  Scan.scan_append octets more

namespace Reception

variable {r : Reception} {limit : Nat} {mode : Integrity}

def held (r : Reception) : Bytes :=
  r.region.region.slice 0 r.filled

/-- What is settled about the octets collected: nothing while they are no header, and an acceptable
header from then on. -/
inductive Settled (limit : Nat) (r : Reception) : Prop where
  | header (hpacket : r.packetSize = 0) (hpayload : r.payloadSize = 0)
      (hfilled : r.filled ≤ headerSize)
  | packet (header : Header) (hheader : Header.decode r.held = .ok header)
      (hlimit : header.payloadSize ≤ limit) (hpayload : r.payloadSize = header.payloadSize)
      (hpacket : r.packetSize = header.frameSize) (hcomplete : headerSize ≤ r.filled)
      (hfilled : r.filled ≤ header.frameSize)

/-- A reception into a region with room for every packet that is accepted. -/
structure Sound (limit : Nat) (r : Reception) : Prop where
  room : r.region.capacity = limit + frameOverhead
  settled : r.Settled limit

theorem Sound.of_deadline (h : r.Sound limit) (deadline : Option Millis) :
    ({ r with deadline } : Reception).Sound limit := by
  refine ⟨h.room, ?_⟩
  cases h.settled with
  | header h₁ h₂ h₃ => exact .header h₁ h₂ h₃
  | packet header h₁ h₂ h₃ h₄ h₅ h₆ => exact .packet header h₁ h₂ h₃ h₄ h₅ h₆

theorem Sound.filled_le (h : r.Sound limit) : r.filled ≤ r.region.capacity := by
  rw [h.room]
  cases h.settled with
  | header _ _ hfilled =>
    calc
      r.filled ≤ headerSize := hfilled
      _ ≤ limit + frameOverhead := by unfold frameOverhead; omega
  | packet header _ hlimit _ _ _ hfilled =>
    calc
      r.filled ≤ header.payloadSize + frameOverhead := hfilled
      _ ≤ limit + frameOverhead := Nat.add_le_add_right hlimit _

theorem Sound.wanted_le (h : r.Sound limit) : r.filled + r.wanted ≤ r.region.capacity := by
  have hfilled := h.filled_le
  rw [h.room] at hfilled ⊢
  unfold wanted
  cases h.settled with
  | header hpacket _ _ =>
    rw [if_neg (by omega)]
    unfold frameOverhead at hfilled ⊢
    omega
  | packet header _ hlimit _ hpacket _ _ =>
    rw [hpacket, Header.frameSize, if_pos (by unfold frameOverhead headerSize; omega)]
    omega

theorem Sound.length_held (h : r.Sound limit) : r.held.length = r.filled := by
  have hfilled := h.filled_le
  unfold Incoming.capacity at hfilled
  rw [held, Region.length_slice]
  omega

/-- While something is wanted, less than a header is held just as long as none was accepted. -/
theorem Sound.filled_lt_header_iff (h : r.Sound limit) (hwanted : 0 < r.wanted) :
    r.filled < headerSize ↔ r.packetSize = 0 := by
  unfold wanted at hwanted
  cases h.settled with
  | header hpacket _ _ =>
    rw [if_neg (by omega)] at hwanted
    omega
  | packet header _ _ _ hpacket hcomplete _ =>
    unfold Header.frameSize frameOverhead trailerSize at hpacket
    omega

/-- Something is asked for whenever something is ready and wanted. -/
theorem Sound.portion_pos (h : r.Sound limit) (hwanted : 0 < r.wanted) {ready : Nat}
    (hready : 0 < ready) : 0 < r.portion ready := by
  have hroom := h.wanted_le
  unfold portion
  omega

theorem portion_le_ready (r : Reception) (ready : Nat) : r.portion ready ≤ ready := by
  unfold portion
  omega

theorem portion_le_wanted (r : Reception) (ready : Nat) : r.portion ready ≤ r.wanted := by
  unfold portion
  omega

theorem held_of_filled (h : r.filled = 0) : r.held = [] := by
  rw [held, h, Region.slice_eq, List.take_zero, List.drop_nil]

@[simp]
theorem held_clear (r : Reception) : r.clear.held = [] :=
  held_of_filled rfl

theorem sound_clear (h : r.region.capacity = limit + frameOverhead) : r.clear.Sound limit :=
  ⟨h, .header rfl rfl (Nat.zero_le _)⟩

theorem wanted_clear (r : Reception) : 0 < r.clear.wanted := by
  simp [wanted, clear, headerSize]

theorem held_dropFront (hroom : r.filled ≤ r.region.capacity) {count : Nat}
    (hcount : count ≤ r.filled) : (r.dropFront count).held = r.held.drop count := by
  have hall : min r.filled r.region.capacity = r.filled := Nat.min_eq_left hroom
  have hrest : (r.region.region.slice count r.filled).length = r.filled - count := by
    unfold Incoming.capacity at hroom
    rw [Region.length_slice, Nat.min_eq_left hroom]
  have hkept : (r.region.region.overwrite 0 (r.region.region.slice count r.filled)).slice 0
      (0 + (r.region.region.slice count r.filled).length) =
      r.region.region.slice count r.filled :=
    Region.slice_overwrite_self (by unfold Incoming.capacity at hroom; omega)
  calc
    (r.dropFront count).held =
        (r.region.region.overwrite 0 (r.region.region.slice count r.filled)).slice 0
          (r.filled - count) := by
      simp only [held, dropFront, Incoming.discardFront, Incoming.store, hall,
        Nat.min_eq_left hcount]
    _ = r.region.region.slice count r.filled := by
      rw [hrest, Nat.zero_add] at hkept
      exact hkept
    _ = r.held.drop count := (Region.slice_suffix _ (Nat.zero_le _)).symm

/-- What is held between two turns is no finding yet. -/
theorem Sound.next?_held (h : r.Sound limit) (hwanted : 0 < r.wanted) :
    Scan.next? limit mode r.held = none := by
  have hlength := h.length_held
  unfold wanted at hwanted
  cases h.settled with
  | header hpacket _ _ =>
    rw [if_neg (by omega)] at hwanted
    exact Scan.next?_of_length_lt (by omega)
  | packet header hheader hlimit _ hpacket hcomplete _ =>
    rw [hpacket, Header.frameSize, if_pos (by unfold frameOverhead headerSize; omega)] at hwanted
    rw [Scan.next?_eq (hlength ▸ hcomplete), hheader]
    simp only [Nat.not_lt.mpr hlimit, if_false]
    rw [if_pos]
    unfold Header.frameSize
    omega

end Reception

/-- The counters after receiving has come to some findings. -/
def Counters.tally (counters : Counters) (findings : List Finding) : Counters :=
  { counters with
    badMagic := counters.badMagic + findings.count .badMarker
    oversize := counters.oversize + findings.count .oversize
    checksumFailures := counters.checksumFailures + findings.count .badTrailer }

@[simp]
theorem Counters.tally_nil (counters : Counters) : counters.tally [] = counters := rfl

theorem Counters.tally_append (counters : Counters) (first later : List Finding) :
    counters.tally (first ++ later) = (counters.tally first).tally later := by
  simp only [tally, List.count_append, Nat.add_assoc]

namespace Station

variable {s : Station} {limit : Nat} {mode : Integrity}

/-- The regions of a new endpoint have the sizes of its settings. -/
theorem room_initial {config : Config} (h : config.fault? = none) (localId : UInt32) :
    (initial config localId).reception.region.capacity = config.maxDeclared + frameOverhead ∧
      (initial config localId).outgoing.region.size = config.outSize := by
  obtain ⟨hin, -, hout, -⟩ := config.bounds_of_valid h
  unfold minRegionSize at hin hout
  have hincoming : max (config.inSize + trailerSize) frameOverhead =
      config.maxDeclared + frameOverhead := by
    unfold frameOverhead headerSize trailerSize at hin ⊢
    unfold Config.maxDeclared headerSize
    omega
  have houtgoing : max config.outSize frameOverhead = config.outSize := by omega
  constructor
  · exact (Array.size_replicate ..).trans hincoming
  · exact (Array.size_replicate ..).trans houtgoing

/-- Octets that are taken up stand behind those held. -/
theorem held_collect (hsound : s.reception.Sound limit) {octets : Bytes}
    (hlength : octets.length ≤ s.reception.wanted) :
    (s.collect octets octets.length).reception.held = s.reception.held ++ octets := by
  have hroom := hsound.wanted_le
  exact Region.slice_overwrite_append (Nat.zero_le _) (by unfold Incoming.capacity at hroom; omega)

theorem sound_collect (hsound : s.reception.Sound limit) {octets : Bytes}
    (hlength : octets.length ≤ s.reception.wanted) :
    (s.collect octets octets.length).reception.Sound limit := by
  have hheld := held_collect hsound hlength
  have hfilled : (s.collect octets octets.length).reception.filled =
      s.reception.filled + octets.length := rfl
  refine ⟨(Region.size_overwrite _ _ _).trans hsound.room, ?_⟩
  unfold Reception.wanted at hlength
  cases hsound.settled with
  | header hpacket hpayload hbefore =>
    rw [if_neg (by omega)] at hlength
    exact .header hpacket hpayload (by rw [hfilled]; omega)
  | packet header hheader hlimit hpayload hpacket hcomplete hbefore =>
    rw [hpacket, if_pos (by unfold Header.frameSize frameOverhead headerSize; omega)] at hlength
    have hdecoded : Header.decode (s.collect octets octets.length).reception.held = .ok header := by
      rw [hheld, Scan.decode_append (by rw [hsound.length_held]; exact hcomplete), hheader]
    exact .packet header hdecoded hlimit hpayload hpacket (by rw [hfilled]; omega)
      (by rw [hfilled]; omega)

/-! ## Judging a header -/

/-- The first marker is where the octets before it end. -/
theorem length_takeWhile_ne (octets : Bytes) :
    (octets.takeWhile (· != startMarker)).length =
      (octets.findIdx? (· == startMarker)).getD octets.length := by
  induction octets with
  | nil => rfl
  | cons b octets ih =>
    rw [List.findIdx?_cons, List.takeWhile_cons]
    by_cases hb : b = startMarker
    · simp [hb]
    · have hne : (b != startMarker) = true := by simpa using hb
      have hnot : (b == startMarker) = false := by simpa using hb
      rw [hne, hnot, if_pos rfl, if_neg (by decide), List.length_cons, ih]
      cases octets.findIdx? (· == startMarker) <;> rfl

/-- A rejected header leaves what follows its next start marker. -/
theorem held_resync (hroom : s.reception.region.capacity = limit + frameOverhead)
    (hfilled : s.reception.filled = headerSize) :
    s.resync.reception.held = Scan.afterRejected s.reception.held := by
  have hsize : headerSize ≤ s.reception.region.region.size := by
    unfold Incoming.capacity frameOverhead at hroom
    omega
  have htail : (s.reception.held.take headerSize).tail =
      s.reception.region.region.slice 1 s.reception.filled := by
    have hheld : s.reception.held.length = headerSize := by
      rw [Reception.held, Region.length_slice]
      omega
    rw [List.take_of_length_le (by omega), ← List.drop_one]
    exact Region.slice_suffix _ (Nat.zero_le 1)
  have hseven : (s.reception.region.region.slice 1 s.reception.filled).length = 7 := by
    rw [Region.length_slice, hfilled, Nat.min_eq_left hsize]
    rfl
  unfold resync Reception.nextMarker? Scan.afterRejected
  rw [htail, length_takeWhile_ne, hseven]
  cases hmarker : (s.reception.region.region.slice 1 s.reception.filled).findIdx?
      (· == startMarker) with
  | none =>
    have hall : 1 + 7 = headerSize := rfl
    have hdropped : s.reception.held.drop s.reception.filled = [] := by
      apply List.drop_of_length_le
      rw [Reception.held, Region.length_slice]
      omega
    rw [Option.map_none, Option.getD_none, hall, ← hfilled, hdropped]
    exact Reception.held_clear _
  | some position =>
    rw [Option.map_some, Option.getD_some, Nat.add_comm 1 position]
    have hposition : position < 7 :=
      hseven ▸ (List.findIdx?_eq_some_iff_getElem.mp hmarker).1
    exact Reception.held_dropFront (by unfold Incoming.capacity; omega) (by
      unfold headerSize at hfilled
      omega)

/-- What a step of receiving leaves when it has judged the octets held and found no frame: it has
counted the findings of a scan, and it holds what the scan has left. -/
structure Judged (s : Station) (found : Scan) (s' : Station) : Prop where
  frames : found.frames = []
  config : s'.config = s.config
  link : s'.link = s.link
  outgoing : s'.outgoing.region = s.outgoing.region
  dispatching : s'.dispatching = s.dispatching
  counters : s'.counters = s.counters.tally found.findings
  sound : s'.reception.Sound s.config.maxDeclared
  wanted : 0 < s'.reception.wanted
  held : s'.reception.held = found.rest
  deadline {time : Millis} : s'.reception.deadline = some time → s.reception.deadline = some time

/-- Nothing is found and nothing is done while something is wanted. -/
theorem judged_self (hsound : s.reception.Sound s.config.maxDeclared)
    (hwanted : 0 < s.reception.wanted) : s.Judged (s.config.scan s.reception.held) s := by
  have hnone : s.config.scan s.reception.held = ⟨[], s.reception.held⟩ :=
    Scan.scan_of_next?_none (hsound.next?_held hwanted)
  rw [hnone]
  exact ⟨rfl, rfl, rfl, rfl, rfl, rfl, hsound, hwanted, rfl, id⟩

theorem sound_resync (hroom : s.reception.region.capacity = limit + frameOverhead)
    (hfilled : s.reception.filled = headerSize) :
    s.resync.reception.Sound limit ∧ 0 < s.resync.reception.wanted := by
  unfold resync
  split
  case h_1 position hmarker =>
    have hpositive : 0 < position := by
      obtain ⟨before, -, hbefore⟩ := Option.map_eq_some_iff.mp hmarker
      omega
    have hrest : s.reception.filled - position < headerSize := by
      unfold headerSize at hfilled ⊢
      omega
    have hwanted : (s.reception.dropFront position).wanted =
        headerSize - (s.reception.filled - position) := rfl
    refine ⟨⟨(Region.size_overwrite _ _ _).trans hroom, .header rfl rfl (Nat.le_of_lt hrest)⟩, ?_⟩
    dsimp only
    rw [hwanted]
    omega
  case h_2 =>
    exact ⟨Reception.sound_clear hroom, Reception.wanted_clear _⟩

/-- Resuming behind a rejected header concerns the reception and the writing cursor only. -/
theorem resync_eq (s : Station) (counters : Counters) :
    ∃ cursor, ({ s with counters } : Station).resync =
      { s with
        counters
        reception := s.resync.reception
        outgoing := { s.outgoing with cursor } } := by
  cases hmarker : s.reception.nextMarker? with
  | none => exact ⟨headerSize, by simp only [resync, hmarker, clearReception, Outgoing.reset]⟩
  | some position => exact ⟨s.outgoing.cursor, by simp only [resync, hmarker]⟩

theorem deadline_resync {time : Millis} (h : s.resync.reception.deadline = some time) :
    s.reception.deadline = some time := by
  unfold resync at h
  split at h
  · exact h
  · cases h

/-- A rejected header is a finding, and resuming behind it leaves what the scanner leaves. -/
theorem judged_resync {finding : Finding} {counters : Counters}
    (hroom : s.reception.region.capacity = s.config.maxDeclared + frameOverhead)
    (hfilled : s.reception.filled = headerSize)
    (hfound : Scan.next? s.config.maxDeclared s.config.integrity s.reception.held =
      some (finding, Scan.afterRejected s.reception.held))
    (hfinding : finding.frame? = none) (hcounters : counters = s.counters.tally [finding]) :
    s.Judged (s.config.scan s.reception.held) ({ s with counters } : Station).resync := by
  obtain ⟨hsound, hwanted⟩ := sound_resync hroom hfilled
  have hheld : s.resync.reception.held = Scan.afterRejected s.reception.held :=
    held_resync hroom hfilled
  have hrest : scan s.config.maxDeclared s.config.integrity s.resync.reception.held =
      ⟨[], s.resync.reception.held⟩ :=
    Scan.scan_of_next?_none (hsound.next?_held hwanted)
  have hscan : s.config.scan s.reception.held =
      ⟨[finding], Scan.afterRejected s.reception.held⟩ := by
    rw [Config.scan, Scan.scan_of_next?_some hfound, ← hheld, hrest]
  obtain ⟨cursor, hresync⟩ := resync_eq s counters
  rw [hscan, hresync]
  refine ⟨?_, rfl, rfl, rfl, rfl, hcounters, hsound, hwanted, hheld, deadline_resync⟩
  rw [Scan.frames, List.filterMap_cons_none hfinding, List.filterMap_nil]

theorem judged_judgeHeader (hsound : s.reception.Sound s.config.maxDeclared)
    (hfilled : s.reception.filled = headerSize) :
    s.Judged (s.config.scan s.reception.held) s.judgeHeader.1 := by
  have hlength : s.reception.held.length = headerSize := hsound.length_held.trans hfilled
  have hheader : s.reception.header = Header.decode s.reception.held := by
    rw [Reception.header, Reception.held, hfilled]
  have hnext := @Scan.next?_eq s.config.maxDeclared s.config.integrity _
    (Nat.le_of_eq hlength.symm)
  unfold judgeHeader
  rw [hheader]
  split
  case h_1 header hdecoded =>
    rw [hdecoded] at hnext
    dsimp only at hnext
    split
    case isTrue hlimit =>
      have hshort : s.reception.held.length < header.frameSize := by
        rw [hlength, Header.frameSize, frameOverhead]
        unfold trailerSize
        omega
      rw [if_neg (Nat.not_lt.mpr hlimit), if_pos hshort] at hnext
      have hnone : s.config.scan s.reception.held = ⟨[], s.reception.held⟩ :=
        Scan.scan_of_next?_none hnext
      have haccepted : Reception.Sound s.config.maxDeclared
          { s.reception with
            payloadSize := header.payloadSize
            packetSize := header.frameSize } :=
        ⟨hsound.room, .packet header hdecoded hlimit rfl rfl (Nat.le_of_eq hfilled.symm)
          (by dsimp only; omega)⟩
      rw [hnone]
      refine ⟨rfl, rfl, rfl, rfl, rfl, rfl, haccepted, ?_, rfl, id⟩
      unfold Reception.wanted
      dsimp only
      rw [if_pos (by omega)]
      omega
    case isFalse hlimit =>
      rw [if_pos (Nat.lt_of_not_le hlimit)] at hnext
      exact judged_resync hsound.room hfilled hnext rfl rfl
  case h_2 error hdecoded =>
    rw [hdecoded] at hnext
    exact judged_resync hsound.room hfilled hnext rfl rfl

/-! ## Judging a packet -/

end Station

namespace Reception

variable {r : Reception} {limit : Nat} {mode : Integrity} {header : Header}

/-- A reception that holds a packet, from its accepted header to the end of its trailer. -/
structure Whole (limit : Nat) (header : Header) (r : Reception) : Prop where
  sound : r.Sound limit
  decoded : Header.decode r.held = .ok header
  fits : header.payloadSize ≤ limit
  payload : r.payloadSize = header.payloadSize
  length : r.held.length = header.frameSize

/-- A packet is whole when as much is held as its header announces. -/
theorem Sound.whole (h : r.Sound limit) (hpacket : 0 < r.packetSize)
    (hcomplete : r.packetSize ≤ r.filled) : ∃ header, r.Whole limit header := by
  cases h.settled with
  | header hnone _ _ => exact absurd hnone (by omega)
  | packet header hheader hlimit hpayload hsize _ hfilled =>
    rw [hsize] at hcomplete
    have hlength : r.held.length = header.frameSize := calc
      r.held.length = r.filled := h.length_held
      _ = header.frameSize := Nat.le_antisymm hfilled hcomplete
    exact ⟨header, h, hheader, hlimit, hpayload, hlength⟩

namespace Whole

theorem filled (h : r.Whole limit header) :
    r.filled = headerSize + header.payloadSize + trailerSize := by
  rw [← h.sound.length_held, h.length]
  unfold Header.frameSize frameOverhead
  omega

theorem header_eq (h : r.Whole limit header) : r.header = .ok header := by
  have hheld : headerSize ≤ r.filled := by
    rw [h.filled]
    omega
  rw [Reception.header, ← Region.slice_prefix _ hheld, ← h.decoded]
  apply Scan.decode_take
  rw [← held, h.length, Header.frameSize, frameOverhead]
  omega

theorem body_eq (h : r.Whole limit header) :
    r.body = r.held.take (headerSize + header.payloadSize) := by
  have hend : headerSize + header.payloadSize ≤ r.filled := by
    rw [h.filled]
    exact Nat.le_add_right _ _
  rw [body, h.payload]
  exact (Region.slice_prefix _ hend).symm

theorem trailer_eq (h : r.Whole limit header) :
    r.trailer = UInt16.ofNat (LittleEndian.value
      (r.held.drop (headerSize + header.payloadSize))) := by
  have hrest : r.held.drop (headerSize + header.payloadSize) =
      r.region.region.slice (headerSize + header.payloadSize) r.filled :=
    Region.slice_suffix _ (Nat.zero_le _)
  rw [trailer, h.payload, hrest, h.filled]

/-- The payload that is opened to readers is that of the packet. -/
theorem payload_open (h : r.Whole limit header) :
    (r.region.openPayload r.payloadSize).payload = r.body.drop headerSize := by
  have hroom : r.filled ≤ r.region.capacity := h.sound.filled_le
  have hend : min (headerSize + r.payloadSize) r.region.capacity = headerSize + r.payloadSize := by
    rw [h.filled, ← h.payload] at hroom
    omega
  calc
    (r.region.openPayload r.payloadSize).payload =
        r.region.region.slice headerSize (headerSize + r.payloadSize) := by
      rw [Incoming.payload, Incoming.openPayload, hend]
    _ = r.body.drop headerSize := (Region.slice_suffix _ (Nat.zero_le headerSize)).symm

theorem length_payload_open (h : r.Whole limit header) :
    (r.region.openPayload r.payloadSize).payload.length = header.payloadSize := by
  calc
    (r.region.openPayload r.payloadSize).payload.length = (r.body.drop headerSize).length := by
      rw [h.payload_open]
    _ = min (headerSize + header.payloadSize) header.frameSize - headerSize := by
      rw [h.body_eq, List.length_drop, List.length_take, h.length]
    _ = header.payloadSize := by
      rw [Header.frameSize, frameOverhead]
      omega

/-- All that a scan finds is the packet. -/
theorem scan_held (h : r.Whole limit header) :
    FramedLink.scan limit mode r.held = ⟨[Scan.judge mode header r.held], []⟩ := by
  have hheader : headerSize ≤ r.held.length := by
    rw [h.length, Header.frameSize, frameOverhead]
    omega
  have hnext : Scan.next? limit mode r.held = some (Scan.judge mode header r.held, []) := by
    rw [Scan.next?_eq hheader, h.decoded]
    dsimp only
    rw [if_neg (Nat.not_lt.mpr h.fits), if_neg (Nat.not_lt.mpr (Nat.le_of_eq h.length.symm)),
      ← h.length, List.take_length, List.drop_length]
  have hend : FramedLink.scan limit mode [] = ⟨[], []⟩ := Scan.scan_of_next?_none rfl
  rw [Scan.scan_of_next?_some hnext, hend]

end Whole

end Reception

namespace Station

variable {s : Station}

/-- A complete packet is judged as the scanner judges it: it is a frame, with the payload that is
opened to readers, or its trailer is refused. -/
theorem judgePacket_cases (hsound : s.reception.Sound s.config.maxDeclared)
    (hpacket : 0 < s.reception.packetSize)
    (hcomplete : s.reception.packetSize ≤ s.reception.filled) :
    (∃ header, s.judgePacket = .deliver header ∧
      s.openPacket.reception.region.payload.length = header.payloadSize ∧
      s.config.scan s.reception.held =
        ⟨[.frame ⟨header, s.openPacket.reception.region.payload⟩], []⟩) ∨
    ∃ error, s.judgePacket = .badTrailer error ∧
      s.config.scan s.reception.held = ⟨[.badTrailer], []⟩ := by
  obtain ⟨header, hwhole⟩ := hsound.whole hpacket hcomplete
  have hopened : s.openPacket.reception.region.payload = s.reception.body.drop headerSize :=
    hwhole.payload_open
  have hscan : s.config.scan s.reception.held =
      ⟨[Scan.judge s.config.integrity header s.reception.held], []⟩ := hwhole.scan_held
  rw [hscan, hopened]
  unfold judgePacket Scan.judge
  dsimp only
  rw [← hwhole.body_eq, ← hwhole.trailer_eq]
  cases s.config.integrity.verify s.reception.body s.reception.trailer with
  | ok =>
    left
    refine ⟨header, ?_, ?_, rfl⟩
    · rw [hwhole.header_eq]
    · rw [← hopened]
      exact hwhole.length_payload_open
  | error error =>
    right
    exact ⟨error, rfl, rfl⟩

/-- A packet whose trailer is refused is counted, and nothing of it is kept. -/
theorem judged_badTrailer (hsound : s.reception.Sound s.config.maxDeclared) :
    s.Judged ⟨[.badTrailer], []⟩
      ({ s with counters :=
        { s.counters with
          checksumFailures := s.counters.checksumFailures + 1 } } : Station).clearReception :=
  ⟨rfl, rfl, rfl, rfl, rfl, rfl, Reception.sound_clear hsound.room, Reception.wanted_clear _,
    Reception.held_clear _, fun h ↦ nomatch h⟩

end Station

end FramedLink
