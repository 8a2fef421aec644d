import FramedLink.Proofs.Texts
import FramedLink.Proofs.Tool.Recording
import FramedLink.Tool.Run

/-!
# Captures

What is found in a capture is the scan of its octets: the records are its frames, whatever their
types, and the counters are those of its findings (`Capture.ofOctets_scans`). A frame is dispatched
just if it is recorded (`Capture.Scans.framesDispatched`). Decoding on the command line reports on
such a capture (`runDecode_eq`).
-/

namespace FramedLink

namespace Books

/-- The handlers of the handshake do not count frames as dispatched. -/
theorem framesDispatched_handshake (frame : Frame) (books : Books) :
    (books.handshake frame).counters.framesDispatched = books.counters.framesDispatched := by
  have hmeet (id : UInt32) (books : Books) :
      (books.meet id).counters.framesDispatched = books.counters.framesDispatched := by
    unfold meet
    split <;> rfl
  unfold handshake
  split
  · cases ConnectMessage.decode? frame.payload with
    | none => rfl
    | some message =>
      rw [Option.elim_some, request]
      split
      · exact hmeet message.connId books
      · exact hmeet message.connId books
  · split
    · cases ConnectMessage.decode? frame.payload with
      | none => rfl
      | some message =>
        rw [Option.elim_some, response, raise]
        split
        · exact hmeet message.connId _
        · exact hmeet message.connId _
    · rfl

/-- Each frame that was found was dispatched once. -/
theorem framesDispatched_ofFindings (types : List UInt8) (findings : List Finding) :
    (ofFindings types findings).counters.framesDispatched =
      (findings.filterMap Finding.frame?).length := by
  have hfold (books : Books) : (findings.foldl (enter types) books).counters.framesDispatched =
      books.counters.framesDispatched + (findings.filterMap Finding.frame?).length := by
    induction findings generalizing books with
    | nil => rfl
    | cons finding findings ih =>
      rw [List.foldl_cons, ih]
      cases finding with
      | frame frame =>
        have hcounted : (books.dispatch types frame).counters.framesDispatched =
            books.counters.framesDispatched + 1 :=
          congrArg (· + 1) (framesDispatched_handshake frame books)
        rw [enter, hcounted, Nat.add_assoc, Nat.add_comm 1]
        rfl
      | badMarker | oversize | badTrailer => rfl
  exact (hfold {}).trans (Nat.zero_add _)

end Books

namespace Tool

theorem mem_allTypes (type : UInt8) : type ∈ allTypes :=
  List.mem_map.mpr ⟨type.toNat, List.mem_range.mpr type.toNat_lt, UInt8.ofNat_toNat⟩

theorem nodup_allTypes : allTypes.Nodup := by
  apply List.Nodup.map_on _ List.nodup_range
  intro m hm n hn h
  have hm := Text.Utf8.toNat_ofNat (List.mem_range.mp hm)
  have hn := Text.Utf8.toNat_ofNat (List.mem_range.mp hn)
  rw [← hm, ← hn, h]

/-- All frames are of some type. -/
theorem recordsOf_allTypes (findings : List Finding) :
    recordsOf allTypes findings = (findings.filterMap Finding.frame?).map .ofFrame := by
  have hall : ((findings.filterMap Finding.frame?).filter fun frame ↦
      decide (frame.header.type ∈ allTypes)) = findings.filterMap Finding.frame? :=
    List.filter_eq_self.mpr fun frame _ ↦ decide_eq_true (mem_allTypes frame.header.type)
  rw [recordsOf, hall]

namespace Capture

variable {config : Config}

def port : Port RegularFile FrameRecord :=
  .memory 0 1 [] (by decide)

/-- What is found in a capture is the scan of its octets. -/
structure Scans (config : Config) (octets : Bytes) (capture : Capture) : Prop where
  error : capture.error = none
  records : capture.records = recordsOf allTypes (config.scan octets).findings
  counters : capture.counters =
    (Books.ofFindings allTypes (config.scan octets).findings).counters
  buffered : capture.buffered = (config.scan octets).rest.length

/-- A capture is searched to its end. -/
theorem ofOctets_scans (hvalid : config.fault? = none) (ids : IdSupply) (octets : Bytes) :
    ∃ capture, ofOctets config ids octets = .ok capture ∧ capture.Scans config octets := by
  obtain ⟨created, hcreate, hstill, -⟩ := Bench.create_eq hvalid port.channel (desk ids octets)
  let start : Endpoint Desk := recordTypes allTypes (.ofConfig config ids.draw.1)
  have hsound : port.Sound ⟨octets, [], []⟩ created.lines := by
    rw [hstill.lines]
    exact ⟨rfl, rfl, rfl⟩
  have hshows : created.Shows (· = 0) := hstill.shows ⟨fun _ ↦ rfl, List.forall_mem_nil _⟩
  have hsurveyed : Endpoint.Surveyed port config ids.draw.1 allTypes [] octets []
      (start.poll environment (octets.length + 1) created) :=
    (Endpoint.recorder_recordTypes config ids.draw.1 allTypes).poll hvalid nodup_allTypes hsound
      hstill.journal hshows (punctual_eq _ 0) (fun _ _ ↦ id) (Nat.lt_succ_self _)
  have hcreate : Endpoint.create environment config (desk ids octets) =
      (.ok (.ofConfig config ids.draw.1), created) := hcreate
  unfold ofOctets
  rw [hcreate]
  dsimp only
  generalize start.poll environment (octets.length + 1) created = result at hsurveyed ⊢
  obtain ⟨outcome, endpoint, desk⟩ := result
  obtain ⟨houtcome, -, hrecords, hcounters, hbuffered, -⟩ := hsurveyed
  dsimp only at houtcome
  subst houtcome
  exact ⟨_, rfl, rfl, hrecords, hcounters, hbuffered⟩

/-- A frame was dispatched just if one was recorded. -/
theorem Scans.framesDispatched {octets : Bytes} {capture : Capture}
    (h : capture.Scans config octets) :
    capture.counters.framesDispatched = capture.records.length := by
  calc
    capture.counters.framesDispatched =
        ((config.scan octets).findings.filterMap Finding.frame?).length := by
      rw [h.counters, Books.framesDispatched_ofFindings]
    _ = (recordsOf allTypes (config.scan octets).findings).length := by
      rw [recordsOf_allTypes, List.length_map]
    _ = capture.records.length := by rw [h.records]

end Capture

/-- Settings that were accepted are valid. -/
theorem SettingsOptions.fault?_of_resolve {options : SettingsOptions} {folder : Folder}
    {config : Config} (h : options.resolve folder = .ok config) : config.fault? = none := by
  unfold resolve at h
  split at h
  · cases h
  · dsimp only at h
    split at h
    · cases h
      assumption
    · cases h

/-- What comes of decoding with valid settings, where the input can be read. -/
theorem runDecode_eq (layout : Layout) {options : DecodeOptions} {around : Surroundings}
    {config : Config} {octets : Bytes}
    (hsettings : options.settings.resolve around.folder = .ok config)
    (hread : options.read around.folder around.input = .ok octets) :
    ∃ capture, Capture.ofOctets config around.ids octets = .ok capture ∧
      capture.Scans config octets ∧
      runDecode layout options around =
        reportCapture layout options.counters octets.length capture around := by
  obtain ⟨capture, hcapture, hscans⟩ := Capture.ofOctets_scans
    (SettingsOptions.fault?_of_resolve hsettings) around.ids octets
  refine ⟨capture, hcapture, hscans, ?_⟩
  simp only [runDecode, hread, hsettings, hcapture]

end Tool

end FramedLink
