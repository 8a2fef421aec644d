import FramedLink.Proofs.Tool.Captures

/-!
# Listening to a regular file

A regular file is read to its end before anything is written to it, so the first poll finds all that
was in it, and the second finds it closed (`Listening.run_device`). Listening without asking for a
connection therefore shows what decoding the contents of the file finds: all of it, or the wanted
types of it, up to the wanted number (`runListen_decodes`). The answers that it gives are appended
to the file, and are not read.
-/

namespace FramedLink

namespace Tool

open Endpoint

theorem recordsOf_filter (wanted : UInt8 → Bool) (findings : List Finding) :
    recordsOf (allTypes.filter wanted) findings =
      (recordsOf allTypes findings).filter (wanted ·.type) := by
  have hwanted (frame : Frame) :
      decide (frame.header.type ∈ allTypes.filter wanted) = wanted frame.header.type := by
    rw [Bool.eq_iff_iff, decide_eq_true_iff, List.mem_filter]
    exact and_iff_right (mem_allTypes _)
  rw [recordsOf_allTypes, recordsOf, List.filter_map]
  simp only [hwanted]
  rfl

namespace Listening

variable {options : ListenOptions} {config : Config} {id : UInt32} {types : List UInt8}
variable {contents : Bytes} {records : List FrameRecord} {progress : Progress}
variable {paced : Millis → Prop}

/-- The port of a device that is a regular file. -/
def port : Port RegularFile FrameRecord :=
  .file 0

/-- The readings of the clock in the turns that find octets, poll by poll. -/
def Progress.readings (options : ListenOptions) (fuel : Nat) :
    (rounds : Nat) → Progress → List (List Millis)
  | 0, _ => []
  | rounds + 1, progress =>
    match progress.request options with
    | (.fail _, _) => []
    | (_, progress) =>
      progress.endpoint.turnReadings environment fuel progress.desk ::
        match progress.receive options fuel with
        | (.goOn, progress) => Progress.readings options fuel rounds progress
        | _ => []

/-- The readings of the clock while a device is listened to, poll by poll. -/
def readings (options : ListenOptions) (config : Config) (clock : List Millis) (ids : IdSupply)
    (contents : Bytes) : List (List Millis) :=
  match Endpoint.create environment config (desk clock ids contents) with
  | (.error _, _) => []
  | (.ok endpoint, desk) =>
    let desk := desk.note (.listening options.device endpoint.link.localId config.advertisedLimit)
    Progress.readings options (contents.length + 1) (contents.length + 2)
      { endpoint := prepare options endpoint, desk }

theorem recorder_prepare (options : ListenOptions) (config : Config) (id : UInt32) :
    Recorder config id (allTypes.filter (wants options))
      (prepare options (.ofConfig config id)) := by
  have hrecorder := recorder_recordTypes config id (allTypes.filter (wants options))
  unfold prepare addResetCallback addLinkCallback
  dsimp only
  refine ⟨hrecorder.station, hrecorder.handlers, ?_, ?_⟩
  · exact List.forall_mem_append.mpr
      ⟨hrecorder.resets, List.forall_mem_singleton.mpr ⟨_, rfl⟩⟩
  · exact List.forall_mem_append.mpr
      ⟨hrecorder.links, List.forall_mem_singleton.mpr fun _ ↦ ⟨_, rfl⟩⟩

/-- All of `wanted` was shown, in a round of its own unless there was nothing. -/
def ShownOnce (wanted : List FrameRecord) (rounds : List (List FrameRecord)) : Prop :=
  rounds = [] ∧ wanted = [] ∨ rounds = [wanted]

/-- The device was read to its end, and what was wanted of its records was shown. -/
structure Told (options : ListenOptions) (config : Config) (id : UInt32) (types : List UInt8)
    (contents : Bytes) (progress : Progress) : Prop where
  receiving : progress.endpoint.Receiving config
  rounds : ShownOnce (room options 0 (recordsOf types (config.scan contents).findings))
    progress.rounds
  counters : progress.endpoint.counters =
    (Books.ofFindings types (config.scan contents).findings).counters
  atHand : port.AtHand
    { left := []
      written := contents ++
        (List.replicate progress.endpoint.counters.framesSent (config.reply id)).flatten }
    progress.desk.lines

theorem room_nil (options : ListenOptions) (shown : Nat) : room options shown [] = [] := by
  unfold room
  cases options.count with
  | none => rfl
  | some count => exact List.take_nil

/-- A round after a poll that dispatched packets shows the records that were made. -/
theorem present_of_packets {packets : Nat} (hsome : packets ≠ 0) (hrounds : progress.rounds = [])
    (hshown : progress.shown = 0) :
    ∃ verdict rounds shown, (verdict = .goOn ∨ verdict = .stop) ∧
      ShownOnce (room options 0 progress.desk.journal.reverse) rounds ∧
      progress.present options packets =
        (verdict, { progress with desk := (takeRecords progress.desk).2, rounds, shown }) := by
  unfold Progress.present takeRecords
  dsimp only
  cases hempty : progress.desk.journal.reverse with
  | nil =>
    refine ⟨.goOn, progress.rounds, progress.shown, .inl rfl, ?_, ?_⟩
    · exact .inl ⟨hrounds, room_nil options 0⟩
    · rw [if_pos List.isEmpty_nil, if_neg hsome]
  | cons record records =>
    rw [if_neg (by exact Bool.false_ne_true), hrounds, hshown]
    refine ⟨_, _, _, ?_, .inr rfl, rfl⟩
    split
    · exact .inr rfl
    · exact .inl rfl

/-- A device that was read to its end is found closed. -/
theorem Told.receive (h : Told options config id types contents progress) (fuel : Nat) :
    ∃ progress', progress.receive options (fuel + 1) = (.stop, progress') ∧
      Told options config id types contents progress' := by
  obtain ⟨desk, hpoll, hhand⟩ := h.receiving.poll_closed (port.sound h.atHand) rfl rfl fuel
  have hpoll : progress.endpoint.poll environment (fuel + 1) progress.desk =
      (.failed (.channel .closed), progress.endpoint, desk) := hpoll
  unfold Progress.receive
  rw [hpoll]
  refine ⟨_, rfl, h.receiving, h.rounds, h.counters, ?_⟩
  exact (desk.still_note .deviceClosed).lines ▸ hhand

theorem request_eq (hconnect : options.connect = false) (progress : Progress) :
    progress.request options = (.goOn, progress) := by
  rw [Progress.request, hconnect]
  rfl

/-- Nothing more is shown once a device was read to its end. -/
theorem Told.run (h : Told options config id types contents progress)
    (hconnect : options.connect = false) (fuel rounds : Nat) :
    ∃ progress', Progress.run options (fuel + 1) (rounds + 1) progress = (none, progress') ∧
      Told options config id types contents progress' := by
  obtain ⟨progress', hreceive, htold⟩ := h.receive fuel
  refine ⟨progress', ?_, htold⟩
  simp only [Progress.run, request_eq hconnect, hreceive]

/-- The first round reads a device to its end. -/
theorem receive_told {endpoint : Endpoint Desk} {desk : Desk}
    (hrecorder : Recorder config id types endpoint) (hvalid : config.fault? = none)
    (hnodup : types.Nodup) (hsound : port.Sound ⟨contents, contents, []⟩ desk.lines)
    (hjournal : desk.journal = []) {fuel : Nat}
    (hpaced : Punctual config.stallTimeout (· ∈ endpoint.turnReadings environment fuel desk))
    (hfuel : contents.length < fuel) :
    ∃ verdict progress, (verdict = .goOn ∨ verdict = .stop) ∧
      Progress.receive options fuel { endpoint, desk } = (verdict, progress) ∧
      Told options config id types contents progress := by
  have hsurveyed : Surveyed port config id types contents contents []
      (endpoint.poll environment fuel desk) :=
    @Recorder.poll port config id (fun _ ↦ True) _ types contents contents endpoint desk hrecorder
      hvalid hnodup [] hsound hjournal ⟨fun _ ↦ trivial, fun _ _ ↦ trivial⟩ hpaced fuel
      (fun _ hmem _ ↦ hmem) hfuel
  unfold Progress.receive
  dsimp only
  generalize endpoint.poll environment fuel desk = result at hsurveyed ⊢
  obtain ⟨outcome, endpoint, desk⟩ := result
  obtain ⟨houtcome, hreceiving, hrecords, hcounters, -, hhand⟩ := hsurveyed
  dsimp only at houtcome hreceiving hrecords hcounters hhand ⊢
  have hframes : (config.scan contents).frames.length = 0 →
      recordsOf types (config.scan contents).findings = [] := by
    intro hnone
    have hnone : (config.scan contents).findings.filterMap Finding.frame? = [] :=
      List.length_eq_zero_iff.mp hnone
    rw [recordsOf, hnone]
    rfl
  by_cases hsome : (config.scan contents).frames.length = 0
  · have hclosed : port.outcome (config.scan contents).frames.length =
        .failed (.channel .closed) := if_pos ⟨rfl, hsome⟩
    rw [houtcome, hclosed]
    refine ⟨.stop, _, .inr rfl, rfl, hreceiving, ?_, hcounters, ?_⟩
    · rw [hframes hsome, room_nil]
      exact .inl ⟨rfl, rfl⟩
    · exact (desk.still_note .deviceClosed).lines ▸ hhand
  · have hdone : port.outcome (config.scan contents).frames.length =
        .done (config.scan contents).frames.length := if_neg fun h ↦ hsome h.2
    obtain ⟨verdict, rounds, shown, hverdict, honce, hpresent⟩ :=
      @present_of_packets options { endpoint, desk } _ hsome rfl rfl
    rw [houtcome, hdone]
    dsimp only
    rw [hpresent]
    exact ⟨verdict, _, hverdict, rfl, hreceiving, hrecords ▸ honce, hcounters, hhand⟩

/-- Listening to a regular file shows what is wanted of the records of its contents. -/
theorem run_device {endpoint : Endpoint Desk} {desk : Desk}
    (hrecorder : Recorder config id types endpoint) (hvalid : config.fault? = none)
    (hnodup : types.Nodup) (hsound : port.Sound ⟨contents, contents, []⟩ desk.lines)
    (hjournal : desk.journal = []) (hconnect : options.connect = false) {fuel : Nat} (rounds : Nat)
    (hpaced : ∀ polled ∈ Progress.readings options (fuel + 1) (rounds + 2) { endpoint, desk },
      Punctual config.stallTimeout (· ∈ polled))
    (hfuel : contents.length < fuel + 1) :
    ∃ progress, Progress.run options (fuel + 1) (rounds + 2) { endpoint, desk } = (none, progress) ∧
      Told options config id types contents progress := by
  have hfirst : endpoint.turnReadings environment (fuel + 1) desk ∈
      Progress.readings options (fuel + 1) (rounds + 2) { endpoint, desk } := by
    rw [Progress.readings, request_eq hconnect]
    exact List.mem_cons_self
  obtain ⟨verdict, progress, hverdict, hreceive, htold⟩ :=
    @receive_told options config id types contents endpoint desk hrecorder hvalid hnodup hsound
      hjournal _ (hpaced _ hfirst) hfuel
  rw [Progress.run, request_eq hconnect]
  dsimp only
  rw [hreceive]
  rcases hverdict with rfl | rfl
  · exact htold.run hconnect fuel rounds
  · exact ⟨progress, rfl, htold⟩

/-- The records that are asked for: those of the wanted types, up to the wanted number. -/
def asked (options : ListenOptions) (records : List FrameRecord) : List FrameRecord :=
  let wanted := records.filter fun record ↦ options.types.all (record.type ∈ ·)
  options.count.elim wanted wanted.take

/-- What listening to a regular file leaves, as told by what a capture of the same contents holds:
of its records those that are asked for, and its counters if all types are wanted. Only answers were
written behind the contents. -/
structure Agrees (options : ListenOptions) (config : Config) (id : UInt32) (contents : Bytes)
    (capture : Capture) (listening : Listening) : Prop where
  failure : listening.failure = none
  rounds : ShownOnce (asked options capture.records) listening.rounds
  counters : options.types = none → listening.counters = capture.counters
  contents : listening.contents =
    contents ++ (List.replicate listening.counters.framesSent (config.reply id)).flatten

/-- Listening to a regular file agrees with decoding its contents. -/
theorem ofContents_agrees (hvalid : config.fault? = none) (hconnect : options.connect = false)
    {clock : List Millis} {ids : IdSupply}
    (hpaced : ∀ polled ∈ readings options config clock ids contents,
      Punctual config.stallTimeout (· ∈ polled)) {capture : Capture}
    (hscans : capture.Scans config contents) :
    ∃ listening, ofContents options config clock ids contents = .ok listening ∧
      Agrees options config ids.draw.1 contents capture listening := by
  obtain ⟨created, hcreate, hstill, -⟩ :=
    Bench.create_eq hvalid port.channel (desk clock ids contents)
  have hcreate : Endpoint.create environment config (desk clock ids contents) =
      (.ok (.ofConfig config ids.draw.1), created) := hcreate
  let told : Desk := created.note (.listening options.device ids.draw.1 config.advertisedLimit)
  have hstill :=
    calc
      (desk clock ids contents).Still created := hstill
      Bench.Still _ told := created.still_note _
  have hsound : port.Sound ⟨contents, contents, []⟩ told.lines := by
    rw [hstill.lines]
    exact ⟨.ofStream { ahead := contents }, ⟨rfl, rfl, rfl, rfl⟩, fun hended ↦ nomatch hended⟩
  have hnodup : (allTypes.filter (wants options)).Nodup := nodup_allTypes.filter _
  unfold readings at hpaced
  rw [hcreate] at hpaced
  obtain ⟨progress, hrun, htold⟩ := run_device (recorder_prepare options config ids.draw.1) hvalid
    hnodup hsound hstill.journal hconnect contents.length hpaced (Nat.lt_succ_self _)
  refine ⟨ofProgress none progress, ?_, ?_⟩
  · unfold ofContents
    rw [hcreate]
    exact congrArg (fun run : Option Failure × Progress ↦ Except.ok (ofProgress run.1 run.2)) hrun
  · obtain ⟨channel, hfiled, -⟩ := (progress.desk.still_note
      (.listenFinished progress.endpoint.counters)).lines ▸ htold.atHand
    constructor
    case failure => rfl
    case rounds =>
      have hrounds := htold.rounds
      rw [recordsOf_filter, ← hscans.records] at hrounds
      rcases hrounds with ⟨hnone, hasked⟩ | hone
      · exact .inl ⟨congrArg List.reverse hnone, hasked⟩
      · exact .inr (congrArg List.reverse hone)
    case counters =>
      intro hall
      have hwants : allTypes.filter (wants options) = allTypes :=
        List.filter_eq_self.mpr fun type _ ↦ by rw [wants, hall]; rfl
      calc
        progress.endpoint.counters = (Books.ofFindings (allTypes.filter (wants options))
            (config.scan contents).findings).counters := htold.counters
        _ = (Books.ofFindings allTypes (config.scan contents).findings).counters := by rw [hwants]
        _ = capture.counters := hscans.counters.symm
    case contents =>
      let finished := progress.desk.note (.listenFinished progress.endpoint.counters)
      calc
        ((Bench.stream 0).get finished).stream.contents = channel.stream.contents := by
          rw [Port.get_stream hfiled.place]
        _ = contents ++ (List.replicate progress.endpoint.counters.framesSent
            (config.reply ids.draw.1)).flatten := hfiled.written

end Listening

/-- Outside of tables, nothing is printed of no records. -/
theorem FrameRecord.report_nil {layout : Layout} (h : layout ≠ .table) (time : Nat) :
    FrameRecord.report layout time [] = [] := by
  cases layout with
  | table => exact absurd rfl h
  | json | pretty | raw => rfl

/-- What decoding some contents prints, and when it fails. -/
structure Decodes (layout : Layout) (options : DecodeOptions) (around : Surroundings)
    (config : Config) (contents : Bytes) (capture : Capture) : Prop where
  found : Capture.ofOctets config around.ids contents = .ok capture
  output : (runDecode layout options around).output =
    FrameRecord.report layout around.time capture.records ++
      if options.counters then reportCounters layout capture.counters else []
  failure : (runDecode layout options around).failure = none ↔
    capture.records ≠ [] ∨ contents = []
  folder : (runDecode layout options around).folder = around.folder

theorem exists_decodes (layout : Layout) {options : DecodeOptions} {around : Surroundings}
    {config : Config} {contents : Bytes}
    (hsettings : options.settings.resolve around.folder = .ok config)
    (hread : options.read around.folder around.input = .ok contents) :
    ∃ capture, Decodes layout options around config contents capture ∧
      capture.Scans config contents := by
  obtain ⟨capture, hcapture, hscans, hdecoded⟩ := runDecode_eq layout hsettings hread
  refine ⟨capture, ⟨hcapture, ?_, ?_, ?_⟩, hscans⟩ <;>
    rw [hdecoded, reportCapture, hscans.error]
  dsimp only
  rw [ite_eq_right_iff, List.isEmpty_iff, List.length_pos_iff]
  constructor
  · intro hnone
    by_contra hboth
    rw [not_or, not_not] at hboth
    cases hnone hboth
  · rintro hsome ⟨hrecords, hcontents⟩
    exact absurd hsome (not_or.mpr ⟨not_not.mpr hrecords, hcontents⟩)

/-- What listening to a device prints and leaves of it, where it does not fail. -/
structure Listens (layout : Layout) (options : ListenOptions) (around : Surroundings)
    (config : Config) (contents : Bytes) (listening : Listening) : Prop where
  heard : Listening.ofContents options config around.readings around.ids contents = .ok listening
  output : (runListen layout options around).output =
    listening.rounds.flatMap (FrameRecord.report layout around.time) ++
      reportCounters layout listening.counters
  failure : (runListen layout options around).failure = none
  folder : (runListen layout options around).folder =
    around.folder.put options.device (.ok listening.contents)

theorem listens_of_ofContents (layout : Layout) {options : ListenOptions} {around : Surroundings}
    {config : Config} {contents : Bytes} {listening : Listening}
    (hsettings : options.settings.resolve around.folder = .ok config)
    (hopen : around.folder.open? options.device = .ok contents)
    (hheard :
      Listening.ofContents options config around.readings around.ids contents = .ok listening)
    (hfailure : listening.failure = none) :
    Listens layout options around config contents listening := by
  have hrun : runListen layout options around =
      reportListening layout options.device listening around := by
    simp only [runListen, hsettings, hopen, hheard]
  refine ⟨hheard, ?_, ?_, ?_⟩ <;> rw [hrun, reportListening, hfailure]
  rfl

/-- What listening prints beside what decoding prints. Nothing and an empty table are the only
difference that the layout can make. -/
structure PrintsAlike (layout : Layout) (options : ListenOptions) (around : Surroundings)
    (decoding : DecodeOptions) (decoded : Surroundings) (capture : Capture)
    (listening : Listening) : Prop where
  asked (h : layout ≠ .table ∨ Listening.asked options capture.records ≠ []) :
    (runListen layout options around).output =
      FrameRecord.report layout around.time (Listening.asked options capture.records) ++
        reportCounters layout listening.counters
  all (h : layout ≠ .table ∨ capture.records ≠ []) (htypes : options.types = none)
    (hcount : options.count = none) (hcounters : decoding.counters = true)
    (htime : around.time = decoded.time) :
    (runListen layout options around).output = (runDecode layout decoding decoded).output

theorem Listening.Agrees.printsAlike {layout : Layout} {options : ListenOptions}
    {around decoded : Surroundings} {decoding : DecodeOptions} {config : Config} {id : UInt32}
    {contents : Bytes} {capture : Capture} {listening : Listening}
    (h : listening.Agrees options config id contents capture)
    (hlistens : Listens layout options around config contents listening)
    (hdecodes : Decodes layout decoding decoded config contents capture) :
    PrintsAlike layout options around decoding decoded capture listening := by
  have hasked (hshown : layout ≠ .table ∨ Listening.asked options capture.records ≠ []) :
      (runListen layout options around).output =
        FrameRecord.report layout around.time (Listening.asked options capture.records) ++
          reportCounters layout listening.counters := by
    rw [hlistens.output]
    rcases h.rounds with ⟨hnone, hempty⟩ | hone
    · have hlayout : layout ≠ .table := hshown.resolve_right (not_not.mpr hempty)
      rw [hnone, hempty, FrameRecord.report_nil hlayout]
      rfl
    · rw [hone, List.flatMap_singleton]
  refine ⟨hasked, fun hshown htypes hcount hcounters htime ↦ ?_⟩
  have hall : Listening.asked options capture.records = capture.records := by
    rw [Listening.asked, htypes, hcount]
    exact List.filter_true _
  calc
    _ = FrameRecord.report layout around.time capture.records ++
        reportCounters layout listening.counters := by rw [hasked (by rwa [hall]), hall]
    _ = FrameRecord.report layout decoded.time capture.records ++
        reportCounters layout capture.counters := by rw [h.counters htypes, htime]
    _ = _ := by rw [hdecodes.output, if_pos hcounters]

/-- Listening to a regular file prints the records that decoding the same octets with the same
settings prints, as far as they are asked for, and counts the same. The answers are written behind
the contents and are not read. -/
theorem runListen_decodes (layout : Layout) {options : ListenOptions} {around : Surroundings}
    {decoding : DecodeOptions} {decoded : Surroundings} {config : Config} {contents : Bytes}
    (hsettings : options.settings.resolve around.folder = .ok config)
    (hopen : around.folder.open? options.device = .ok contents)
    (hconnect : options.connect = false)
    (hsame : decoding.settings.resolve decoded.folder = .ok config)
    (hread : decoding.read decoded.folder decoded.input = .ok contents)
    (hpaced : ∀ polled ∈ Listening.readings options config around.readings around.ids contents,
      ∀ earlier ∈ polled, ∀ later ∈ polled, InTime config.stallTimeout earlier later) :
    ∃ capture listening, Decodes layout decoding decoded config contents capture ∧
      Listens layout options around config contents listening ∧
      listening.Agrees options config around.ids.draw.1 contents capture ∧
      PrintsAlike layout options around decoding decoded capture listening := by
  obtain ⟨capture, hdecodes, hscans⟩ := exists_decodes layout hsame hread
  have hpunctual : ∀ polled ∈
      Listening.readings options config around.readings around.ids contents,
        Punctual config.stallTimeout (· ∈ polled) :=
    fun polled hmem earlier later hearlier ↦ hpaced polled hmem earlier hearlier later
  obtain ⟨listening, hheard, hagrees⟩ := Listening.ofContents_agrees
    (SettingsOptions.fault?_of_resolve hsettings) hconnect hpunctual hscans
  have hlistens := listens_of_ofContents layout hsettings hopen hheard hagrees.failure
  exact ⟨capture, listening, hdecodes, hlistens, hagrees, hagrees.printsAlike hlistens hdecodes⟩

/-- A request and a frame behind it, read while the clock goes on a little. Decoding prints both,
and listening the one of the wanted type; the answer to the request stands behind the contents. -/
theorem runListen_decodes_request :
    let contents : Bytes := [0x23, 0, 1, 0, 8, 0, 0, 0, 5, 0, 0, 0, 0, 1, 3, 0, 0, 0] ++
      [0x23, 2, 7, 0, 1, 0, 0, 0, 0x68, 0, 0]
    let options : ListenOptions :=
      { device := "d", connect := false, types := some [2], count := some 1, idle := 10,
        settings := {} }
    let decoding : DecodeOptions :=
      { file := none, hex := false, counters := false, settings := {} }
    let around : Surroundings :=
      { folder := ⟨[(["d"], .ok contents)]⟩, input := contents, ids := { next := 9 }, time := 0,
        readings := [1000, 1003, 1005] }
    (runDecode .pretty decoding around).output = lines
        ["type=0 (CONNECT_REQUEST) id=1 size=8 payload=05 00 00 00 00 01 03 00",
          "type=2 (USER) id=7 size=1 payload=h"] ∧
      (runDecode .pretty decoding around).failure = none ∧
      (runListen .pretty options around).output = lines ["type=2 (USER) id=7 size=1 payload=h"] ++
        line ("frames_dispatched=2 frames_unhandled=0 frames_sent=1 bad_magic=0 oversize=0 " ++
          "stalls=0 checksum_failures=0 handler_errors=0 peer_resets=1 connects=0 disconnects=0") ∧
      (runListen .pretty options around).failure = none ∧
      (runListen .pretty options around).folder = ⟨[(["d"], .ok (contents ++
        [0x23, 1, 0, 0, 8, 0, 0, 0, 9, 0, 0, 0, 0xf4, 0, 0, 0, 0, 0]))]⟩ := by
  intro contents options decoding around
  have hsplit : "d".splitOn "/" = ["d"] := by
    rw [String.splitOn, if_neg (by decide), String.splitOnAux, if_neg (by decide +kernel),
      if_neg (by decide +kernel), String.splitOnAux, if_pos (by decide +kernel)]
    decide +kernel
  have hparts : Folder.parts "d" = ["d"] := by
    rw [Folder.parts, hsplit]
    simp
  have hfile : Folder.endsInDirectory "d" = false := by
    rw [Folder.endsInDirectory, hsplit]
    decide
  have hopen : around.folder.open? options.device = .ok contents := by
    have hlookup : around.folder.entries.lookup ["d"] = some (.ok contents) :=
      List.lookup_cons_self
    rw [Folder.open?, hparts, if_neg (by simp [options]), if_neg (by decide +kernel), hlookup]
    simp only [options, hfile, Bool.false_eq_true, if_false]
  have hreadings : Listening.readings options {} around.readings around.ids contents =
      [[1000, 1003, 1005, 1005]] := by
    decide +kernel
  have hpaced : ∀ polled ∈ Listening.readings options {} around.readings around.ids contents,
      ∀ earlier ∈ polled, ∀ later ∈ polled, InTime 5 earlier later := by
    simp [hreadings, InTime]
  obtain ⟨capture, listening, hdecodes, hlistens, hagrees, halike⟩ :=
    @runListen_decodes .pretty options around decoding around {} contents rfl hopen rfl rfl rfl
      hpaced
  have hrecords : (Capture.ofOctets {} around.ids contents).toOption.map Capture.records =
      some [⟨0, 1, [5, 0, 0, 0, 0, 1, 3, 0]⟩, ⟨2, 7, [0x68]⟩] := by
    decide +kernel
  have hcounters :
      (Listening.ofContents options {} around.readings around.ids contents).toOption.map
        Listening.counters = some { framesDispatched := 2, framesSent := 1, peerResets := 1 } := by
    decide +kernel
  rw [hdecodes.found] at hrecords
  rw [hlistens.heard] at hcounters
  have hfound : capture.records = _ := Option.some_inj.mp hrecords
  have hcounted : listening.counters = _ := Option.some_inj.mp hcounters
  have hasked : Listening.asked options capture.records = [⟨2, 7, [0x68]⟩] := by
    rw [hfound]
    rfl
  refine ⟨?_, hdecodes.failure.mpr (.inl ?_), ?_, hlistens.failure, ?_⟩
  · rw [hdecodes.output, hfound]
    exact (List.append_nil _).trans (congrArg lines (by decide +kernel))
  · rw [hfound]
    exact List.cons_ne_nil _ _
  · rw [halike.asked (.inl (by decide)), hasked, hcounted]
    refine congrArg₂ (· ++ ·) (congrArg lines ?_) (congrArg line ?_) <;> decide +kernel
  · have hreply : ({} : Config).reply around.ids.draw.1 =
        [0x23, 1, 0, 0, 8, 0, 0, 0, 9, 0, 0, 0, 0xf4, 0, 0, 0, 0, 0] := by
      decide +kernel
    have hothers : around.folder.entries.filter (·.1 != ["d"]) = [] := by
      simp [around]
    rw [hlistens.folder, hagrees.contents, hcounted, hreply, Folder.put, hparts, hothers]
    rfl

end Tool

end FramedLink
