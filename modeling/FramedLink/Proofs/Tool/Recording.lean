import Mathlib.Data.List.Nodup
import FramedLink.Proofs.Tool.Books
import FramedLink.Proofs.Tool.Serving
import FramedLink.Tool.Record

/-!
# Recording frames

An endpoint at a port that records the frames of some types, answers handshakes and does nothing
else: when it has received everything that there is, the records are the frames of these types in
the scan of it, in order, and the counters are those of the books of all findings
(`Endpoint.Recorder.poll`). Neither answering, nor failing to answer, nor what handshakes make of
the link gets in the way.
-/

namespace FramedLink

namespace Books

/-- A frame is dispatched by an endpoint that records some types. -/
def dispatch (types : List UInt8) (frame : Frame) (books : Books) : Books :=
  (books.handshake frame).close
    ⟨(if frame.header.type ∈ types then 1 else 0) + MessageType.handshakes frame.header.type, 0⟩

def enter (types : List UInt8) (books : Books) : Finding → Books
  | .frame frame => books.dispatch types frame
  | refusal => { books with counters := books.counters.tally [refusal] }

def ofFindings (types : List UInt8) (findings : List Finding) : Books :=
  findings.foldl (enter types) {}

theorem ofFindings_append (types : List UInt8) (first later : List Finding) :
    ofFindings types (first ++ later) = later.foldl (enter types) (ofFindings types first) :=
  List.foldl_append

/-- Where no frames were found, refusals are counted. -/
theorem foldl_enter_refusals (types : List UInt8) {findings : List Finding}
    (hnone : findings.filterMap Finding.frame? = []) (books : Books) :
    findings.foldl (enter types) books =
      { books with counters := books.counters.tally findings } := by
  induction findings generalizing books with
  | nil => rfl
  | cons finding findings ih =>
    cases finding with
    | frame frame => cases hnone
    | badMarker | oversize | badTrailer =>
      rw [List.foldl_cons, ih hnone, ← List.singleton_append, Counters.tally_append]
      rfl

end Books

namespace Tool

def FrameRecord.ofFrame (frame : Frame) : FrameRecord :=
  ⟨frame.header.type, frame.header.id, frame.payload⟩

/-- The records of the frames of some types among findings. -/
def recordsOf (types : List UInt8) (findings : List Finding) : List FrameRecord :=
  ((findings.filterMap Finding.frame?).filter (·.header.type ∈ types)).map .ofFrame

theorem recordsOf_append (types : List UInt8) (first later : List Finding) :
    recordsOf types (first ++ later) = recordsOf types first ++ recordsOf types later := by
  simp only [recordsOf, List.filterMap_append, List.filter_append, List.map_append]

/-- The registrations of the handlers that make records. -/
def recorders (types : List UInt8) : List (Registration Desk) :=
  types.map fun type ↦ ⟨type, .custom recordPacket⟩

theorem recordTypes_eq (types : List UInt8) (e : Endpoint Desk) :
    recordTypes types e = { e with handlers := e.handlers ++ recorders types } := by
  unfold recordTypes recorders
  induction types generalizing e with
  | nil => simp
  | cons type types ih =>
    rw [List.foldl_cons, ih, Endpoint.addHandler]
    simp

/-- Of the handlers that make records, the one of the packet's type makes one. -/
theorem runRound_recorders {env : Environment Desk} {header : Header} {types : List UInt8}
    (hnodup : types.Nodup) (rest : List (Registration Desk)) (round : Endpoint.Round)
    (e : Endpoint Desk) (desk : Desk) :
    Endpoint.runRound env header (recorders types ++ rest) round e desk =
      if header.type ∈ types then
        Endpoint.runRound env header rest ⟨round.matched + 1, round.failed⟩
          (e.withCursor headerSize) (desk.write (.ofFrame ⟨header, e.reception.region.payload⟩))
      else Endpoint.runRound env header rest round e desk := by
  induction types generalizing round e desk with
  | nil => simp [recorders]
  | cons type types ih =>
    obtain ⟨hfresh, hlater⟩ := List.nodup_cons.mp hnodup
    have hrecorders : recorders (type :: types) ++ rest =
        ⟨type, .custom recordPacket⟩ :: (recorders types ++ rest) := rfl
    rw [hrecorders, Endpoint.runRound]
    by_cases htype : type = header.type
    · subst htype
      have hran : (e.withCursor headerSize).runHandler env header (.custom recordPacket) desk =
          (.ok (), e.withCursor headerSize,
            desk.write (.ofFrame ⟨header, e.reception.region.payload⟩)) := rfl
      have hrewound : { e with toStation := e.toStation.rewindIncoming } =
          e.withCursor headerSize := rfl
      rw [if_pos rfl, if_pos List.mem_cons_self, hrewound]
      dsimp only
      rw [hran]
      exact (ih hlater _ _ _).trans (if_neg hfresh)
    · rw [if_neg htype, ih hlater]
      simp only [List.mem_cons, Ne.symm htype, false_or]

end Tool

namespace Endpoint

open Tool

variable {port : Port RegularFile FrameRecord} {config : Config} {id : UInt32}
variable {times paced : Millis → Prop} {types : List UInt8} {base all written : Bytes}
variable {found : List Finding} {journal : List FrameRecord} {e : Endpoint Desk} {desk : Desk}

/-- An endpoint that records some types stands at some findings: it has made a record of each frame
of these types, entered all of them in its books, and written the answers that it has counted behind
what was there. -/
structure Recorded (config : Config) (id : UInt32) (types : List UInt8) (base : Bytes)
    (found : List Finding) (written : Bytes) (journal : List FrameRecord) (e : Endpoint Desk) :
    Prop where
  handlers : e.handlers = handshakeHandlers ++ recorders types
  fitted : e.Fitted config
  localId : e.link.localId = id
  resets : ∀ callback ∈ e.resetCallbacks, Notes callback
  links : ∀ callback ∈ e.linkCallbacks, ∀ event, Notes (callback event)
  written_eq :
    written = base ++ (List.replicate e.counters.framesSent (config.reply id)).flatten
  journal_eq : journal.reverse = recordsOf types found
  books : e.books = .ofFindings types found

/-- The endpoint and the desk that the handlers of the handshake find: the frame was recorded if its
type is. -/
theorem Recorded.recording (h : Recorded config id types base found written desk.journal e)
    (hnodup : types.Nodup) {traffic : Traffic} (hwritten : traffic.written = written)
    (hhand : port.AtHand traffic desk.lines) (hshows : desk.Shows times) (header : Header) :
    let frame : Frame := ⟨header, e.reception.region.payload⟩
    ∃ (e₁ : Endpoint Desk) (desk₁ : Desk),
      Endpoint.runRound port.environment header e.handlers.reverse {}
          { e with handlers := [], dispatching := true } desk =
        Endpoint.runRound port.environment header handshakeHandlers.reverse
          ⟨if header.type ∈ types then 1 else 0, 0⟩ e₁ desk₁ ∧
      Replying port config id { traffic with written := base } times desk₁.journal e₁ desk₁ ∧
      desk₁.journal.reverse = recordsOf types (found ++ [.frame frame]) ∧ e₁.books = e.books ∧
      e₁.withCursor headerSize =
        ({ e with handlers := [], dispatching := true } : Endpoint Desk).withCursor headerSize := by
  have hreverse : e.handlers.reverse =
      recorders types.reverse ++ handshakeHandlers.reverse := by
    rw [h.handlers, List.reverse_append, recorders, recorders, List.map_reverse]
  have hreplying : Replying port config id { traffic with written := base } times desk.journal
      { e with handlers := [], dispatching := true } desk := by
    refine ⟨⟨h.fitted.config_eq, h.fitted.room⟩, rfl, h.localId, h.resets, h.links, ?_, rfl, hshows⟩
    dsimp only
    rw [← h.written_eq, ← hwritten]
    exact hhand
  intro frame
  rw [hreverse, runRound_recorders (List.nodup_reverse.mpr hnodup), recordsOf_append]
  simp only [List.mem_reverse]
  by_cases htype : header.type ∈ types
  · have hrecord : recordsOf types [.frame frame] = [.ofFrame frame] := by
      simp [recordsOf, Finding.frame?, frame, htype]
    rw [if_pos htype, if_pos htype, hrecord]
    refine ⟨_, _, rfl, ?_, ?_, rfl, rfl⟩
    · exact { hreplying with
        fitted := ⟨h.fitted.config_eq, h.fitted.room⟩
        journal_eq := rfl
        shows := ⟨hshows.standing, hshows.set⟩ }
    · rw [Bench.write, List.reverse_cons, h.journal_eq]
  · have hnone : recordsOf types [.frame frame] = [] := by
      simp [recordsOf, Finding.frame?, frame, htype]
    rw [if_neg htype, if_neg htype, hnone, List.append_nil]
    exact ⟨_, _, rfl, hreplying, h.journal_eq, rfl, rfl⟩

/-- A dispatch makes a record if the type is recorded, and is entered in the books. -/
theorem Recorded.dispatch (h : Recorded config id types base found written desk.journal e)
    (hvalid : config.fault? = none) (hnodup : types.Nodup) {traffic : Traffic}
    (hwritten : traffic.written = written) (hhand : port.AtHand traffic desk.lines)
    (hshows : desk.Shows times) {header : Header}
    (hpayload : e.reception.region.Shows e.reception.region.payload 0) :
    let frame : Frame := ⟨header, e.reception.region.payload⟩
    let handled := e.dispatch port.environment header desk
    ∃ written, port.AtHand { traffic with written } handled.2.lines ∧ handled.2.Shows times ∧
      Recorded config id types base (found ++ [.frame frame]) written handled.2.journal
        handled.1 := by
  let noted := desk.note (.dispatching header e.reception.region.payload)
  have hstill : desk.Still noted := desk.still_note _
  have hnoted : Recorded config id types base found written noted.journal e := by
    rw [hstill.journal]
    exact h
  obtain ⟨e₁, desk₁, hround, hreplying, hjournal, hbooks, hstart⟩ :=
    hnoted.recording hnodup hwritten (hstill.lines ▸ hhand) (hstill.shows hshows) header
  have hshown : (e₁.withCursor headerSize).reception.region.Shows e.reception.region.payload 0 := by
    rw [hstart]
    exact hpayload.moved (Nat.zero_le _)
  obtain ⟨hran, -, hclosed⟩ :=
    hreplying.runRound hvalid header hshown ⟨if header.type ∈ types then 1 else 0, 0⟩
  let ran := runRound port.environment header handshakeHandlers.reverse
    ⟨if header.type ∈ types then 1 else 0, 0⟩ e₁ desk₁
  have hhandled : e.dispatch port.environment header desk =
      ({ ran.2.1 with
          handlers := e.handlers ++ ran.2.1.handlers
          dispatching := false
          counters := countRound ran.2.1.counters ran.1 },
        if ran.1.matched = 0 then ran.2.2.note (.unhandled header.type) else ran.2.2) := by
    have hnote : port.environment.note (.dispatching header e.reception.region.payload) desk =
        noted := rfl
    unfold Endpoint.dispatch
    dsimp only
    rw [hnote, hround]
    rfl
  have hlast : ran.2.2.Still
      (if ran.1.matched = 0 then ran.2.2.note (.unhandled header.type) else ran.2.2) := by
    split
    · exact ran.2.2.still_note _
    · exact .refl _
  intro frame
  dsimp only
  rw [hhandled]
  refine ⟨_, hlast.lines ▸ hran.traffic, hlast.shows hran.shows, ?_⟩
  constructor
  case handlers =>
    dsimp only
    rw [hran.handlers, List.append_nil]
    exact h.handlers
  case fitted => exact ⟨hran.fitted.config_eq, hran.fitted.room⟩
  case localId => exact hran.localId
  case resets => exact hran.resets
  case links => exact hran.links
  case written_eq => rfl
  case journal_eq => rw [hlast.journal, hran.journal_eq, hjournal]
  case books =>
    calc
      ran.2.1.books.close ran.1 = e₁.books.dispatch types frame := hclosed
      _ = (Books.ofFindings types found).dispatch types frame := by rw [hbooks, h.books]
      _ = Books.ofFindings types (found ++ [.frame frame]) := by
        rw [Books.ofFindings_append]
        rfl

/-- Recording is kept up while everything is received. -/
theorem sustained_recorded (port : Port RegularFile FrameRecord) (times : Millis → Prop)
    (all : Bytes) (hvalid : config.fault? = none) (hnodup : types.Nodup) :
    Sustained port config times all (Recorded config id types base) where
  aside s h hconfig hlink hcounters hregion :=
    { handlers := h.handlers
      fitted := h.fitted.of_sizes hconfig (congrArg Array.size hregion)
      localId := (congrArg LinkState.localId hlink).trans h.localId
      resets := h.resets
      links := h.links
      written_eq := by rw [hcounters]; exact h.written_eq
      journal_eq := h.journal_eq
      books := by rw [← h.books, books, hlink, hcounters]; rfl }
  refused {found more written journal e} h hnone :=
    { handlers := h.handlers
      fitted := ⟨h.fitted.config_eq, h.fitted.room⟩
      localId := h.localId
      resets := h.resets
      links := h.links
      written_eq := h.written_eq
      journal_eq := by
        rw [h.journal_eq, recordsOf_append]
        simp only [recordsOf, hnone, List.filter_nil, List.map_nil, List.append_nil]
      books := by
        rw [Books.ofFindings_append, ← h.books, Books.foldl_enter_refusals types hnone]
        rfl }
  deliver {found} traffic {header e w} h _ _ hpayload hhand hshows :=
    h.dispatch hvalid hnodup rfl hhand hshows hpayload

/-- A new endpoint that was made to record some types, and to note what becomes of the link. -/
structure Recorder (config : Config) (id : UInt32) (types : List UInt8) (e : Endpoint Desk) :
    Prop where
  station : e.toStation = .initial config id
  handlers : e.handlers = handshakeHandlers ++ recorders types
  resets : ∀ callback ∈ e.resetCallbacks, Notes callback
  links : ∀ callback ∈ e.linkCallbacks, ∀ event, Notes (callback event)

theorem recorder_recordTypes (config : Config) (id : UInt32) (types : List UInt8) :
    Recorder config id types (recordTypes types (ofConfig config id)) := by
  rw [recordTypes_eq]
  exact ⟨rfl, rfl, List.forall_mem_nil _, List.forall_mem_nil _⟩

theorem Recorder.recorded (h : Recorder config id types e) (hvalid : config.fault? = none)
    (base : Bytes) : Recorded config id types base [] base [] e := by
  have hcounters : e.counters = {} := congrArg Station.counters h.station
  constructor
  case handlers => exact h.handlers
  case fitted =>
    refine ⟨congrArg Station.config h.station, ?_⟩
    rw [h.station]
    exact (Station.room_initial hvalid id).2
  case localId => rw [h.station]; rfl
  case resets => exact h.resets
  case links => exact h.links
  case written_eq =>
    rw [hcounters]
    exact (List.append_nil base).symm
  case journal_eq => rfl
  case books => rw [books, h.station]; rfl

/-- What a poll by an endpoint that records some types comes to. -/
structure Surveyed (port : Port RegularFile FrameRecord) (config : Config) (id : UInt32)
    (types : List UInt8) (base all : Bytes) (others : List Bytes)
    (result : PollOutcome × Endpoint Desk × Desk) : Prop where
  outcome : result.1 = port.outcome (config.scan all).frames.length
  receiving : result.2.1.Receiving config
  records : result.2.2.journal.reverse = recordsOf types (config.scan all).findings
  counters : result.2.1.counters = (Books.ofFindings types (config.scan all).findings).counters
  buffered : result.2.1.reception.filled = (config.scan all).rest.length
  /-- Nothing is left, and what was written are answers. -/
  atHand : port.AtHand
    { left := []
      written := base ++
        (List.replicate result.2.1.counters.framesSent (config.reply id)).flatten
      others } result.2.2.lines

/-- A poll by an endpoint that records some types records them all. -/
theorem Recorder.poll (h : Recorder config id types e) (hvalid : config.fault? = none)
    (hnodup : types.Nodup) {others : List Bytes}
    (hsound : port.Sound ⟨all, base, others⟩ desk.lines)
    (hjournal : desk.journal = []) (hshows : desk.Shows times)
    (hpunctual : Punctual config.stallTimeout paced) {fuel : Nat}
    (hpaced : ∀ reading ∈ e.turnReadings port.environment fuel desk, times reading → paced reading)
    (hfuel : all.length < fuel) :
    Surveyed port config id types base all others (e.poll port.environment fuel desk) := by
  have hshort : ([] : Bytes).length < headerSize := by decide
  have hnothing : config.scan [] = ⟨[], []⟩ :=
    Scan.scan_of_next?_none (Scan.next?_of_length_lt hshort)
  have hwithin : e.Within .free := by
    apply within_free
    intro registration hmem
    rw [h.handlers, List.mem_append] at hmem
    refine hmem.imp_right fun hmem ↦ ?_
    obtain ⟨type, -, rfl⟩ := List.mem_map.mp hmem
    exact ⟨type, recordPacket, rfl⟩
  have hserving : Serving port.Sound config times paced (Recorded config id types base) all others
      [] e desk := by
    constructor
    case receiving => exact receiving_initial hvalid h.station
    case within => exact hwithin
    case held =>
      rw [h.station, hnothing]
      exact Reception.held_of_filled rfl
    case deadline =>
      intro time htime
      rw [h.station] at htime
      cases htime
    case shows => exact hshows
    case kept =>
      refine ⟨_, hsound, rfl, rfl, ?_⟩
      rw [hnothing, hjournal]
      exact h.recorded hvalid base
  obtain ⟨e', desk', hpoll, hserved⟩ :=
    hserving.poll (sustained_recorded port times all hvalid hnodup) hpunctual hpaced hfuel
  obtain ⟨traffic, hhand, hall, hothers, hrecorded⟩ := hserved.kept
  rw [hpoll]
  constructor
  case outcome => rfl
  case receiving => exact hserved.receiving
  case records => exact hrecorded.journal_eq
  case counters => exact congrArg Books.counters hrecorded.books
  case buffered =>
    rw [← hserved.held]
    exact hserved.receiving.sound.length_held.symm
  case atHand =>
    obtain ⟨left, written, _⟩ := traffic
    obtain rfl : left = [] := List.append_right_eq_self.mp hall
    obtain rfl := hothers
    dsimp only
    rw [← hrecorded.written_eq]
    exact hhand

end Endpoint

end FramedLink
