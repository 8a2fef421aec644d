import Mathlib.Data.List.Basic
import FramedLink.Channel.RegularFile
import FramedLink.Channel.Script

/-!
# What a channel over a stream makes of its input

The channel over a stream buffers what it reads. Whatever the reads of the stream answer, and in
whatever order the channel is asked what is there, read and written to, the octets it has served and
the octets it still holds are together exactly those that the stream delivered. To state this, the
stream below the channel is watched: it keeps a record of what its reads answered, and behaves as
before.
-/

namespace FramedLink

namespace ByteStream

/-- Whether a channel reads on after an answer: a full block may have more behind it, and an
interrupted read is made again. -/
def GoesOn : Except IoFault Bytes → Prop
  | .ok block => readBlockSize ≤ block.length
  | .error fault => fault.kind = .interrupted

def delivered (answers : List (Except IoFault Bytes)) : Bytes :=
  answers.flatMap fun answer ↦ match answer with | .ok block => block | .error _ => []

@[simp]
theorem delivered_nil : delivered [] = [] := rfl

@[simp]
theorem delivered_ok_cons (block : Bytes) (answers : List (Except IoFault Bytes)) :
    delivered (.ok block :: answers) = block ++ delivered answers := rfl

@[simp]
theorem delivered_error_cons (fault : IoFault) (answers : List (Except IoFault Bytes)) :
    delivered (.error fault :: answers) = delivered answers := rfl

@[simp]
theorem delivered_append (answers more : List (Except IoFault Bytes)) :
    delivered (answers ++ more) = delivered answers ++ delivered more :=
  List.flatMap_append

theorem not_goesOn_end : ¬ GoesOn (.ok []) := by
  simp [GoesOn, readBlockSize]

/-- The faults that reach the caller of a channel: all but those that say to try again or that
nothing is there. -/
def Fatal (fault : IoFault) : Prop :=
  fault.kind ∉ [IoKind.interrupted, .wouldBlock, .timedOut]

theorem fatal_iff (fault : IoFault) :
    Fatal fault ↔ fault.kind ≠ .interrupted ∧ fault.isIdle = false := by
  simp [Fatal, IoFault.isIdle]

/-- A stream whose bound on reads is one: each read after which a channel reads on lowers it. A
filling of the channel then ends because of what it read, and not for want of fuel. -/
class Bounded (σ : Type) [ByteStream σ] : Prop where
  readBound_lt (stream : σ) (h : GoesOn (ByteStream.read readBlockSize stream).1) :
    readBound (ByteStream.read readBlockSize stream).2 < readBound stream

end ByteStream

open ByteStream

/-- A stream with what its reads answered, oldest first. -/
structure WatchedStream (σ : Type) where
  stream : σ
  answers : List (Except IoFault Bytes) := []

namespace WatchedStream

variable {σ : Type} [ByteStream σ]

instance : ByteStream (WatchedStream σ) where
  read size watched :=
    let (answer, stream) := ByteStream.read size watched.stream
    (answer, { stream, answers := watched.answers ++ [answer] })
  write octets watched :=
    let (answer, stream) := ByteStream.write octets watched.stream
    (answer, { watched with stream })
  flush watched :=
    let (answer, stream) := ByteStream.flush watched.stream
    (answer, { watched with stream })
  readBound watched := readBound watched.stream
  writeBound watched := writeBound watched.stream
  flushBound watched := flushBound watched.stream

theorem read_eq (size : Nat) (watched : WatchedStream σ) :
    ByteStream.read size watched =
      ((ByteStream.read size watched.stream).1,
        { stream := (ByteStream.read size watched.stream).2
          answers := watched.answers ++ [(ByteStream.read size watched.stream).1] }) := rfl

theorem write_eq (octets : Bytes) (watched : WatchedStream σ) :
    ByteStream.write octets watched =
      ((ByteStream.write octets watched.stream).1,
        { watched with stream := (ByteStream.write octets watched.stream).2 }) := rfl

theorem flush_eq (watched : WatchedStream σ) :
    ByteStream.flush watched =
      ((ByteStream.flush watched.stream).1,
        { watched with stream := (ByteStream.flush watched.stream).2 }) := rfl

instance [Bounded σ] : Bounded (WatchedStream σ) where
  readBound_lt watched h := Bounded.readBound_lt watched.stream h

end WatchedStream

namespace Script

/-- The bound of a script counts its entries and the octets in them. -/
theorem readBound_eq (script : Script) :
    script.readBound = script.reads.length + (delivered script.reads).length := by
  have hfold : ∀ (entries : List (Except IoFault Bytes)) (start : Nat),
      entries.foldl (fun sum entry ↦
          sum + 1 + (match entry with | .ok block => block.length | .error _ => 0)) start =
        start + (entries.length + (delivered entries).length) := by
    intro entries
    induction entries with
    | nil => exact fun _ ↦ rfl
    | cons entry entries ih =>
      intro start
      rw [List.foldl_cons, ih]
      cases entry <;> simp <;> omega
  exact (hfold script.reads 0).trans (Nat.zero_add _)

/-- Every script keeps to its bound, so every list of answers is one that some bounded stream
gives. -/
instance : Bounded Script where
  readBound_lt script h := by
    obtain ⟨reads, writes, flushes, taken⟩ := script
    show (read readBlockSize ⟨reads, writes, flushes, taken⟩).2.readBound <
      readBound ⟨reads, writes, flushes, taken⟩
    rw [readBound_eq, readBound_eq]
    cases reads with
    | nil => simp [ByteStream.read, read, GoesOn, IoFault.ofKind] at h
    | cons answer rest =>
      cases answer with
      | error fault => simp [read]
      | ok block =>
        simp only [read]
        split
        next => simp; omega
        next later hlater =>
          -- the rest of the block stays in the script, and is shorter
          have hpos : 0 < (block.drop readBlockSize).length := List.length_pos_iff.mpr hlater
          simp only [List.length_drop, readBlockSize] at hpos
          simp only [List.length_cons, delivered_ok_cons, List.length_append, List.length_drop,
            readBlockSize]
          omega

end Script

namespace RegularFile

instance : Bounded RegularFile where
  readBound_lt file h := by
    simp only [ByteStream.read, GoesOn, List.length_take, readBlockSize] at h
    simp only [ByteStream.readBound, ByteStream.read, pass, List.length_drop, List.length_take,
      readBlockSize]
    omega

end RegularFile

/-! ## Filling the buffer -/

namespace StreamChannel

variable {σ : Type} [ByteStream σ]

def watching (stream : σ) : StreamChannel (WatchedStream σ) :=
  ofStream { stream }

def unwatched (channel : StreamChannel (WatchedStream σ)) : StreamChannel σ where
  stream := channel.stream.stream
  pending := channel.pending
  ended := channel.ended

/-- The reads between two states of a channel answered `taken`: every octet of them is kept, all but
the last were answers after which reading goes on, and the input ends with an empty block. -/
structure Filling (before after : StreamChannel (WatchedStream σ))
    (taken : List (Except IoFault Bytes)) : Prop where
  recorded : after.stream.answers = before.stream.answers ++ taken
  kept : after.pending.octets = before.pending.octets ++ delivered taken
  ended_iff : after.ended = true ↔ before.ended = true ∨ .ok [] ∈ taken
  goesOn : ∀ answer ∈ taken.dropLast, GoesOn answer

namespace Filling

variable {before first after : StreamChannel (WatchedStream σ)} {answer : Except IoFault Bytes}
  {taken : List (Except IoFault Bytes)}

omit [ByteStream σ]

theorem refl (channel : StreamChannel (WatchedStream σ)) : Filling channel channel [] :=
  ⟨by simp, by simp, by simp, by simp⟩

theorem cons (hgoesOn : GoesOn answer)
    (hrecorded : first.stream.answers = before.stream.answers ++ [answer])
    (hkept : first.pending.octets = before.pending.octets ++ delivered [answer])
    (hended : first.ended = before.ended) (h : Filling first after taken) :
    Filling before after (answer :: taken) where
  recorded := by rw [h.recorded, hrecorded, List.append_assoc, List.singleton_append]
  kept :=
    calc
      after.pending.octets = first.pending.octets ++ delivered taken := h.kept
      _ = before.pending.octets ++ delivered [answer] ++ delivered taken := by rw [hkept]
      _ = before.pending.octets ++ delivered (answer :: taken) := by
        rw [List.append_assoc, ← delivered_append, List.singleton_append]
  ended_iff := by
    have hne : .ok [] ≠ answer := fun heq ↦ not_goesOn_end (heq ▸ hgoesOn)
    rw [h.ended_iff, hended, List.mem_cons, or_iff_right hne]
  goesOn := by
    intro other hmem
    cases taken with
    | nil => simp at hmem
    | cons next rest =>
      rw [List.dropLast_cons_cons, List.mem_cons] at hmem
      rcases hmem with rfl | hmem
      · exact hgoesOn
      · exact h.goesOn other hmem

/-- An answer after which reading does not go on is the last one. -/
theorem getLast?_eq (h : Filling before after taken) (hmem : answer ∈ taken)
    (hstop : ¬ GoesOn answer) : taken.getLast? = some answer := by
  have hne : taken ≠ [] := List.ne_nil_of_mem hmem
  rw [← List.dropLast_append_getLast hne, List.mem_append, List.mem_singleton] at hmem
  rcases hmem with hmem | hlast
  · exact absurd (h.goesOn answer hmem) hstop
  · rw [hlast, List.getLast?_eq_getLast_of_ne_nil hne]

end Filling

/-- A filling reports the fault that ended it, if there was one that reaches the caller. -/
def ReportsFault (outcome : Except ChannelError Unit) (taken : List (Except IoFault Bytes)) :
    Prop :=
  ∀ e, outcome = .error e ↔ ∃ fault, e = .device fault ∧ .error fault ∈ taken ∧ Fatal fault

/-- A fault that is reported does not let reading go on. -/
theorem not_goesOn_of_fatal {fault : IoFault} (h : Fatal fault) : ¬ GoesOn (.error fault) :=
  ((fatal_iff fault).mp h).1

/-- Whatever a filling reads, it keeps every octet and ends as it should; with fuel beyond the bound
of its stream it reads up to an answer after which nothing is left to read. -/
theorem fillFrom_filling [Bounded σ] (fuel : Nat) (channel : StreamChannel (WatchedStream σ)) :
    ∃ taken, Filling channel (fillFrom fuel channel).2 taken ∧
      ReportsFault (fillFrom fuel channel).1 taken ∧
      (readBound channel.stream < fuel → ∃ last, taken.getLast? = some last ∧ ¬ GoesOn last) := by
  induction fuel generalizing channel with
  | zero => exact ⟨[], .refl channel, by simp [ReportsFault, fillFrom], by simp⟩
  | succ fuel ih =>
    have hbound := Bounded.readBound_lt channel.stream.stream
    rw [fillFrom, WatchedStream.read_eq]
    generalize ByteStream.read readBlockSize channel.stream.stream = reading at hbound ⊢
    obtain ⟨answer, stream⟩ := reading
    have on (first : StreamChannel (WatchedStream σ)) (hgoesOn : GoesOn answer)
        (hstream : first.stream = ⟨stream, channel.stream.answers ++ [answer]⟩)
        (hkept : first.pending.octets = channel.pending.octets ++ delivered [answer])
        (hended : first.ended = channel.ended) :
        ∃ taken, Filling channel (fillFrom fuel first).2 taken ∧
          ReportsFault (fillFrom fuel first).1 taken ∧
          (readBound channel.stream < fuel + 1 →
            ∃ last, taken.getLast? = some last ∧ ¬ GoesOn last) := by
      obtain ⟨taken, htaken, hfault, hlast⟩ := ih first
      refine ⟨answer :: taken, htaken.cons hgoesOn (by rw [hstream]) hkept hended, ?_, ?_⟩
      · intro e
        refine (hfault e).trans (exists_congr fun fault ↦ and_congr_right fun _ ↦
          and_congr_left fun hfatal ↦ ?_)
        have hne : .error fault ≠ answer := fun heq ↦ not_goesOn_of_fatal hfatal (heq ▸ hgoesOn)
        rw [List.mem_cons, or_iff_right hne]
      · intro hfuel
        have hlt : readBound first.stream < readBound channel.stream := by
          rw [hstream]
          exact hbound hgoesOn
        obtain ⟨last, hmem, hstop⟩ := hlast (by omega)
        exact ⟨last, by simp [List.getLast?_cons, hmem], hstop⟩
    cases answer with
    | ok block =>
      cases block with
      | nil =>
        -- the end of the stream
        exact ⟨[.ok []], ⟨rfl, by simp, by simp, by simp⟩, by simp [ReportsFault],
          fun _ ↦ ⟨_, rfl, not_goesOn_end⟩⟩
      | cons octet block =>
        dsimp only
        split
        next hpart =>
          exact ⟨[_], ⟨rfl, by simp, by simp, by simp⟩, by simp [ReportsFault],
            fun _ ↦ ⟨_, rfl, Nat.not_le_of_lt hpart⟩⟩
        next hfull => exact on _ (Nat.le_of_not_lt hfull) rfl (by simp) rfl
    | error fault =>
      dsimp only
      split
      next hinterrupted => exact on _ hinterrupted rfl (by simp) rfl
      next hkind =>
        split
        next hidle =>
          exact ⟨[_], ⟨rfl, by simp, by simp, by simp⟩, by simp [ReportsFault, fatal_iff, hidle],
            fun _ ↦ ⟨_, rfl, hkind⟩⟩
        next hidle =>
          refine ⟨[_], ⟨rfl, by simp, by simp, by simp⟩, fun e ↦ ?_, fun _ ↦ ⟨_, rfl, hkind⟩⟩
          have hfatal : Fatal fault := (fatal_iff fault).mpr ⟨hkind, by simpa using hidle⟩
          constructor
          · rintro ⟨⟩
            exact ⟨fault, rfl, List.mem_singleton_self _, hfatal⟩
          · rintro ⟨other, rfl, hmem, -⟩
            cases List.mem_singleton.mp hmem
            rfl

theorem fill_filling [Bounded σ] (channel : StreamChannel (WatchedStream σ)) :
    ∃ taken, Filling channel channel.fill.2 taken ∧ ReportsFault channel.fill.1 taken ∧
      (channel.ended = false → ∃ last, taken.getLast? = some last ∧ ¬ GoesOn last) ∧
      (channel.ended = true → taken = [] ∧ channel.fill.2 = channel) := by
  unfold fill
  cases channel.ended with
  | true =>
    exact ⟨[], .refl channel, by simp [ReportsFault], Bool.noConfusion, fun _ ↦ ⟨rfl, rfl⟩⟩
  | false =>
    obtain ⟨taken, htaken, hfault, hlast⟩ :=
      fillFrom_filling (readBound channel.stream + 1) channel
    exact ⟨taken, htaken, hfault, fun _ ↦ hlast (Nat.lt_succ_self _), Bool.noConfusion⟩

theorem fillFrom_unwatched (fuel : Nat) (channel : StreamChannel (WatchedStream σ)) :
    fillFrom fuel channel.unwatched =
      ((fillFrom fuel channel).1, (fillFrom fuel channel).2.unwatched) := by
  induction fuel generalizing channel with
  | zero => rfl
  | succ fuel ih =>
    have hstream : channel.unwatched.stream = channel.stream.stream := rfl
    rw [fillFrom, fillFrom, WatchedStream.read_eq, hstream]
    obtain ⟨answer, stream⟩ := ByteStream.read readBlockSize channel.stream.stream
    rcases answer with fault | _ | ⟨octet, block⟩
    · dsimp only
      split
      next => exact ih ⟨⟨stream, channel.stream.answers ++ [.error fault]⟩, _, _⟩
      next => split <;> rfl
    · rfl
    · dsimp only
      split
      next => rfl
      next => exact ih ⟨⟨stream, channel.stream.answers ++ [.ok (octet :: block)]⟩, _, _⟩

theorem fill_unwatched (channel : StreamChannel (WatchedStream σ)) :
    channel.unwatched.fill = (channel.fill.1, channel.fill.2.unwatched) := by
  have hended : channel.unwatched.ended = channel.ended := rfl
  unfold fill
  rw [hended]
  split
  next => rfl
  next => exact fillFrom_unwatched _ channel

theorem available_unwatched (channel : StreamChannel (WatchedStream σ)) :
    channel.unwatched.available = (channel.available.1, channel.available.2.unwatched) := by
  unfold available
  rw [fill_unwatched]
  obtain ⟨outcome, after⟩ := channel.fill
  have hended : after.unwatched.ended = after.ended := rfl
  have hpending : after.unwatched.pending = after.pending := rfl
  cases outcome with
  | error e => rfl
  | ok =>
    dsimp only
    rw [hended, hpending]
    split <;> rfl

/-- Two channels with the same record of reads, the same buffer and the same end of input. -/
structure SameInput (before after : StreamChannel (WatchedStream σ)) : Prop where
  answers : after.stream.answers = before.stream.answers
  pending : after.pending = before.pending
  ended : after.ended = before.ended

namespace SameInput

omit [ByteStream σ]

theorem refl (channel : StreamChannel (WatchedStream σ)) : SameInput channel channel :=
  ⟨rfl, rfl, rfl⟩

theorem below (channel : StreamChannel (WatchedStream σ)) (stream : σ) :
    SameInput channel { channel with stream := { channel.stream with stream } } :=
  ⟨rfl, rfl, rfl⟩

theorem trans {before first after : StreamChannel (WatchedStream σ)} (h : SameInput before first)
    (h' : SameInput first after) : SameInput before after :=
  ⟨h'.answers.trans h.answers, h'.pending.trans h.pending, h'.ended.trans h.ended⟩

end SameInput

theorem flushFrom_sameInput (fuel written : Nat) (channel : StreamChannel (WatchedStream σ)) :
    SameInput channel (flushFrom fuel written channel).2 := by
  induction fuel generalizing channel with
  | zero => exact .refl channel
  | succ fuel ih =>
    rw [flushFrom, WatchedStream.flush_eq]
    obtain ⟨answer, stream⟩ := ByteStream.flush channel.stream.stream
    have hbelow := SameInput.below channel stream
    cases answer with
    | ok => exact hbelow
    | error fault =>
      dsimp only
      split
      next => exact hbelow.trans (ih _)
      next => exact hbelow

theorem writeFrom_sameInput (fuel written : Nat) (rest : Bytes)
    (channel : StreamChannel (WatchedStream σ)) :
    SameInput channel (writeFrom fuel written rest channel).2 := by
  induction fuel generalizing written rest channel with
  | zero =>
    cases rest with
    | nil => simpa only [writeFrom] using flushFrom_sameInput _ _ channel
    | cons octet rest => exact .refl channel
  | succ fuel ih =>
    cases rest with
    | nil => simpa only [writeFrom] using flushFrom_sameInput _ _ channel
    | cons octet rest =>
      rw [writeFrom, WatchedStream.write_eq]
      obtain ⟨answer, stream⟩ := ByteStream.write (octet :: rest) channel.stream.stream
      have hbelow := SameInput.below channel stream
      rcases answer with fault | _ | taken
      · dsimp only
        split
        next => exact hbelow.trans (ih _ _ _)
        next => exact hbelow
      · exact hbelow
      · exact hbelow.trans (ih _ _ _)

/-- What a channel does when it is asked what is there, given the answers `taken` of the reads that
it makes. -/
structure Asking (channel : StreamChannel (WatchedStream σ))
    (taken : List (Except IoFault Bytes)) : Prop where
  /-- Every octet read is kept, also before a fault. -/
  filling : Filling channel channel.available.2 taken
  /-- All that is ready is read, up to an answer that says there is no more. -/
  drained : channel.ended = false → ∃ last, taken.getLast? = some last ∧ ¬ GoesOn last
  /-- A stream that has ended is not touched. -/
  untouched : channel.ended = true → taken = [] ∧ channel.available.2 = channel
  failed_iff (fault : IoFault) :
    channel.available.1 = .error (.device fault) ↔ .error fault ∈ taken ∧ Fatal fault
  closed_iff : channel.available.1 = .error .closed ↔
    channel.available.2.ended = true ∧ channel.available.2.pending.octets = []
  counted : (∀ fault, channel.available.1 ≠ .error (.device fault)) →
    channel.available.1 ≠ .error .closed →
    channel.available.1 = .ok channel.available.2.pending.octets.length

theorem available_asking [Bounded σ] (channel : StreamChannel (WatchedStream σ)) :
    ∃ taken, Asking channel taken := by
  obtain ⟨taken, hfilling, hfault, hdrained, huntouched⟩ := fill_filling channel
  refine ⟨taken, ?_⟩
  rcases hfill : channel.fill with ⟨outcome, after⟩
  rw [hfill] at hfilling hfault huntouched
  cases outcome with
  | error e =>
    have havailable : channel.available = (.error e, after) := by rw [available, hfill]
    obtain ⟨fault, rfl, hmem, hfatal⟩ := (hfault e).mp rfl
    have hlast := hfilling.getLast?_eq hmem (not_goesOn_of_fatal hfatal)
    have hopen : after.ended ≠ true := by
      rw [ne_eq, hfilling.ended_iff, not_or]
      constructor
      · intro hended
        simp [(huntouched hended).1] at hmem
      · intro hend
        simp [hfilling.getLast?_eq hend not_goesOn_end] at hlast
    refine ⟨havailable ▸ hfilling, hdrained, havailable ▸ huntouched, fun other ↦ ?_, ?_, ?_⟩
    · rw [havailable]
      constructor
      · rintro ⟨⟩
        exact ⟨hmem, hfatal⟩
      · rintro ⟨hother, hfatal'⟩
        have hlast' := hfilling.getLast?_eq hother (not_goesOn_of_fatal hfatal')
        cases hlast.symm.trans hlast'
        rfl
    · simp [havailable, hopen]
    · intro hnone
      exact absurd (congrArg Prod.fst havailable) (hnone fault)
  | ok =>
    have hsilent (fault : IoFault) : ¬ (.error fault ∈ taken ∧ Fatal fault) := by
      intro h
      cases (hfault (.device fault)).mpr ⟨fault, rfl, h⟩
    have hempty : after.pending.size = 0 ↔ after.pending.octets = [] := by
      rw [after.pending.size_eq, List.length_eq_zero_iff]
    by_cases hclosed : after.ended = true ∧ after.pending.octets = []
    · have havailable : channel.available = (.error .closed, after) := by
        simp [available, hfill, hclosed, hempty]
      exact ⟨havailable ▸ hfilling, hdrained, havailable ▸ huntouched,
        fun fault ↦ by simp [havailable, hsilent fault], by simp [havailable, hclosed],
        fun _ h ↦ absurd (congrArg Prod.fst havailable) h⟩
    · have havailable : channel.available = (.ok after.pending.octets.length, after) := by
        simpa [available, hfill, after.pending.size_eq] using hclosed
      exact ⟨havailable ▸ hfilling, hdrained, havailable ▸ huntouched,
        fun fault ↦ by simp [havailable, hsilent fault], by simp [havailable, hclosed],
        fun _ _ ↦ by rw [havailable]⟩

/-! ## Whole histories -/

/-- A channel over a watched stream, with the octets that its reads have served so far. Between
calls the stream may change by itself. -/
inductive History : StreamChannel (WatchedStream σ) → Bytes → Prop
  | start (stream : σ) : History (watching stream) []
  | available {channel : StreamChannel (WatchedStream σ)} {served : Bytes}
      (before : History channel served) : History channel.available.2 served
  | read {channel : StreamChannel (WatchedStream σ)} {served : Bytes}
      (before : History channel served) (size : Nat) :
      History (channel.read size).2 (served ++ (channel.read size).1.stored)
  | write {channel : StreamChannel (WatchedStream σ)} {served : Bytes}
      (before : History channel served) (frame : Bytes) : History (channel.write frame).2 served
  | meanwhile {channel : StreamChannel (WatchedStream σ)} {served : Bytes}
      (before : History channel served) (stream : σ) :
      History { channel with stream := { channel.stream with stream } } served

/-- Where the octets of a stream are: those served and those held are those delivered. The end of
the stream is noted when it is read, and no read follows it. -/
structure Conserved (channel : StreamChannel (WatchedStream σ)) (served : Bytes) : Prop where
  octets : served ++ channel.pending.octets = delivered channel.stream.answers
  ended_iff : channel.ended = true ↔ .ok [] ∈ channel.stream.answers
  end_last : .ok [] ∉ channel.stream.answers.dropLast

namespace Conserved

variable {before after : StreamChannel (WatchedStream σ)} {served : Bytes}
  {taken : List (Except IoFault Bytes)}

omit [ByteStream σ]

theorem start [ByteStream σ] (stream : σ) : Conserved (watching stream) [] :=
  ⟨rfl, by simp [watching, ofStream], by simp [watching, ofStream]⟩

/-- Reading from the stream moves octets into the buffer. -/
theorem fill (h : Conserved before served) (hfilling : Filling before after taken)
    (hended : before.ended = true → taken = []) : Conserved after served where
  octets :=
    calc
      served ++ after.pending.octets =
          served ++ (before.pending.octets ++ delivered taken) := by rw [hfilling.kept]
      _ = delivered before.stream.answers ++ delivered taken := by
        rw [← List.append_assoc, h.octets]
      _ = delivered after.stream.answers := by rw [hfilling.recorded, delivered_append]
  ended_iff := by
    rw [hfilling.ended_iff, hfilling.recorded, List.mem_append, h.ended_iff]
  end_last := by
    rw [hfilling.recorded]
    by_cases hnone : taken = []
    · rw [hnone, List.append_nil]
      exact h.end_last
    · have hopen : .ok [] ∉ before.stream.answers := fun hend ↦
        hnone (hended (h.ended_iff.mpr hend))
      rw [List.dropLast_append_of_ne_nil hnone, List.mem_append, not_or]
      exact ⟨hopen, fun hend ↦ not_goesOn_end (hfilling.goesOn _ hend)⟩

theorem same (h : Conserved before served) (hsame : SameInput before after) :
    Conserved after served where
  octets := by rw [hsame.pending, hsame.answers, h.octets]
  ended_iff := by rw [hsame.ended, hsame.answers, h.ended_iff]
  end_last := by rw [hsame.answers]; exact h.end_last

/-- Serving a read moves octets out of the buffer. -/
theorem read [ByteStream σ] (h : Conserved before served) (size : Nat) :
    Conserved (before.read size).2 (served ++ (before.read size).1.stored) where
  octets := by
    rw [List.append_assoc]
    exact (congrArg (served ++ ·) (before.pending.pop_append size)).trans h.octets
  ended_iff := h.ended_iff
  end_last := h.end_last

end Conserved

theorem History.conserved [Bounded σ] {channel : StreamChannel (WatchedStream σ)} {served : Bytes}
    (h : History channel served) : Conserved channel served := by
  induction h with
  | start stream => exact .start stream
  | @available channel _ _ ih =>
    obtain ⟨taken, hasking⟩ := available_asking channel
    exact ih.fill hasking.filling fun hended ↦ (hasking.untouched hended).1
  | read _ size ih => exact ih.read size
  | write _ frame ih => exact ih.same (writeFrom_sameInput _ _ _ _)
  | meanwhile _ stream ih => exact ih.same (.below _ stream)

/-- What holds of a channel whose reads have served `served`, and what its next call does. -/
structure Faithful (channel : StreamChannel (WatchedStream σ)) (served : Bytes) : Prop where
  conserved : Conserved channel served
  /-- Nothing is lost between the reads of a filling either. -/
  within (reads : Nat) (h : channel.ended = false) : Conserved (fillFrom reads channel).2 served
  asking : ∃ taken, Asking channel taken
  /-- A read is served from the buffer alone, as far as that goes. -/
  reading (size : Nat) :
    channel.read size =
      (⟨channel.pending.octets.take size, .ok (min size channel.pending.octets.length)⟩,
        { channel with pending := (channel.pending.pop size).2 })
  /-- Watching the stream makes no difference. -/
  unwatched_available :
    channel.unwatched.available = (channel.available.1, channel.available.2.unwatched)
  unwatched_read (size : Nat) :
    channel.unwatched.read size = ((channel.read size).1, (channel.read size).2.unwatched)

/-- A channel over a stream loses, doubles and reorders no input. Whatever the reads of the stream
answer, and however it is asked and read: what was served and what is held is what was delivered;
asking reads what is ready, keeps all of it, and says how much is held, or reports the fault that
ended it, or that the stream has ended and nothing is held; and a stream that has ended is not read
again. -/
theorem History.served_in_order [Bounded σ] {channel : StreamChannel (WatchedStream σ)}
    {served : Bytes} (h : History channel served) : Faithful channel served where
  conserved := h.conserved
  within reads hopen := by
    obtain ⟨taken, hfilling, -⟩ := fillFrom_filling reads channel
    exact h.conserved.fill hfilling fun hended ↦ absurd hopen (by simp [hended])
  asking := available_asking channel
  reading size := by simp [StreamChannel.read]
  unwatched_available := available_unwatched channel
  unwatched_read _ := rfl

/-- An interrupted read, three octets, a broken pipe, one octet and the end: all four octets are
served in order. -/
theorem History.served_in_order_four :
    let script : Script :=
      { reads := [.error (.ofKind .interrupted), .ok [1, 2, 3], .error (.ofKind .brokenPipe),
          .ok [4], .ok []] }
    let first := ((watching script).available.2.read 2).2
    let last := (first.available.2.available.2.available.2.read 9).2
    Faithful last [1, 2, 3, 4] ∧ first.available.1 = .error (.device (.ofKind .brokenPipe)) ∧
      first.available.2.available.1 = .ok 2 ∧ last.available.1 = .error .closed := by
  intro script first last
  have hfirst : History first [1, 2] := ((History.start script).available.read 2)
  have hlast : History last [1, 2, 3, 4] := (hfirst.available.available.available.read 9)
  exact ⟨hlast.served_in_order, by decide, by decide, by decide⟩

end StreamChannel

end FramedLink
