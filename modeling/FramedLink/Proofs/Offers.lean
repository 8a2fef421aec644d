import Mathlib.Data.List.Basic
import FramedLink.Channel.RegularFile
import FramedLink.Channel.Script

/-!
# What a channel over a stream makes of its output

The channel over a stream offers a frame until the stream has taken all of it, and then flushes. A
stream may take as little as it likes, may put the channel off, and may fail at any call. Whatever
it answers, what it has taken is a beginning of the frame, and the channel reports what became of
the frame (`StreamChannel.write_delivers`). To state this, the stream below the channel keeps a log
of the calls that were made and of its answers, and behaves as before.
-/

namespace FramedLink

namespace ByteStream

/-- A call by which a channel hands something to a stream, with the answer. -/
inductive Call where
  | offered (octets : Bytes) (answer : Except IoFault Nat)
  | flushed (answer : Except IoFault Unit)

namespace Call

def taken : Call → Bytes
  | .offered octets (.ok count) => octets.take count
  | _ => []

/-- The fault that a call met, unless it only asks for patience. -/
def fatal? : Call → Option IoFault
  | .offered _ (.error fault) | .flushed (.error fault) =>
    if fault.isTransient then none else some fault
  | _ => none

/-- An offer of which nothing was taken. -/
def IsRefused (call : Call) : Prop :=
  ∃ octets, call = .offered octets (.ok 0)

/-- A call whose answer ends the writing of a frame before its time. -/
def Ends (call : Call) : Prop :=
  call.IsRefused ∨ call.fatal? ≠ none

/-- The calls that end the writing of a frame of which `rest` was not taken before. -/
inductive Last (rest : Bytes) : Call → Prop where
  | flushed (h : rest = []) : Last rest (.flushed (.ok ()))
  | refused (octets : Bytes) : Last rest (.offered octets (.ok 0))
  | offerFailed (octets : Bytes) (fault : IoFault) (h : ¬ fault.isTransient) :
      Last rest (.offered octets (.error fault))
  | flushFailed (fault : IoFault) (h : ¬ fault.isTransient) : Last rest (.flushed (.error fault))

/-- What is reported when a call is the last one, with `written` of the `expected` octets taken. -/
def outcome (written expected : Nat) : Call → Except ChannelError Nat
  | .flushed (.ok ()) => .ok written
  | .offered _ (.ok _) => .error (.shortWrite written expected)
  | .offered _ (.error fault) | .flushed (.error fault) => .error (.device fault)

end Call

def accepted (calls : List Call) : Bytes :=
  calls.flatMap Call.taken

@[simp]
theorem accepted_nil : accepted [] = [] := rfl

@[simp]
theorem accepted_cons (call : Call) (calls : List Call) :
    accepted (call :: calls) = call.taken ++ accepted calls := rfl

/-- A stream that knows what it has received, and whose bounds on offers and flushes that are put
off are bounds. -/
class Accepting (σ : Type) [ByteStream σ] where
  received : σ → Bytes
  write_ok {octets : Bytes} {stream : σ} {count : Nat}
    (h : (ByteStream.write octets stream).1 = .ok count) :
    count ≤ octets.length ∧
      received (ByteStream.write octets stream).2 = received stream ++ octets.take count ∧
      writeBound (ByteStream.write octets stream).2 ≤ writeBound stream
  write_error {octets : Bytes} {stream : σ} {fault : IoFault}
    (h : (ByteStream.write octets stream).1 = .error fault) :
    received (ByteStream.write octets stream).2 = received stream ∧
      (fault.isTransient = true →
        writeBound (ByteStream.write octets stream).2 < writeBound stream)
  received_flush (stream : σ) : received (ByteStream.flush stream).2 = received stream
  flushBound_lt {stream : σ} {fault : IoFault} (h : (ByteStream.flush stream).1 = .error fault)
    (htransient : fault.isTransient = true) :
    flushBound (ByteStream.flush stream).2 < flushBound stream

end ByteStream

open ByteStream

/-- Every script is such a stream, so every finite sequence of answers is one that such a stream
gives. -/
instance : Accepting Script where
  received := Script.taken
  write_ok {octets script count} h := by
    obtain ⟨reads, writes, flushes, taken⟩ := script
    cases writes with
    | nil =>
      obtain rfl : octets.length = count := Except.ok.inj h
      simp [ByteStream.write, Script.write, writeBound]
    | cons answer writes =>
      cases answer with
      | error fault => cases h
      | ok most =>
        obtain rfl : (octets.take most).length = count := Except.ok.inj h
        have hcount : (octets.take most).length ≤ octets.length := List.length_take_le' _ _
        have htaken : octets.take (octets.take most).length = octets.take most := by
          rw [List.length_take, ← List.take_eq_take_min]
        exact ⟨hcount, congrArg (taken ++ ·) htaken.symm, Nat.le_succ _⟩
  write_error {octets script fault} h := by
    obtain ⟨reads, writes, flushes, taken⟩ := script
    cases writes with
    | nil => cases h
    | cons answer writes =>
      cases answer with
      | error fault => simp [ByteStream.write, Script.write, writeBound]
      | ok most => cases h
  received_flush script := by
    obtain ⟨reads, writes, flushes, taken⟩ := script
    cases flushes <;> rfl
  flushBound_lt {script fault} h _ := by
    obtain ⟨reads, writes, flushes, taken⟩ := script
    cases flushes with
    | nil => cases h
    | cons answer flushes => simp [ByteStream.flush, Script.flush, flushBound]

/-- What a regular file has received is what lies before its position. -/
instance : Accepting RegularFile where
  received file := file.passed.reverse
  write_ok {octets file count} h := by
    obtain rfl : octets.length = count := Except.ok.inj h
    simp [ByteStream.write, RegularFile.pass, writeBound]
  write_error h := by cases h
  received_flush _ := rfl
  flushBound_lt h _ := by cases h

/-- A stream with the calls by which something was handed to it, oldest first. -/
structure LoggedStream (σ : Type) where
  stream : σ
  calls : List Call := []

namespace LoggedStream

variable {σ : Type} [ByteStream σ]

instance : ByteStream (LoggedStream σ) where
  read size logged :=
    let (answer, stream) := ByteStream.read size logged.stream
    (answer, { logged with stream })
  write octets logged :=
    let (answer, stream) := ByteStream.write octets logged.stream
    (answer, { stream, calls := logged.calls ++ [.offered octets answer] })
  flush logged :=
    let (answer, stream) := ByteStream.flush logged.stream
    (answer, { stream, calls := logged.calls ++ [.flushed answer] })
  readBound logged := readBound logged.stream
  writeBound logged := writeBound logged.stream
  flushBound logged := flushBound logged.stream

theorem write_eq (octets : Bytes) (logged : LoggedStream σ) :
    ByteStream.write octets logged =
      ((ByteStream.write octets logged.stream).1,
        { stream := (ByteStream.write octets logged.stream).2
          calls := logged.calls ++ [.offered octets (ByteStream.write octets logged.stream).1] }) :=
  rfl

theorem flush_eq (logged : LoggedStream σ) :
    ByteStream.flush logged =
      ((ByteStream.flush logged.stream).1,
        { stream := (ByteStream.flush logged.stream).2
          calls := logged.calls ++ [.flushed (ByteStream.flush logged.stream).1] }) := rfl

end LoggedStream

namespace StreamChannel

variable {σ : Type} [ByteStream σ]

def unlogged (channel : StreamChannel (LoggedStream σ)) : StreamChannel σ where
  stream := channel.stream.stream
  pending := channel.pending
  ended := channel.ended

/-! ## Writing a frame -/

/-- What writing the rest of a frame comes to when `written` octets of the frame were taken before:
the calls made, in order, and the outcome. -/
structure Delivery [Accepting σ] (written : Nat) (rest : Bytes)
    (before : StreamChannel (LoggedStream σ)) (calls : List Call)
    (result : Except ChannelError Nat × StreamChannel (LoggedStream σ)) : Prop where
  logged : result.2.stream.calls = before.stream.calls ++ calls
  /-- The stream has the octets that it took, behind those it had. -/
  received : Accepting.received result.2.stream.stream =
    Accepting.received before.stream.stream ++ accepted calls
  /-- What was read and not yet asked for is left alone. -/
  input : result.2.pending = before.pending ∧ result.2.ended = before.ended
  /-- The octets taken are those at the front of the rest, each once and in order. -/
  prefix_rest : accepted calls <+: rest
  /-- No call follows one whose answer ends the writing. -/
  last : ∀ call ∈ calls.dropLast, ¬ call.Ends
  ok_iff : (∃ count, result.1 = .ok count) ↔ ∀ call ∈ calls, ¬ call.Ends
  /-- Then everything was taken, and the last flush succeeded. -/
  whole (count : Nat) (h : result.1 = .ok count) : count = written + rest.length ∧
    accepted calls = rest ∧ calls.getLast? = some (.flushed (.ok ()))
  short_iff (taken expected : Nat) : result.1 = .error (.shortWrite taken expected) ↔
    (∃ call ∈ calls, call.IsRefused) ∧ taken = written + (accepted calls).length ∧
      expected = written + rest.length
  /-- The first fault that does not only ask for patience is reported. -/
  failed_iff (fault : IoFault) : result.1 = .error (.device fault) ↔
    calls.findSome? Call.fatal? = some fault

section Delivery

variable [Accepting σ] {written : Nat} {rest later : Bytes} {call : Call}
variable {calls : List Call} {before first : StreamChannel (LoggedStream σ)}
variable {result : Except ChannelError Nat × StreamChannel (LoggedStream σ)}

/-- Writing with one more call in front, after which it goes on. -/
theorem Delivery.cons {sum : Nat} (h : Delivery sum later first calls result)
    (hcall : ¬ call.Ends) (hsum : sum = written + call.taken.length)
    (hrest : rest = call.taken ++ later)
    (hlogged : first.stream.calls = before.stream.calls ++ [call])
    (hreceived : Accepting.received first.stream.stream =
      Accepting.received before.stream.stream ++ call.taken)
    (hinput : first.pending = before.pending ∧ first.ended = before.ended) :
    Delivery written rest before (call :: calls) result := by
  obtain ⟨hrefused, hfatal⟩ := not_or.mp hcall
  rw [not_not] at hfatal
  have hlength : rest.length = call.taken.length + later.length := by
    rw [hrest, List.length_append]
  constructor
  case logged => rw [h.logged, hlogged, List.append_assoc, List.singleton_append]
  case received => rw [h.received, hreceived, List.append_assoc, accepted_cons]
  case input => exact ⟨h.input.1.trans hinput.1, h.input.2.trans hinput.2⟩
  case prefix_rest =>
    rw [hrest]
    exact (List.prefix_append_right_inj _).mpr h.prefix_rest
  case last =>
    intro other hmem
    cases calls with
    | nil => simp at hmem
    | cons next later =>
      rw [List.dropLast_cons_cons, List.mem_cons] at hmem
      rcases hmem with rfl | hmem
      · exact hcall
      · exact h.last other hmem
  case ok_iff => rw [h.ok_iff, List.forall_mem_cons, and_iff_right hcall]
  case whole =>
    intro count hok
    obtain ⟨hcount, haccepted, hlast⟩ := h.whole count hok
    refine ⟨by omega, by rw [accepted_cons, haccepted, hrest], ?_⟩
    rw [List.getLast?_cons, hlast]
    rfl
  case short_iff =>
    intro taken expected
    rw [h.short_iff, List.exists_mem_cons_iff, or_iff_right hrefused, accepted_cons,
      List.length_append, hlength, hsum, Nat.add_assoc, Nat.add_assoc]
  case failed_iff =>
    intro fault
    rw [h.failed_iff, List.findSome?_cons_of_isNone (by rw [hfatal]; rfl)]

theorem Delivery.single (hcall : call.Last rest)
    (hlogged : result.2.stream.calls = before.stream.calls ++ [call])
    (hreceived : Accepting.received result.2.stream.stream =
      Accepting.received before.stream.stream)
    (hinput : result.2.pending = before.pending ∧ result.2.ended = before.ended)
    (houtcome : result.1 = call.outcome written (written + rest.length)) :
    Delivery written rest before [call] result := by
  have haccepted : accepted [call] = [] := by cases hcall <;> rfl
  constructor
  case logged => exact hlogged
  case received => rw [hreceived, haccepted, List.append_nil]
  case input => exact hinput
  case prefix_rest =>
    rw [haccepted]
    exact List.nil_prefix
  case last => simp
  case ok_iff =>
    rw [houtcome]
    cases hcall <;> simp_all [Call.outcome, Call.Ends, Call.IsRefused, Call.fatal?]
  case whole =>
    intro count hok
    rw [houtcome] at hok
    cases hcall with
    | flushed hrest =>
      cases hok
      subst hrest
      exact ⟨rfl, haccepted, rfl⟩
    | refused _ | offerFailed _ _ _ | flushFailed _ _ => cases hok
  case short_iff =>
    intro taken expected
    rw [houtcome, haccepted]
    cases hcall <;> simp [Call.outcome, Call.IsRefused, eq_comm]
  case failed_iff =>
    intro fault
    rw [houtcome]
    cases hcall <;> simp_all [Call.outcome, Call.fatal?]

theorem flushFrom_delivery (fuel : Nat) (channel : StreamChannel (LoggedStream σ))
    (hfuel : flushBound channel.stream < fuel) :
    ∃ calls, Delivery written [] channel calls (flushFrom fuel written channel) := by
  induction fuel generalizing channel with
  | zero => omega
  | succ fuel ih =>
    have hreceived := Accepting.received_flush channel.stream.stream
    have hbound := @Accepting.flushBound_lt σ _ _ channel.stream.stream
    rw [flushFrom, LoggedStream.flush_eq]
    rcases hflush : ByteStream.flush channel.stream.stream with ⟨fault | _, stream⟩
    · rw [hflush] at hreceived hbound
      dsimp only
      split
      next htransient =>
        let call : Call := .flushed (.error fault)
        let first : StreamChannel (LoggedStream σ) :=
          { channel with stream := ⟨stream, channel.stream.calls ++ [call]⟩ }
        have hless : flushBound first.stream < fuel :=
          Nat.lt_of_lt_of_le (hbound rfl htransient) (Nat.lt_succ_iff.mp hfuel)
        have hgoesOn : ¬ call.Ends := by
          simp [call, Call.Ends, Call.IsRefused, Call.fatal?, htransient]
        have htaken : Accepting.received stream =
            Accepting.received channel.stream.stream ++ call.taken :=
          hreceived.trans (List.append_nil _).symm
        obtain ⟨calls, hcalls⟩ := ih first hless
        exact ⟨call :: calls, hcalls.cons hgoesOn rfl rfl rfl htaken ⟨rfl, rfl⟩⟩
      next hfatal => exact ⟨_, .single (.flushFailed fault hfatal) rfl hreceived ⟨rfl, rfl⟩ rfl⟩
    · rw [hflush] at hreceived
      exact ⟨_, .single (.flushed rfl) rfl hreceived ⟨rfl, rfl⟩ rfl⟩

/-- The rest of a frame is offered until all of it was taken, or until an answer ends the
writing. -/
theorem writeFrom_delivery (fuel : Nat) (written : Nat) (rest : Bytes)
    (channel : StreamChannel (LoggedStream σ))
    (hfuel : writeBound channel.stream + rest.length < fuel) :
    ∃ calls, Delivery written rest channel calls (writeFrom fuel written rest channel) := by
  induction fuel generalizing written rest channel with
  | zero => omega
  | succ fuel ih =>
    cases rest with
    | nil => exact flushFrom_delivery _ _ (Nat.lt_succ_self _)
    | cons octet rest =>
      have hok := @Accepting.write_ok σ _ _ (octet :: rest) channel.stream.stream
      have herror := @Accepting.write_error σ _ _ (octet :: rest) channel.stream.stream
      rw [writeFrom, LoggedStream.write_eq]
      rcases hwrite : ByteStream.write (octet :: rest) channel.stream.stream with
        ⟨fault | _ | count, stream⟩
      · rw [hwrite] at herror
        obtain ⟨hreceived, hbound⟩ := herror rfl
        dsimp only
        split
        next htransient =>
          let call : Call := .offered (octet :: rest) (.error fault)
          let first : StreamChannel (LoggedStream σ) :=
            { channel with stream := ⟨stream, channel.stream.calls ++ [call]⟩ }
          have hless : writeBound first.stream < writeBound channel.stream := hbound htransient
          have hgoesOn : ¬ call.Ends := by
            simp [call, Call.Ends, Call.IsRefused, Call.fatal?, htransient]
          have htaken : Accepting.received stream =
              Accepting.received channel.stream.stream ++ call.taken :=
            hreceived.trans (List.append_nil _).symm
          obtain ⟨calls, hcalls⟩ := ih written (octet :: rest) first (by omega)
          exact ⟨call :: calls, hcalls.cons hgoesOn rfl rfl rfl htaken ⟨rfl, rfl⟩⟩
        next hfatal =>
          exact ⟨_, .single (.offerFailed _ fault hfatal) rfl hreceived ⟨rfl, rfl⟩ rfl⟩
      · rw [hwrite] at hok
        obtain ⟨-, hreceived, -⟩ := hok rfl
        rw [List.take_zero, List.append_nil] at hreceived
        exact ⟨_, .single (.refused _) rfl hreceived ⟨rfl, rfl⟩ rfl⟩
      · rw [hwrite] at hok
        obtain ⟨hcount, hreceived, hbound⟩ := hok rfl
        let call : Call := .offered (octet :: rest) (.ok (count + 1))
        let first : StreamChannel (LoggedStream σ) :=
          { channel with stream := ⟨stream, channel.stream.calls ++ [call]⟩ }
        have hlater : call.taken.length = count + 1 := by
          rw [Call.taken, List.length_take, Nat.min_eq_left hcount]
        have hless :
            writeBound first.stream + ((octet :: rest).drop (count + 1)).length < fuel := by
          have hkept : writeBound first.stream ≤ writeBound channel.stream := hbound
          rw [List.length_drop]
          omega
        have hgoesOn : ¬ call.Ends := by simp [call, Call.Ends, Call.IsRefused, Call.fatal?]
        obtain ⟨calls, hcalls⟩ := ih (written + (count + 1)) _ first hless
        exact ⟨call :: calls, hcalls.cons hgoesOn (by rw [hlater])
          (List.take_append_drop _ _).symm rfl hreceived ⟨rfl, rfl⟩⟩

end Delivery

section Settled

variable [Accepting σ]

/-- The bound on offers that are put off is no limit. -/
theorem writeFrom_settled (fuel more written : Nat) (rest : Bytes) (channel : StreamChannel σ)
    (hfuel : writeBound channel.stream + rest.length < fuel) :
    writeFrom (fuel + more) written rest channel = writeFrom fuel written rest channel := by
  induction fuel generalizing written rest channel with
  | zero => omega
  | succ fuel ih =>
    cases rest with
    | nil => rw [Nat.succ_add, writeFrom, writeFrom]
    | cons octet rest =>
      have hok := @Accepting.write_ok σ _ _ (octet :: rest) channel.stream
      have herror := @Accepting.write_error σ _ _ (octet :: rest) channel.stream
      rw [Nat.succ_add, writeFrom, writeFrom]
      rcases hwrite : ByteStream.write (octet :: rest) channel.stream with
        ⟨fault | _ | count, stream⟩
      · rw [hwrite] at herror
        dsimp only
        split
        next htransient =>
          have hless : writeBound stream < writeBound channel.stream := (herror rfl).2 htransient
          exact ih _ _ { channel with stream } (by dsimp only; omega)
        next => rfl
      · rfl
      · rw [hwrite] at hok
        obtain ⟨hcount, -, hbound⟩ := hok rfl
        dsimp only at hbound ⊢
        exact ih _ _ { channel with stream } (by rw [List.length_drop]; dsimp only; omega)

end Settled

/-! ## A logged channel behaves as an unlogged one -/

theorem flushFrom_unlogged (fuel written : Nat) (channel : StreamChannel (LoggedStream σ)) :
    flushFrom fuel written channel.unlogged =
      ((flushFrom fuel written channel).1, (flushFrom fuel written channel).2.unlogged) := by
  induction fuel generalizing channel with
  | zero => rfl
  | succ fuel ih =>
    have hstream : channel.unlogged.stream = channel.stream.stream := rfl
    rw [flushFrom, flushFrom, LoggedStream.flush_eq, hstream]
    rcases ByteStream.flush channel.stream.stream with ⟨fault | _, stream⟩
    · dsimp only
      split
      next =>
        exact ih { channel with
          stream := ⟨stream, channel.stream.calls ++ [.flushed (.error fault)]⟩ }
      next => rfl
    · rfl

theorem writeFrom_unlogged (fuel written : Nat) (rest : Bytes)
    (channel : StreamChannel (LoggedStream σ)) :
    writeFrom fuel written rest channel.unlogged =
      ((writeFrom fuel written rest channel).1,
        (writeFrom fuel written rest channel).2.unlogged) := by
  induction fuel generalizing written rest channel with
  | zero =>
    cases rest with
    | nil =>
      rw [writeFrom, writeFrom]
      exact flushFrom_unlogged _ _ channel
    | cons octet rest => rfl
  | succ fuel ih =>
    cases rest with
    | nil =>
      rw [writeFrom, writeFrom]
      exact flushFrom_unlogged _ _ channel
    | cons octet rest =>
      have hstream : channel.unlogged.stream = channel.stream.stream := rfl
      rw [writeFrom, writeFrom, LoggedStream.write_eq, hstream]
      rcases ByteStream.write (octet :: rest) channel.stream.stream with
        ⟨fault | _ | count, stream⟩
      · dsimp only
        split
        next =>
          exact ih _ _ { channel with
            stream := ⟨stream, channel.stream.calls ++ [.offered (octet :: rest) (.error fault)]⟩ }
        next => rfl
      · rfl
      · exact ih _ _ { channel with
          stream := ⟨stream, channel.stream.calls ++ [.offered (octet :: rest) (.ok (count + 1))]⟩ }

/-- A write of a frame through a channel whose stream is logged. -/
structure Delivered [Accepting σ] (channel : StreamChannel (LoggedStream σ)) (frame : Bytes) :
    Prop where
  /-- The write ends by itself: any greater bound on its calls gives the same. -/
  settled (fuel : Nat) (h : writeBound channel.stream.stream + frame.length < fuel) :
    writeFrom fuel 0 frame channel.unlogged = channel.unlogged.write frame
  /-- Every octet that the stream took is one of the frame, in order; and the outcome says what
  became of them. -/
  delivery : ∃ calls, Delivery 0 frame channel calls (channel.write frame)
  /-- Keeping a log makes no difference. -/
  unlogged_write :
    channel.unlogged.write frame = ((channel.write frame).1, (channel.write frame).2.unlogged)

/-- A channel over a stream delivers a beginning of each frame and reports it truthfully. Whatever
the stream answers, the write ends; what the stream has taken is a beginning of the frame; the write
succeeds just if no answer ended it, and then all of the frame was taken and flushed; an offer of
which nothing was taken is reported with the number of octets taken before; and any other fault is
reported as it is, and no call follows it. -/
theorem write_delivers [Accepting σ] (channel : StreamChannel (LoggedStream σ)) (frame : Bytes) :
    Delivered channel frame where
  settled fuel hfuel := by
    obtain ⟨more, rfl⟩ := Nat.exists_eq_add_of_le (Nat.succ_le_of_lt hfuel)
    exact writeFrom_settled _ more 0 frame channel.unlogged (Nat.lt_succ_self _)
  delivery := writeFrom_delivery _ 0 frame channel (Nat.lt_succ_self _)
  unlogged_write := writeFrom_unlogged _ 0 frame channel

/-- Two octets are taken, the stream asks for patience, one more is taken, and then none. -/
theorem write_delivers_three :
    let script : Script := { writes := [.ok 2, .error (.ofKind .wouldBlock), .ok 1, .ok 0] }
    let channel : StreamChannel (LoggedStream Script) := ofStream { stream := script }
    Delivered channel [1, 2, 3, 4] ∧
      (channel.write [1, 2, 3, 4]).1 = .error (.shortWrite 3 4) ∧
      (channel.write [1, 2, 3, 4]).2.stream.stream.taken = [1, 2, 3] := by
  intro script channel
  exact ⟨write_delivers channel _, by decide, by decide⟩

end StreamChannel

end FramedLink
