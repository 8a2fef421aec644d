import FramedLink.Bench
import FramedLink.Channel.RegularFile

/-!
# Ports of a bench

A port is a channel of a bench through which everything that will ever come is there from the
beginning, and which takes whole frames. What has gone through it is told by its `Traffic`: the
octets that are left to be read, those that were written, and what other lines hold meanwhile. A
port answers with these octets and nothing else, whatever it is made of.

There are two kinds. A pair of pipes without caps stays open when nothing is left. A regular file is
read to its end before the first octet is served, so what is written later stands behind what was
read, and is never read itself; the channel closes when all is served.
-/

namespace FramedLink

/-- The pipes and the streams of a bench. -/
abbrev Lines (σ : Type) := Array Pipe × Array (StreamChannel σ)

namespace Bench

variable {σ ι : Type} {bench bench' bench'' : Bench σ ι} {times : Millis → Prop}

def lines (bench : Bench σ ι) : Lines σ :=
  (bench.pipes, bench.streams)

def withLines (lines : Lines σ) (bench : Bench σ ι) : Bench σ ι :=
  { bench with pipes := lines.1, streams := lines.2 }

/-- Every reading that the clock will show is of some kind. -/
structure Shows (times : Millis → Prop) (bench : Bench σ ι) : Prop where
  standing : bench.readings = [] → times bench.clock.now
  set : ∀ reading ∈ bench.readings, times reading

/-- A change of a bench that concerns neither its lines nor its journal. The clock may have been
read. -/
structure Still (bench bench' : Bench σ ι) : Prop where
  lines : bench'.lines = bench.lines
  journal : bench'.journal = bench.journal
  shows {times : Millis → Prop} : bench.Shows times → bench'.Shows times

@[refl]
theorem Still.refl (bench : Bench σ ι) : bench.Still bench :=
  ⟨rfl, rfl, id⟩

theorem Still.trans (h : bench.Still bench') (h' : bench'.Still bench'') : bench.Still bench'' where
  lines := h'.lines.trans h.lines
  journal := h'.journal.trans h.journal
  shows hshows := h'.shows (h.shows hshows)

instance : Trans (@Still σ ι) (@Still σ ι) (@Still σ ι) :=
  ⟨Still.trans⟩

theorem still_note (event : Event) (bench : Bench σ ι) : bench.Still (bench.note event) := by
  unfold note
  split
  · exact ⟨rfl, rfl, fun hshows ↦ ⟨hshows.standing, hshows.set⟩⟩
  · exact .refl bench

theorem still_now (bench : Bench σ ι) : bench.Still bench.now.2 := by
  unfold now
  split
  case h_1 hreadings => exact .refl bench
  case h_2 reading later hreadings =>
    refine ⟨rfl, rfl, fun hshows ↦ ?_⟩
    have hset := List.forall_mem_cons.mp (hreadings ▸ hshows.set)
    exact ⟨fun _ ↦ hset.1, hset.2⟩

/-- An endpoint with valid settings is created under the next connection id. -/
theorem create_eq {config : Config} (hvalid : config.fault? = none) (channel : Channel (Bench σ ι))
    (bench : Bench σ ι) :
    ∃ bench', Endpoint.create (environment channel) config bench =
        (.ok (.ofConfig config bench.ids.draw.1), bench') ∧
      bench.Still bench' ∧ bench'.ids = bench.ids.draw.2 := by
  let drawn : Bench σ ι := { bench with ids := bench.ids.draw.2 }
  refine ⟨drawn.note (.created bench.ids.draw.1 config), ?_, ?_, ?_⟩
  · unfold Endpoint.create
    rw [hvalid]
    rfl
  · have hdrawn : bench.Still drawn := ⟨rfl, rfl, fun h ↦ ⟨h.standing, h.set⟩⟩
    exact hdrawn.trans (drawn.still_note _)
  · unfold note
    split <;> rfl

theorem Shows.now (h : bench.Shows times) : times bench.now.1 := by
  unfold Bench.now
  split
  case h_1 hreadings => exact h.standing hreadings
  case h_2 reading later hreadings => exact h.set reading (hreadings ▸ List.mem_cons_self)

theorem Shows.withLines (h : bench.Shows times) (lines : Lines σ) :
    (bench.withLines lines).Shows times :=
  ⟨h.standing, h.set⟩

end Bench

/-- What has gone through a port. -/
structure Traffic where
  /-- The octets that are left to be read. -/
  left : Bytes
  /-- What stands where the port writes. -/
  written : Bytes
  /-- What other lines hold. -/
  others : List Bytes := []

/-- A channel of a bench that says no more and no less than its traffic. Once it was asked what is
available, all that is left is at hand. -/
structure Port (σ ι : Type) where
  channel : Channel (Bench σ ι)
  /-- Whether the channel closes when nothing is left. -/
  closes : Bool
  Sound : Traffic → Lines σ → Prop
  AtHand : Traffic → Lines σ → Prop
  sound {traffic : Traffic} {lines : Lines σ} : AtHand traffic lines → Sound traffic lines
  available {traffic : Traffic} {bench : Bench σ ι} : Sound traffic bench.lines →
    ∃ lines events, AtHand traffic lines ∧ channel.available bench =
      (if traffic.left = [] ∧ closes then .error .closed else .ok traffic.left.length,
        { bench.withLines lines with events })
  read {traffic : Traffic} {bench : Bench σ ι} (size : Nat) : AtHand traffic bench.lines →
    ∃ lines, AtHand { traffic with left := traffic.left.drop size } lines ∧
      channel.read size bench =
        (⟨traffic.left.take size, .ok (traffic.left.take size).length⟩, bench.withLines lines)
  write {traffic : Traffic} {bench : Bench σ ι} (frame : Bytes) : AtHand traffic bench.lines →
    ∃ lines, AtHand { traffic with written := traffic.written ++ frame } lines ∧
      channel.write frame bench = (.ok frame.length, bench.withLines lines)

/-- The endpoint behind a port has these surroundings. -/
def Port.environment {σ ι : Type} (port : Port σ ι) : Environment (Bench σ ι) :=
  Bench.environment port.channel

/-! ## Pipes -/

def Pipe.holding (octets : Bytes) : Pipe :=
  Pipe.feed octets {}

namespace Pipe

theorem available_holding (octets : Bytes) : (holding octets).available = octets.length :=
  Nat.zero_add _

theorem drain_holding (octets : Bytes) (size : Nat) :
    (holding octets).drain size = (octets.take size, holding (octets.drop size)) := by
  have hqueue : ((holding octets).queue.pop size).2 = (holding (octets.drop size)).queue :=
    ByteQueue.ext rfl
  exact Prod.ext rfl (congrArg (fun queue ↦ Pipe.mk queue none) hqueue)

theorem feed_holding (octets more : Bytes) :
    feed more (holding octets) = holding (octets ++ more) := by
  have hqueue : (holding octets).queue.push more = (holding (octets ++ more)).queue :=
    ByteQueue.ext rfl
  exact congrArg (fun queue ↦ Pipe.mk queue none) hqueue

end Pipe

namespace Port

variable {σ ι : Type} {incoming outgoing i : Nat} {others : List Nat} {traffic : Traffic}
variable {lines : Lines σ}

/-- The pipes of a port hold its traffic. -/
structure Held (incoming outgoing : Nat) (others : List Nat) (traffic : Traffic)
    (lines : Lines σ) : Prop where
  left : lines.1[incoming]? = some (.holding traffic.left)
  written : lines.1[outgoing]? = some (.holding traffic.written)
  others : others.map (lines.1[·]?) = traffic.others.map (some ∘ Pipe.holding)

theorem get_pipe {bench : Bench σ ι} {pipe : Pipe} (h : bench.lines.1[i]? = some pipe) :
    (Bench.pipe i).get bench = pipe := by
  have hpipe : bench.pipes[i]? = some pipe := h
  simp only [Bench.pipe, Array.getD_eq_getD_getElem?, hpipe, Option.getD_some]

/-- Other pipes are as before when something is put into one. -/
theorem others_set {pipe : Pipe} (hmem : i ∉ others) :
    others.map ((lines.1.setIfInBounds i pipe)[·]?) = others.map (lines.1[·]?) := by
  apply List.map_congr_left
  intro j hj
  have hne : i ≠ j := fun h ↦ hmem (h ▸ hj)
  exact Array.getElem?_setIfInBounds_ne hne

theorem getElem?_set {pipe pipe' : Pipe} (h : lines.1[i]? = some pipe) :
    (lines.1.setIfInBounds i pipe')[i]? = some pipe' := by
  obtain ⟨hlt, -⟩ := Array.getElem?_eq_some_iff.mp h
  rw [Array.getElem?_setIfInBounds_self_of_lt hlt]

/-- The port between two pipes of a bench, with an eye on some of the others. -/
def memory (incoming outgoing : Nat) (others : List Nat)
    (hapart : incoming ≠ outgoing ∧ incoming ∉ others ∧ outgoing ∉ others) : Port σ ι where
  channel := .memory (Bench.pipe incoming) (Bench.pipe outgoing)
  closes := false
  Sound := Held incoming outgoing others
  AtHand := Held incoming outgoing others
  sound := id
  available {traffic bench} h := by
    refine ⟨bench.lines, bench.events, h, ?_⟩
    simp only [Channel.memory, get_pipe h.left, Pipe.available_holding, Bool.false_eq_true,
      and_false, if_false]
    rfl
  read {traffic bench} size h := by
    let after : Pipe := .holding (traffic.left.drop size)
    refine ⟨(bench.pipes.setIfInBounds incoming after, bench.streams), ?_, ?_⟩
    · constructor
      case left => exact getElem?_set h.left
      case written =>
        rw [← h.written]
        exact Array.getElem?_setIfInBounds_ne hapart.1
      case others => exact (others_set hapart.2.1).trans h.others
    · simp only [Channel.memory, Slot.run, get_pipe h.left, Pipe.drain_holding]
      rfl
  write {traffic bench} frame h := by
    let after : Pipe := .holding (traffic.written ++ frame)
    refine ⟨(bench.pipes.setIfInBounds outgoing after, bench.streams), ?_, ?_⟩
    · constructor
      case left =>
        rw [← h.left]
        exact Array.getElem?_setIfInBounds_ne hapart.1.symm
      case written => exact getElem?_set h.written
      case others => exact (others_set hapart.2.2).trans h.others
    · simp only [Channel.memory, Slot.modify, get_pipe h.written, Pipe.feed_holding]
      rfl

end Port

/-! ## Regular files -/

namespace RegularFile

variable {channel : StreamChannel RegularFile}

def atEnd (file : RegularFile) : RegularFile :=
  ⟨file.contents.reverse, []⟩

theorem pass_ahead (file : RegularFile) : file.pass file.ahead = file.atEnd := by
  simp only [pass, atEnd, contents, List.reverse_append, List.reverse_reverse, List.drop_length]

theorem atEnd_of_ahead {file : RegularFile} (h : file.ahead = []) : file.atEnd = file := by
  obtain ⟨passed, ahead⟩ := file
  obtain rfl : ahead = [] := h
  simp only [atEnd, contents, List.append_nil, List.reverse_reverse]

theorem contents_atEnd (file : RegularFile) : file.atEnd.contents = file.contents := by
  simp [atEnd, contents]

theorem contents_pass_take (file : RegularFile) (size : Nat) :
    (file.pass (file.ahead.take size)).contents = file.contents := by
  have hdrop : file.ahead.drop (file.ahead.take size).length = file.ahead.drop size := by
    rw [List.length_take]
    rcases Nat.le_total size file.ahead.length with hle | hle
    · rw [Nat.min_eq_left hle]
    · rw [Nat.min_eq_right hle, List.drop_length, List.drop_of_length_le hle]
  simp only [pass, contents, hdrop, List.reverse_append, List.reverse_reverse, List.append_assoc,
    List.take_append_drop]

/-- What is written at the end of a file stands behind its contents. -/
theorem contents_pass {file : RegularFile} (h : file.ahead = []) (octets : Bytes) :
    (file.pass octets).contents = file.contents ++ octets := by
  simp only [contents, pass, h, List.drop_nil, List.append_nil, List.reverse_append,
    List.reverse_reverse]

end RegularFile

namespace StreamChannel

variable {channel : StreamChannel RegularFile}

/-- A channel over a file reads block by block up to the end of the file. -/
theorem fillFrom_file (fuel : Nat) (channel : StreamChannel RegularFile)
    (hfuel : channel.stream.ahead.length < fuel) :
    ∃ after, fillFrom fuel channel = (.ok (), after) ∧ after.stream = channel.stream.atEnd ∧
      after.pending.octets = channel.pending.octets ++ channel.stream.ahead ∧
      (channel.stream.ahead = [] → after.ended = true) := by
  induction fuel generalizing channel with
  | zero => omega
  | succ fuel ih =>
    obtain ⟨file, pending, ended⟩ := channel
    dsimp only at hfuel ⊢
    have hread : ByteStream.read readBlockSize file =
        (.ok (file.ahead.take readBlockSize), file.pass (file.ahead.take readBlockSize)) := rfl
    rw [fillFrom, hread]
    cases hblock : file.ahead.take readBlockSize with
    | nil =>
      have hempty : file.ahead = [] :=
        (List.take_eq_nil_iff.mp hblock).resolve_left (by decide)
      refine ⟨_, rfl, ?_, ?_, fun _ ↦ rfl⟩
      · rw [← file.pass_ahead, hempty]
      · rw [hempty, List.append_nil]
    | cons octet block =>
      have hsome : file.ahead ≠ [] := fun h ↦ by simp [h] at hblock
      dsimp only
      split
      case isTrue hpart =>
        -- a block that is not full is all that is ahead
        have hall : file.ahead.take readBlockSize = file.ahead := by
          apply List.take_of_length_le
          rw [← hblock, List.length_take] at hpart
          omega
        rw [← hblock, hall]
        refine ⟨_, rfl, file.pass_ahead, ?_, fun h ↦ absurd h hsome⟩
        exact ByteQueue.octets_push _ _
      case isFalse hfull =>
        rw [← hblock] at hfull ⊢
        have hdropped : (file.pass (file.ahead.take readBlockSize)).ahead =
            file.ahead.drop readBlockSize := by
          rw [List.length_take] at hfull
          simp only [RegularFile.pass, List.length_take]
          rw [Nat.min_eq_left (by omega)]
        obtain ⟨after, hfill, hstream, hpending, -⟩ := ih
          ⟨file.pass (file.ahead.take readBlockSize), pending.push (file.ahead.take readBlockSize),
            ended⟩ (by
            have hpositive : 0 < file.ahead.length := List.length_pos_iff.mpr hsome
            dsimp only
            rw [hdropped, List.length_drop]
            unfold readBlockSize
            omega)
        dsimp only at hstream hpending
        refine ⟨after, hfill, ?_, ?_, fun h ↦ absurd h hsome⟩
        · rw [hstream, RegularFile.atEnd, RegularFile.contents_pass_take]
          rfl
        · rw [hpending, hdropped, ByteQueue.octets_push, List.append_assoc, List.take_append_drop]

/-- What a channel over a file has still to serve. -/
def unserved (channel : StreamChannel RegularFile) : Bytes :=
  channel.pending.octets ++ channel.stream.ahead

/-- A channel over a file takes in all of it when it is asked what is available, and closes when
nothing is left. -/
theorem available_file (hended : channel.ended = true → channel.stream.ahead = []) :
    ∃ after : StreamChannel RegularFile, channel.available =
        (if channel.unserved = [] then .error .closed else .ok channel.unserved.length, after) ∧
      after.stream = channel.stream.atEnd ∧ after.pending.octets = channel.unserved := by
  obtain ⟨after, hfill, hstream, hpending, hclosed⟩ :
      ∃ after, channel.fill = (.ok (), after) ∧ after.stream = channel.stream.atEnd ∧
        after.pending.octets = channel.unserved ∧
        (channel.stream.ahead = [] → after.ended = true) := by
    unfold fill
    split
    case isTrue hover =>
      have hahead := hended hover
      refine ⟨channel, rfl, ?_, ?_, fun _ ↦ hover⟩
      · exact (RegularFile.atEnd_of_ahead hahead).symm
      · rw [unserved, hahead, List.append_nil]
    case isFalse => exact fillFrom_file _ channel (Nat.lt_succ_self _)
  refine ⟨after, ?_, hstream, hpending⟩
  unfold available
  rw [hfill]
  dsimp only
  rw [after.pending.size_eq, hpending]
  by_cases hempty : channel.unserved = []
  · have hahead : channel.stream.ahead = [] := (List.append_eq_nil_iff.mp hempty).2
    simp [hempty, hclosed hahead]
  · simp [hempty]

theorem write_file (frame : Bytes) (channel : StreamChannel RegularFile) :
    channel.write frame =
      (.ok frame.length, { channel with stream := channel.stream.pass frame }) := by
  have hflush (written : Nat) (channel : StreamChannel RegularFile) :
      flushFrom (ByteStream.flushBound channel.stream + 1) written channel =
        (.ok written, channel) := rfl
  have hrest (octet : UInt8) (rest : Bytes) : (octet :: rest).drop (rest.length + 1) = [] :=
    List.drop_length
  unfold write
  cases frame with
  | nil =>
    rw [writeFrom, hflush]
    simp [RegularFile.pass]
  | cons octet rest =>
    have htaken : ByteStream.write (octet :: rest) channel.stream =
        (.ok (rest.length + 1), channel.stream.pass (octet :: rest)) := rfl
    rw [writeFrom, htaken]
    simp only [hrest, writeFrom, Nat.zero_add, List.length_cons]
    exact hflush _ _

end StreamChannel

namespace Port

variable {ι : Type}

/-- The channel over a file holds the traffic of its port. -/
structure Filed (i : Nat) (traffic : Traffic) (channel : StreamChannel RegularFile)
    (lines : Lines RegularFile) : Prop where
  place : lines.2[i]? = some channel
  left : channel.unserved = traffic.left
  written : channel.stream.contents = traffic.written
  others : traffic.others = []

theorem get_stream {bench : Bench RegularFile ι} {channel : StreamChannel RegularFile} {i : Nat}
    (h : bench.lines.2[i]? = some channel) : (Bench.stream i).get bench = channel := by
  have hstream : bench.streams[i]? = some channel := h
  simp only [Bench.stream, Array.getD_eq_getD_getElem?, hstream, Option.getD_some]

theorem Filed.set {i : Nat} {traffic : Traffic} {lines : Lines RegularFile}
    {channel : StreamChannel RegularFile} (h : Filed i traffic channel lines)
    (traffic' : Traffic) (after : StreamChannel RegularFile)
    (hleft : after.unserved = traffic'.left) (hwritten : after.stream.contents = traffic'.written)
    (hothers : traffic'.others = traffic.others) :
    Filed i traffic' after (lines.1, lines.2.setIfInBounds i after) where
  place := by
    obtain ⟨hlt, -⟩ := Array.getElem?_eq_some_iff.mp h.place
    exact Array.getElem?_setIfInBounds_self_of_lt hlt
  left := hleft
  written := hwritten
  others := hothers.trans h.others

/-- The port over a file of a bench. -/
def file (i : Nat) : Port RegularFile ι where
  channel := Bench.streamChannel i
  closes := true
  Sound traffic lines := ∃ channel, Filed i traffic channel lines ∧
    (channel.ended = true → channel.stream.ahead = [])
  AtHand traffic lines := ∃ channel, Filed i traffic channel lines ∧ channel.stream.ahead = []
  sound := by
    rintro traffic lines ⟨channel, hfiled, hahead⟩
    exact ⟨channel, hfiled, fun _ ↦ hahead⟩
  available := by
    rintro traffic bench ⟨channel, hfiled, hended⟩
    obtain ⟨after, havailable, hstream, hpending⟩ := StreamChannel.available_file hended
    have hahead : after.stream.ahead = [] := by rw [hstream]; rfl
    have hafter := hfiled.set traffic after
      (by rw [StreamChannel.unserved, hahead, hpending, List.append_nil, hfiled.left])
      (by rw [hstream, RegularFile.contents_atEnd, hfiled.written]) rfl
    let told : Bench RegularFile ι :=
      bench.withLines (bench.pipes, bench.streams.setIfInBounds i after)
    let ending : Bench RegularFile ι :=
      if after.ended && !channel.ended then told.note .streamEnded else told
    have hending : ending = { told with events := ending.events } := by
      dsimp only [ending, Bench.note]
      split
      · split <;> rfl
      · rfl
    refine ⟨_, ending.events, ⟨after, hafter, hahead⟩, ?_⟩
    have hchannel : (Bench.streamChannel i).available bench =
        ((channel.available).1, ending) := by
      simp only [Bench.streamChannel, Channel.stream, get_stream hfiled.place, havailable]
      rfl
    rw [hchannel, havailable, hfiled.left, hending]
    simp only [and_true]
    rfl
  read := by
    rintro traffic bench size ⟨channel, hfiled, hahead⟩
    have hpending : channel.pending.octets = traffic.left := by
      rw [← hfiled.left, StreamChannel.unserved, hahead, List.append_nil]
    let after : StreamChannel RegularFile :=
      { channel with pending := (channel.pending.pop size).2 }
    have hafter := hfiled.set { traffic with left := traffic.left.drop size } after
      (by rw [StreamChannel.unserved, hahead, List.append_nil, ByteQueue.octets_pop_snd, hpending])
      hfiled.written rfl
    refine ⟨_, ⟨after, hafter, hahead⟩, ?_⟩
    simp only [Bench.streamChannel, Channel.stream, Slot.run, get_stream hfiled.place,
      StreamChannel.read, ByteQueue.pop_fst, hpending]
    rfl
  write := by
    rintro traffic bench frame ⟨channel, hfiled, hahead⟩
    let after : StreamChannel RegularFile := { channel with stream := channel.stream.pass frame }
    have hnone : after.stream.ahead = [] := by
      dsimp only [after, RegularFile.pass]
      rw [hahead, List.drop_nil]
    have hafter := hfiled.set { traffic with written := traffic.written ++ frame } after
      (by
        rw [StreamChannel.unserved, hnone, ← hfiled.left, StreamChannel.unserved, hahead])
      (by rw [RegularFile.contents_pass hahead, hfiled.written]) rfl
    refine ⟨_, ⟨after, hafter, hnone⟩, ?_⟩
    simp only [Bench.streamChannel, Channel.stream, Slot.run, get_stream hfiled.place,
      StreamChannel.write_file]
    rfl

end Port

end FramedLink
