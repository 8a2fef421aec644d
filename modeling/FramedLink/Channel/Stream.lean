import FramedLink.Channel.Basic
import FramedLink.Channel.Queue

/-!
# Channels over byte streams

A byte stream is read in blocks, takes part of what it is offered, and may ask for patience. The
channel over a stream drains what is ready into a buffer of its own and serves reads from there; it
writes a frame piece by piece until everything was taken and flushed. Once a stream has ended it is
never read again, and the channel closes when its buffer is empty.
-/

namespace FramedLink

/-- A stream of octets with state `σ`. The bounds say how many more calls of a kind can end in
anything but an answer that finishes the work at hand. -/
class ByteStream (σ : Type) where
  /-- Reads a block of at most the given size; an empty block is the end of the stream. -/
  read : Nat → σ → Except IoFault Bytes × σ
  /-- Offers octets; how many of them were taken. -/
  write : Bytes → σ → Except IoFault Nat × σ
  /-- Passes on what was taken. -/
  flush : σ → Except IoFault Unit × σ
  /-- Bound on the reads that fill a block or are interrupted. -/
  readBound : σ → Nat
  /-- Bound on the offers that are put off. -/
  writeBound : σ → Nat
  /-- Bound on the flushes that are put off. -/
  flushBound : σ → Nat

def readBlockSize : Nat := 1024

/-- A channel over a stream, with what was read and not yet asked for, and whether the stream has
ended. -/
structure StreamChannel (σ : Type) where
  stream : σ
  pending : ByteQueue := .empty
  ended : Bool := false

namespace StreamChannel

variable {σ : Type} [ByteStream σ]

def ofStream (stream : σ) : StreamChannel σ := { stream }

/-- Reads blocks until one is not full, nothing is ready, or the stream ends. Every block read is
kept, also when a later read fails. -/
def fillFrom : (fuel : Nat) → StreamChannel σ → Except ChannelError Unit × StreamChannel σ
  | 0, channel => (.ok (), channel)
  | fuel + 1, channel =>
    match ByteStream.read readBlockSize channel.stream with
    | (.ok [], stream) => (.ok (), { channel with stream, ended := true })
    | (.ok block, stream) =>
      let channel := { channel with stream, pending := channel.pending.push block }
      if block.length < readBlockSize then (.ok (), channel) else fillFrom fuel channel
    | (.error fault, stream) =>
      let channel := { channel with stream }
      if fault.kind = .interrupted then fillFrom fuel channel
      else if fault.isIdle then (.ok (), channel)
      else (.error (.device fault), channel)

def fill (channel : StreamChannel σ) : Except ChannelError Unit × StreamChannel σ :=
  if channel.ended then (.ok (), channel)
  else fillFrom (ByteStream.readBound channel.stream + 1) channel

def available (channel : StreamChannel σ) : Except ChannelError Nat × StreamChannel σ :=
  match channel.fill with
  | (.error e, channel) => (.error e, channel)
  | (.ok (), channel) =>
    if channel.ended && channel.pending.size == 0 then (.error .closed, channel)
    else (.ok channel.pending.size, channel)

/-- Serves a read from what was taken in. -/
def read (size : Nat) (channel : StreamChannel σ) : Reading × StreamChannel σ :=
  let (octets, pending) := channel.pending.pop size
  (⟨octets, .ok octets.length⟩, { channel with pending })

/-- Flushes until it succeeds, with `written` octets taken before. -/
def flushFrom : (fuel written : Nat) → StreamChannel σ → Except ChannelError Nat × StreamChannel σ
  | 0, _, channel => (.error (.device (.ofKind .interrupted)), channel)
  | fuel + 1, written, channel =>
    match ByteStream.flush channel.stream with
    | (.ok (), stream) => (.ok written, { channel with stream })
    | (.error fault, stream) =>
      let channel := { channel with stream }
      if fault.isTransient then flushFrom fuel written channel
      else (.error (.device fault), channel)

/-- Offers the rest of a frame until all of it was taken, with `written` octets taken before. -/
def writeFrom : (fuel written : Nat) → (rest : Bytes) → StreamChannel σ →
    Except ChannelError Nat × StreamChannel σ
  | _, written, [], channel => flushFrom (ByteStream.flushBound channel.stream + 1) written channel
  | 0, _, _ :: _, channel => (.error (.device (.ofKind .interrupted)), channel)
  | fuel + 1, written, rest@(_ :: _), channel =>
    match ByteStream.write rest channel.stream with
    | (.ok 0, stream) =>
      (.error (.shortWrite written (written + rest.length)), { channel with stream })
    | (.ok taken, stream) =>
      writeFrom fuel (written + taken) (rest.drop taken) { channel with stream }
    | (.error fault, stream) =>
      let channel := { channel with stream }
      if fault.isTransient then writeFrom fuel written rest channel
      else (.error (.device fault), channel)

def write (frame : Bytes) (channel : StreamChannel σ) : Except ChannelError Nat × StreamChannel σ :=
  writeFrom (ByteStream.writeBound channel.stream + frame.length + 1) 0 frame channel

end StreamChannel

/-- The channel over a stream that lies in the surroundings. `onEnd` is told once, when the end of
the stream is first met. -/
def Channel.stream {ω σ : Type} [ByteStream σ] (place : Slot ω (StreamChannel σ)) (onEnd : ω → ω) :
    Channel ω where
  available w :=
    let before := place.get w
    let (answer, after) := before.available
    let w := place.set after w
    (answer, if after.ended && !before.ended then onEnd w else w)
  read size := place.run (StreamChannel.read size)
  write frame := place.run (StreamChannel.write frame)

end FramedLink
