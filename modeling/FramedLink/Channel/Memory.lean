import FramedLink.Channel.Basic
import FramedLink.Channel.Queue

/-!
# Channels in memory

A pipe is a queue of octets with an optional cap on how many it hands out at a time, as a device
with a small buffer does. A channel in memory reads from one pipe and writes to another. Two
channels that use the same two pipes the other way round are the two ends of a wire.
-/

namespace FramedLink

/-- A queue of octets, with a cap on what one call reports or takes. -/
structure Pipe where
  queue : ByteQueue := .empty
  cap : Option Nat := none

namespace Pipe

instance : Inhabited Pipe := ⟨{}⟩

def capped (pipe : Pipe) (count : Nat) : Nat :=
  pipe.cap.elim count (min count)

/-- Octets that one call may take. -/
def available (pipe : Pipe) : Nat :=
  pipe.capped pipe.queue.size

def feed (octets : Bytes) (pipe : Pipe) : Pipe :=
  { pipe with queue := pipe.queue.push octets }

/-- Takes up to `size` octets out of the pipe, and no more than the cap allows. -/
def drain (size : Nat) (pipe : Pipe) : Bytes × Pipe :=
  let (octets, queue) := pipe.queue.pop (pipe.capped size)
  (octets, { pipe with queue })

/-- A pipe that lets nothing through at once is empty or capped at zero. -/
theorem available_eq_zero_iff (pipe : Pipe) :
    pipe.available = 0 ↔ pipe.queue.octets = [] ∨ pipe.cap = some 0 := by
  have hempty : pipe.queue.size = 0 ↔ pipe.queue.octets = [] := by
    rw [pipe.queue.size_eq, List.length_eq_zero_iff]
  unfold available capped
  cases pipe.cap with
  | none => simp [hempty]
  | some cap =>
    rw [Option.elim_some, ← hempty, Option.some_inj]
    omega

/-- What is available can be taken. -/
theorem capped_of_le {pipe : Pipe} {size : Nat} (h : size ≤ pipe.available) :
    pipe.capped size = size := by
  unfold available capped at *
  cases hcap : pipe.cap with
  | none => rfl
  | some cap =>
    rw [hcap, Option.elim_some] at h
    rw [Option.elim_some]
    omega

theorem capped_le (pipe : Pipe) (size : Nat) : pipe.capped size ≤ size := by
  unfold capped
  cases pipe.cap with
  | none => exact Nat.le_refl _
  | some cap => exact Nat.min_le_left _ _

theorem available_le_length (pipe : Pipe) : pipe.available ≤ pipe.queue.octets.length := by
  rw [← pipe.queue.size_eq]
  unfold available capped
  cases pipe.cap with
  | none => exact Nat.le_refl _
  | some cap => exact Nat.min_le_left _ _

/-- Takes everything out of the pipe, whatever the cap. -/
def takeAll (pipe : Pipe) : Bytes × Pipe :=
  (pipe.queue.octets, { pipe with queue := .empty })

end Pipe

/-- The channel that reads from one pipe and writes to another. -/
def Channel.memory {ω : Type} (incoming outgoing : Slot ω Pipe) : Channel ω where
  available w := (.ok (incoming.get w).available, w)
  read size w :=
    let (octets, w) := incoming.run (Pipe.drain size) w
    (⟨octets, .ok octets.length⟩, w)
  write octets w := (.ok octets.length, outgoing.modify (Pipe.feed octets) w)

end FramedLink
