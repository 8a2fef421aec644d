/-!
# Time

Readings of a clock are milliseconds since some fixed moment, as 64-bit words. Deadlines are set so
that they never wrap around: a time too far ahead is the last one that can be told. A clock moved by
hand does wrap.
-/

namespace FramedLink

/-- A reading of a clock, or a span of time, in milliseconds. -/
abbrev Millis := UInt64

namespace Millis

/-- The last time that can be told. -/
def latest : Millis := 0xffffffffffffffff

/-- The time a span after another, at most the last one. -/
def after (start span : Millis) : Millis :=
  if start.toNat + span.toNat < UInt64.size then start + span else latest

/-- The span from an earlier time to a later one, zero if the order is the other way. -/
def since (now start : Millis) : Millis :=
  if start ≤ now then now - start else 0

theorem toNat_after (start span : Millis) :
    (after start span).toNat = min (start.toNat + span.toNat) (UInt64.size - 1) := by
  unfold after UInt64.size
  split
  · rw [UInt64.toNat_add]
    omega
  · have hlatest : latest.toNat = 18446744073709551615 := rfl
    omega

theorem le_after (start span : Millis) : start ≤ after start span := by
  have hlt : start.toNat < UInt64.size := start.toNat_lt
  rw [UInt64.le_iff_toNat_le, toNat_after]
  omega

theorem toNat_since (now start : Millis) : (since now start).toNat = now.toNat - start.toNat := by
  unfold since
  split
  case isTrue h => rw [UInt64.toNat_sub_of_le _ _ h]
  case isFalse h =>
    rw [UInt64.le_iff_toNat_le] at h
    have hzero : (0 : Millis).toNat = 0 := rfl
    omega

end Millis

/-- A clock that is moved by hand. -/
structure ManualClock where
  now : Millis
  deriving DecidableEq, Repr, Inhabited

namespace ManualClock

/-- Moves time forward; past the last time it starts over. -/
def advance (span : Millis) (clock : ManualClock) : ManualClock :=
  ⟨clock.now + span⟩

def set (time : Millis) (_ : ManualClock) : ManualClock :=
  ⟨time⟩

end ManualClock

end FramedLink
