import FramedLink.Endpoint.Event
import FramedLink.Channel.Basic
import FramedLink.Time

/-!
# The surroundings of an endpoint

An endpoint reaches the world only through a few openings: its channel, a clock, a supply of
connection ids, and a place where events are noted. The world itself is a value `ω` that these
change.
-/

namespace FramedLink

/-- Connection ids to be drawn: those prescribed, and then one after another from `next` on.
Whatever a run draws, it draws only so many, so a long enough list stands for any source of ids. -/
structure IdSupply where
  prescribed : List UInt32 := []
  next : UInt32
  deriving DecidableEq, Repr, Inhabited

namespace IdSupply

/-- The id after another one; zero is left out. -/
def successor (id : UInt32) : UInt32 :=
  if id + 1 = 0 then 1 else id + 1

def draw (supply : IdSupply) : UInt32 × IdSupply :=
  match supply.prescribed with
  | id :: rest => (id, { supply with prescribed := rest })
  | [] => (supply.next, { supply with next := successor supply.next })

/-- Draws until the id differs from `present`, first from those prescribed. -/
def drawOtherFrom (present next : UInt32) : List UInt32 → UInt32 × IdSupply
  | [] =>
    if next = present then
      let id := successor next
      (id, ⟨[], successor id⟩)
    else (next, ⟨[], successor next⟩)
  | id :: rest => if id = present then drawOtherFrom present next rest else (id, ⟨rest, next⟩)

def drawOther (present : UInt32) (supply : IdSupply) : UInt32 × IdSupply :=
  drawOtherFrom present supply.next supply.prescribed

theorem successor_ne (id : UInt32) : successor id ≠ id := by
  unfold successor
  intro h
  split at h
  case isTrue hz =>
    rw [← h] at hz
    exact absurd hz (by decide)
  case isFalse hz => simp at h

theorem drawOther_ne (present : UInt32) (supply : IdSupply) :
    (supply.drawOther present).1 ≠ present := by
  obtain ⟨prescribed, next⟩ := supply
  unfold drawOther
  induction prescribed with
  | nil =>
    simp only [drawOtherFrom]
    split
    case isTrue h =>
      subst h
      exact successor_ne _
    case isFalse h => exact h
  | cons id rest ih =>
    simp only [drawOtherFrom] at ih ⊢
    split
    · exact ih
    · assumption

end IdSupply

/-- The openings through which an endpoint reaches the world. -/
structure Environment (ω : Type) where
  channel : Channel ω
  now : ω → Millis × ω
  /-- Where connection ids come from. -/
  ids : Slot ω IdSupply
  note : Event → ω → ω

end FramedLink
