import FramedLink.Endpoint.Receive
import FramedLink.Proofs.Handling.Conduct

/-!
# What goes on during a poll

A poll collects octets, judges them and hands packets to handlers, in turns of which each depends on
what the channel does. An invariant that survives handling, and that takes no interest in what is
being collected, survives all of this, whatever the channel is and however the poll ends
(`Steady.poll`). While a packet is in hand more may be known, which the invariant then only has to
follow from in the end (`Phased.poll`).
-/

namespace FramedLink

/-- Events that receiving notes by itself. -/
def Event.IsReception : Event → Prop
  | .noiseDiscarded _ | .oversize .. | .badTrailer _ | .stalled .. | .unreadableHeader _
  | .dispatching .. | .unhandled _ => True
  | _ => False

/-- What is counted about the link: how often it came up, and how often it was taken down. -/
def Counters.changes (counters : Counters) : Nat × Nat :=
  (counters.connects, counters.disconnects)

namespace Station

variable {s : Station}

theorem link_expire (now : Millis) : (s.expire now).1.link = s.link := by
  unfold expire giveUp
  dsimp only
  split
  · split <;> rfl
  · rfl

theorem link_resync : s.resync.link = s.link := by
  unfold resync
  split <;> rfl

theorem link_judgeHeader : s.judgeHeader.1.link = s.link := by
  unfold judgeHeader
  split
  · split
    · rfl
    · exact link_resync
  · exact link_resync

theorem changes_expire (now : Millis) :
    (s.expire now).1.counters.changes = s.counters.changes := by
  unfold expire giveUp
  dsimp only
  split
  · split <;> rfl
  · rfl

theorem changes_resync : s.resync.counters.changes = s.counters.changes := by
  unfold resync
  split <;> rfl

theorem changes_judgeHeader : s.judgeHeader.1.counters.changes = s.counters.changes := by
  unfold judgeHeader
  split
  · split
    · rfl
    · exact changes_resync
  · exact changes_resync

/-- What is noted when a late packet is given up. -/
theorem isReception_of_mem_expire {now : Millis} {event : Event} (h : event ∈ (s.expire now).2) :
    event.IsReception := by
  unfold expire giveUp at h
  dsimp only at h
  split at h
  · split at h
    · cases h
      trivial
    · cases h
  · cases h

/-- What is noted when a header is judged. -/
theorem isReception_of_mem_judgeHeader {event : Event} (h : event ∈ s.judgeHeader.2) :
    event.IsReception := by
  unfold judgeHeader at h
  split at h
  · split at h
    · cases h
    · cases h
      trivial
  · cases h
    trivial

end Station

namespace Endpoint

variable {ω : Type}

/-- What an invariant has to survive so that it survives a poll, and what has to hold besides while
a packet is in hand: the invariant survives every change of the state that concerns neither the link
nor what is counted of it, what receiving notes, and the channel. When a packet is taken in hand,
the latter holds; it survives handling, and the invariant follows from it. -/
structure Phased (env : Environment ω) (c : Conduct ω) (I : Endpoint ω → ω → Prop)
    (J : Header → Endpoint ω → ω → Prop) : Prop where
  station {e w s} : s.link = e.link → s.counters.changes = e.counters.changes → I e w →
    I { e with toStation := s } w
  note {e w event} : event.IsReception → I e w → I e (env.note event w)
  now {e w} : I e w → I e (env.now w).2
  available {e w} : I e w → I e (env.channel.available w).2
  read {e w} (size : Nat) : I e w → I e (env.channel.read size w).2
  begins {e w} (header : Header) : e.reception.region.limit ≤ e.reception.region.capacity → I e w →
    J header e (env.note (.dispatching header e.reception.region.payload) w)
  upheld (header : Header) : Upheld env c header (J header)
  counted {header e w} (round : Round) : J header e w →
    J header { e with counters := countRound e.counters round } w
  unhandled {header e w} : J header e w → J header e (env.note (.unhandled header.type) w)
  ends {header e w} : J header e w → I e w

namespace Phased

variable {env : Environment ω} {c : Conduct ω} {I : Endpoint ω → ω → Prop}
variable {J : Header → Endpoint ω → ω → Prop} {e : Endpoint ω} {w : ω}

theorem noteStep (hI : Phased env c I J) {s : Station} {event : Option Event}
    (hlink : s.link = e.link) (hchanges : s.counters.changes = e.counters.changes)
    (hevent : ∀ noted ∈ event, noted.IsReception) (h : I e w) :
    I (Endpoint.noteStep env e w (s, event)).1 (Endpoint.noteStep env e w (s, event)).2 := by
  cases event with
  | none => exact hI.station hlink hchanges h
  | some noted => exact hI.note (hevent noted rfl) (hI.station hlink hchanges h)

theorem dispatch (hI : Phased env c I J) (header : Header)
    (hopen : e.reception.region.limit ≤ e.reception.region.capacity) (hwithin : e.Within c)
    (h : I e w) :
    I (e.dispatch env header w).1 (e.dispatch env header w).2 ∧
      (e.dispatch env header w).1.Within c := by
  obtain ⟨hkept, hstill⟩ := (hI.upheld header).dispatch hI.counted hI.unhandled hwithin
    (hI.begins header hopen h)
  exact ⟨hI.ends hkept, hstill⟩

theorem completePacket (hI : Phased env c I J) (hwithin : e.Within c) (h : I e w) :
    I (e.completePacket env w).2.1 (e.completePacket env w).2.2 ∧
      (e.completePacket env w).2.1.Within c := by
  unfold Endpoint.completePacket
  cases e.judgePacket with
  | deliver header =>
    let opened : Endpoint ω := { e with toStation := e.openPacket }
    let handled := opened.dispatch env header w
    have hopened : I opened w := hI.station rfl rfl h
    have hwithin' : opened.Within c := hwithin.of_tables rfl
    obtain ⟨hkept, hstill⟩ : I handled.1 handled.2 ∧ handled.1.Within c :=
      hI.dispatch header (Nat.min_le_right _ _) hwithin' hopened
    have hcleared : I { handled.1 with toStation := handled.1.clearReception } handled.2 :=
      hI.station rfl rfl hkept
    exact ⟨hcleared, hstill.of_tables rfl⟩
  | badTrailer error =>
    let counted : Station :=
      { e.toStation with
        counters := { e.counters with checksumFailures := e.counters.checksumFailures + 1 } }
    have hcleared : I { e with toStation := counted.clearReception } w := hI.station rfl rfl h
    exact ⟨hI.note trivial hcleared, hwithin.of_tables rfl⟩
  | unreadable error =>
    have hcleared : I { e with toStation := e.clearReception } w := hI.station rfl rfl h
    exact ⟨hI.note trivial hcleared, hwithin.of_tables rfl⟩

theorem advance (hI : Phased env c I J) (before : Nat) (hwithin : e.Within c) (h : I e w) :
    I (e.advance env before w).2.1 (e.advance env before w).2.2 ∧
      (e.advance env before w).2.1.Within c := by
  have hcomplete (e : Endpoint ω) (w : ω) (hwithin : e.Within c) (h : I e w) :
      let done := if 0 < e.reception.packetSize ∧ e.reception.packetSize ≤ e.reception.filled then
        e.completePacket env w else (0, e, w)
      I done.2.1 done.2.2 ∧ done.2.1.Within c := by
    dsimp only
    split
    · exact hI.completePacket hwithin h
    · exact ⟨h, hwithin⟩
  unfold Endpoint.advance
  by_cases hheader : before < headerSize ∧ headerSize ≤ e.reception.filled
  · rw [if_pos hheader]
    have hjudged : I (Endpoint.noteStep env e w e.judgeHeader).1
        (Endpoint.noteStep env e w e.judgeHeader).2 :=
      hI.noteStep Station.link_judgeHeader Station.changes_judgeHeader
        (fun _ hmem ↦ Station.isReception_of_mem_judgeHeader hmem) h
    exact hcomplete _ _ (hwithin.of_tables rfl) hjudged
  · rw [if_neg hheader]
    exact hcomplete e w hwithin h

theorem readPortion (hI : Phased env c I J) (size : Nat) (hwithin : e.Within c) (h : I e w) :
    I (e.readPortion env size w).2.1 (e.readPortion env size w).2.2 ∧
      (e.readPortion env size w).2.1.Within c := by
  have hread := hI.read size h
  unfold Endpoint.readPortion
  split
  · exact ⟨h, hwithin⟩
  · dsimp only
    split
    · exact ⟨hI.station rfl rfl hread, hwithin.of_tables rfl⟩
    · split
      · exact ⟨hI.station rfl rfl hread, hwithin.of_tables rfl⟩
      · exact hI.advance _ (hwithin.of_tables rfl) (hI.station rfl rfl hread)

theorem turn (hI : Phased env c I J) (hwithin : e.Within c) (h : I e w) :
    I (e.turn env w).2.1 (e.turn env w).2.2 ∧ (e.turn env w).2.1.Within c := by
  have hfound := hI.available h
  unfold Endpoint.turn
  rcases hready : env.channel.available w with ⟨error | ready, w₁⟩
  · rw [hready] at hfound
    cases error <;> exact ⟨hfound, hwithin⟩
  · rw [hready] at hfound
    dsimp only
    split
    · exact ⟨hfound, hwithin⟩
    · let noted := Endpoint.noteStep env e (env.now w₁).2 (e.expire (env.now w₁).1)
      let waiting : Endpoint ω :=
        { noted.1 with toStation := noted.1.toStation.extendDeadline (env.now w₁).1 }
      have hnow : I e (env.now w₁).2 := hI.now hfound
      have hnoted : I noted.1 noted.2 :=
        hI.noteStep (Station.link_expire _) (Station.changes_expire _)
          (fun _ hmem ↦ Station.isReception_of_mem_expire hmem) hnow
      have hwaiting : I waiting noted.2 := hI.station rfl rfl hnoted
      have hstill : waiting.Within c := hwithin.of_tables rfl
      split
      · exact ⟨hwaiting, hstill⟩
      · exact hI.readPortion _ hstill hwaiting

theorem pollFrom (hI : Phased env c I J) (fuel packets : Nat) (hwithin : e.Within c) (h : I e w) :
    I (pollFrom env fuel packets e w).2.1 (pollFrom env fuel packets e w).2.2 ∧
      (pollFrom env fuel packets e w).2.1.Within c := by
  induction fuel generalizing packets e w with
  | zero => exact ⟨h, hwithin⟩
  | succ fuel ih =>
    obtain ⟨hkept, hstill⟩ := hI.turn hwithin h
    unfold Endpoint.pollFrom
    rcases hturn : e.turn env w with ⟨outcome, e', w'⟩
    rw [hturn] at hkept hstill
    cases outcome with
    | received more => exact ih _ hstill hkept
    | idle | closed | failed error => exact ⟨hkept, hstill⟩

theorem poll (hI : Phased env c I J) (fuel : Nat) (hwithin : e.Within c) (h : I e w) :
    I (e.poll env fuel w).2.1 (e.poll env fuel w).2.2 ∧ (e.poll env fuel w).2.1.Within c := by
  unfold Endpoint.poll
  split
  · exact ⟨h, hwithin⟩
  · exact hI.pollFrom fuel 0 hwithin h

end Phased

theorem phased_true (env : Environment ω) (c : Conduct ω) :
    Phased env c (fun _ _ ↦ True) fun _ _ _ ↦ True := by
  have hupheld (header : Header) : Upheld env c header fun _ _ ↦ True := by
    constructor <;> intros <;> trivial
  constructor <;> intros <;> first | trivial | exact hupheld _

section Within

variable {env : Environment ω} {c : Conduct ω} {e : Endpoint ω}

/-- What was registered keeps within a conduct while octets are judged and packets handled. -/
theorem within_advance (before : Nat) (h : e.Within c) (w : ω) :
    (e.advance env before w).2.1.Within c :=
  ((phased_true env c).advance before h trivial).2

theorem within_turn (h : e.Within c) (w : ω) : (e.turn env w).2.1.Within c :=
  ((phased_true env c).turn h trivial).2

end Within

/-- What an invariant has to survive so that it survives a poll: the handling of every packet, every
change of the state that leaves the link alone, what receiving notes, and the channel. -/
structure Steady (env : Environment ω) (c : Conduct ω) (I : Endpoint ω → ω → Prop) : Prop where
  upheld (header : Header) : Upheld env c header I
  station {e w s} : s.link = e.link → I e w → I { e with toStation := s } w
  note {e w event} : event.IsReception → I e w → I e (env.note event w)
  available {e w} : I e w → I e (env.channel.available w).2
  read {e w} (size : Nat) : I e w → I e (env.channel.read size w).2

namespace Steady

variable {env : Environment ω} {c : Conduct ω} {I : Endpoint ω → ω → Prop}
variable {e : Endpoint ω} {w : ω}

/-- Nothing more is known while a packet is in hand. -/
theorem phased (hI : Steady env c I) : Phased env c I fun _ ↦ I where
  station hlink _ h := hI.station hlink h
  note := hI.note
  now h := (hI.upheld (.plain 0 0 0)).now h
  available := hI.available
  read := hI.read
  begins _ _ h := hI.note trivial h
  upheld := hI.upheld
  counted _ h := hI.station rfl h
  unhandled h := hI.note trivial h
  ends h := h

theorem poll (hI : Steady env c I) (fuel : Nat) (hwithin : e.Within c) (h : I e w) :
    I (e.poll env fuel w).2.1 (e.poll env fuel w).2.2 ∧ (e.poll env fuel w).2.1.Within c :=
  hI.phased.poll fuel hwithin h

end Steady

end Endpoint

end FramedLink
