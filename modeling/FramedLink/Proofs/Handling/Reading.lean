import FramedLink.Proofs.Handling.Moments
import FramedLink.Proofs.Link.Speaking

/-!
# Reading a payload

The payload of a sound packet is opened to readers (`Station.shows_openPacket`), and from then on
every read is answered from it, from the place that the reads before have come to, and none gets
past its end (`Incoming.Serves`). So it is at every moment of a program that looks at packets only
by reading them (`Moment.Comes.shows`). Other handlers may leave the cursor anywhere, but nothing
else in the region (`Endpoint.upheld_region`).
-/

namespace FramedLink

variable {ω : Type}

namespace Incoming

variable {inc : Incoming} {payload : Bytes} {position : Nat}

/-- A payload is open to readers, of which `position` octets have been passed. -/
structure Shows (payload : Bytes) (position : Nat) (inc : Incoming) : Prop where
  payload_eq : inc.payload = payload
  limit : inc.limit = headerSize + payload.length
  cursor : inc.cursor = headerSize + position
  position_le : position ≤ payload.length

/-- How reading a payload from a position on is answered, and the position afterwards. -/
inductive Serves (payload : Bytes) (position : Nat) : (op : Op) → op.Answer → Nat → Prop where
  | read (type : FieldType) (hinside : position + type.size ≤ payload.length) :
    Serves payload position (.read type)
      (.ok (type.decode ((payload.drop position).take type.size))) (position + type.size)
  | readPast (type : FieldType) (hpast : payload.length < position + type.size) :
    Serves payload position (.read type)
      (.error (.underflow (headerSize + position) type.size (headerSize + payload.length)))
      position
  | skip (count : Nat) (hinside : position + count ≤ payload.length) :
    Serves payload position (.skip count) (.ok ()) (position + count)
  | skipPast (count : Nat) (hpast : payload.length < position + count) :
    Serves payload position (.skip count)
      (.error (.underflow (headerSize + position) count (headerSize + payload.length))) position
  | rewind : Serves payload position .rewind () 0

theorem Shows.moved (h : inc.Shows payload position) {next : Nat} (hnext : next ≤ payload.length) :
    ({ inc with cursor := headerSize + next } : Incoming).Shows payload next :=
  ⟨h.payload_eq, h.limit, rfl, hnext⟩

theorem Shows.advance_inside (h : inc.Shows payload position) {count : Nat}
    (hinside : position + count ≤ payload.length) :
    inc.advance count = .ok (headerSize + (position + count)) := by
  rw [advance, h.cursor, h.limit, if_pos (by omega), Nat.add_assoc]

theorem Shows.advance_past (h : inc.Shows payload position) {count : Nat}
    (hpast : payload.length < position + count) :
    inc.advance count =
      .error (.underflow (headerSize + position) count (headerSize + payload.length)) := by
  rw [advance, h.cursor, h.limit, if_neg (by omega)]

/-- What is taken are octets of the payload. -/
theorem Shows.take_inside (h : inc.Shows payload position) {count : Nat}
    (hinside : position + count ≤ payload.length) :
    inc.take count = .ok ((payload.drop position).take count,
      { inc with cursor := headerSize + (position + count) }) := by
  have hfront : headerSize + (position + count) ≤ inc.limit := by
    rw [h.limit]
    omega
  have hoctets : inc.region.slice inc.cursor (headerSize + (position + count)) =
      (payload.drop position).take count := by
    let front := headerSize + (position + count)
    have hwhole : (inc.region.slice headerSize inc.limit).take (front - headerSize) =
        inc.region.slice headerSize front := Region.slice_prefix inc.region hfront
    have hpart : (inc.region.slice headerSize front).drop (headerSize + position - headerSize) =
        inc.region.slice (headerSize + position) front :=
      Region.slice_suffix inc.region (Nat.le_add_right headerSize position)
    have hpayload : inc.region.slice headerSize inc.limit = payload := h.payload_eq
    rw [hpayload, Nat.add_sub_cancel_left] at hwhole
    rw [← hwhole, Nat.add_sub_cancel_left, List.drop_take, Nat.add_sub_cancel_left] at hpart
    rw [h.cursor, hpart]
  rw [take, h.advance_inside hinside, ← hoctets]
  rfl

/-- Nothing is taken past the end of the payload. -/
theorem Shows.take_past (h : inc.Shows payload position) {count : Nat}
    (hpast : payload.length < position + count) :
    inc.take count =
      .error (.underflow (headerSize + position) count (headerSize + payload.length)) := by
  rw [take, h.advance_past hpast]
  rfl

/-- An application that only reads is served from the payload. -/
theorem Shows.perform (h : inc.Shows payload position) {op : Op}
    (hop : (Request.incoming op).Courteous) :
    ∃ next, Serves payload position op (inc.perform op).1 next ∧
      (inc.perform op).2.Shows payload next := by
  cases op with
  | read type =>
    rcases Nat.lt_or_ge payload.length (position + type.size) with hpast | hinside
    · have htake := h.take_past hpast
      refine ⟨position, ?_, ?_⟩ <;> simp only [Incoming.perform, read, htake, Except.map]
      · exact .readPast type hpast
      · exact h
    · have htake := h.take_inside hinside
      refine ⟨position + type.size, ?_, ?_⟩ <;>
        simp only [Incoming.perform, read, htake, Except.map]
      · exact .read type hinside
      · exact h.moved hinside
  | skip count =>
    rcases Nat.lt_or_ge payload.length (position + count) with hpast | hinside
    · have hadvance := h.advance_past hpast
      refine ⟨position, ?_, ?_⟩ <;> simp only [Incoming.perform, skip, hadvance, Except.map]
      · exact .skipPast count hpast
      · exact h
    · have hadvance := h.advance_inside hinside
      refine ⟨position + count, ?_, ?_⟩ <;>
        simp only [Incoming.perform, skip, hadvance, Except.map]
      · exact .skip count hinside
      · exact h.moved hinside
  | rewind => exact ⟨0, .rewind, h.moved (Nat.zero_le _)⟩
  | store _ _ | slot _ _ | openPayload _ | reset | discardFront _ _ => exact hop.elim

end Incoming

/-- Applications that look at packets only by reading them. -/
def Conduct.reading : Conduct ω where
  asks request := ∀ op, request = .incoming op → (Request.incoming op).Courteous
  changes _ := True

/-- All through a program that only reads, the payload is open. -/
theorem Moment.Comes.shows {env : Environment ω} {first moment : Moment ω} {payload : Bytes}
    {position : Nat} (h : first.Comes env moment) (hprogram : first.program.Within .reading)
    (hfirst : first.endpoint.reception.region.Shows payload position) :
    (∃ position, moment.endpoint.reception.region.Shows payload position) ∧
      moment.program.Within .reading := by
  induction h with
  | here => exact ⟨⟨position, hfirst⟩, hprogram⟩
  | @next moment later _ hnext ih =>
    obtain ⟨⟨position, hshows⟩, hrest⟩ := ih
    obtain ⟨program, e, w⟩ := moment
    cases program with
    | finish outcome => cases hnext
    | ask request next =>
      cases hnext
      refine ⟨?_, hrest.2 _⟩
      by_cases hother : ∀ op, request ≠ .incoming op
      · exact ⟨position, (Endpoint.reception_perform hother).symm ▸ hshows⟩
      · obtain ⟨op, rfl⟩ := not_forall_not.mp hother
        obtain ⟨later, -, hlater⟩ := hshows.perform (hrest.1 op rfl)
        exact ⟨later, hlater⟩
    | inspect next =>
      cases hnext
      exact ⟨⟨position, hshows⟩, hrest _⟩
    | addHandler _ _ next | addResetCallback _ next | addLinkCallback _ next =>
      cases hnext
      exact ⟨⟨position, hshows⟩, hrest.2⟩
    | outside step next =>
      cases hnext
      exact ⟨⟨position, hshows⟩, hrest.2 _⟩

theorem Station.header_of_judgePacket {s : Station} {header : Header}
    (hsound : s.judgePacket = .deliver header) : s.reception.header = .ok header := by
  unfold judgePacket at hsound
  split at hsound
  · cases hsound
  · split at hsound
    case h_1 hheader =>
      cases hsound
      exact hheader
    case h_2 => cases hsound

/-- The payload of a sound packet is opened to readers, from its first octet on. -/
theorem Station.shows_openPacket {s : Station} {header : Header}
    (hsound : s.judgePacket = .deliver header) :
    s.openPacket.reception.region.Shows (s.reception.body.drop headerSize) 0 := by
  let region := s.reception.region.region
  let stop := headerSize + s.reception.payloadSize
  have hsize : headerSize ≤ region.size := by
    have hlength := Header.length_of_decode (header_of_judgePacket hsound)
    rw [Region.length_slice, Nat.sub_zero] at hlength
    exact (Nat.le_min.mp hlength).2
  have hbody : s.reception.body.drop headerSize = region.slice headerSize stop :=
    Region.slice_suffix _ (Nat.zero_le headerSize)
  have hcut : region.slice headerSize (min stop region.size) = region.slice headerSize stop := by
    have htake : region.toList.take (min stop region.size) = region.toList.take stop := by
      rw [← Array.length_toList, ← List.take_eq_take_min]
    rw [Region.slice_eq, Region.slice_eq, htake]
  constructor
  case payload_eq => exact hcut.trans hbody.symm
  case limit =>
    have hlimit : s.openPacket.reception.region.limit = min stop region.size := rfl
    rw [hlimit, hbody, Region.length_slice]
    omega
  case cursor => rfl
  case position_le => exact Nat.zero_le _

namespace Endpoint

variable {env : Environment ω} {header : Header} {e e' : Endpoint ω}

theorem Aside.region {inc : Incoming} (haside : e.Aside e')
    (h : ∃ cursor, e.reception.region = { inc with cursor }) :
    ∃ cursor, e'.reception.region = { inc with cursor } := by
  rwa [haside.reception]

/-- While a packet is handled by applications that only read, nothing but the cursor moves in the
region. -/
theorem upheld_region (inc : Incoming) :
    Upheld env .reading header fun e _ ↦ ∃ cursor, e.reception.region = { inc with cursor } where
  change _ h := h
  cursor n h := by
    obtain ⟨_, hsame⟩ := h
    exact ⟨n, by rw [withCursor, hsame]⟩
  incoming hasks h := by
    obtain ⟨_, hsame⟩ := h
    obtain ⟨cursor, hmoved⟩ := Incoming.perform_of_courteous (hasks _ rfl)
    exact ⟨cursor, by rw [hmoved, hsame]⟩
  outgoing _ h := h
  send _ h := (aside_send _ _ _).region h
  describe _ _ h := (aside_sendDescription _ _).region h
  now h := h
  silent _ _ h := h
  schedule _ _ h := h
  disconnect _ h := aside_disconnect.region h
  request _ _ _ h := (aside_recordPeer _ _).region h
  response _ _ _ h := (aside_acceptResponse _).region h
  failed _ h := h
  handlers _ _ h := h
  resetCallback _ h := h
  linkCallback _ h := h
  available _ h := h
  read _ h := h
  write _ h := h

end Endpoint

end FramedLink
