import Mathlib.Data.Nat.PSub
import FramedLink.Proofs.Handling.Undisturbed

/-!
# Receiving from any channel

A channel may report any number of octets as ready and any count for a reading, more than was asked
for included, and it may fail at any call. Still a reception is always at one of two stages when an
operation has ended (`Reception.Staged`): less than a header was collected and nothing is known of
the packet, or a header was accepted and less than its packet was collected.

To see what this is good for, receiving is written down once more with every subtraction, slot and
slice checked on the way (`Endpoint.poll?`). At the two stages no check fails, so that the checked
poll is the poll (`Orderly.poll?_eq`).
-/

namespace FramedLink

deriving instance DecidableEq for PollOutcome

variable {ω : Type}

/-! ## Checked steps -/

/-- A slice, if it lies inside the region. -/
def Region.slice? (region : Region) (start stop : Nat) : Option Bytes :=
  if start ≤ stop ∧ stop ≤ region.size then some (region.slice start stop) else none

theorem Region.slice?_eq {region : Region} {start stop : Nat} (hstart : start ≤ stop)
    (hstop : stop ≤ region.size) : region.slice? start stop = some (region.slice start stop) :=
  if_pos ⟨hstart, hstop⟩

namespace Reception

/-- What is still missing, if no more was collected than is to be. -/
def wanted? (r : Reception) : Option Nat :=
  (if 0 < r.packetSize then r.packetSize else headerSize).psub r.filled

/-- Octets to ask for, if all that was collected fits into the region. -/
def portion? (r : Reception) (ready : Nat) : Option Nat :=
  (r.region.capacity.psub r.filled).bind fun room ↦
    r.wanted?.map fun wanted ↦ min (min ready room) wanted

def body? (r : Reception) : Option Bytes :=
  r.region.region.slice? 0 (headerSize + r.payloadSize)

def trailer? (r : Reception) : Option UInt16 :=
  let start := headerSize + r.payloadSize
  (r.region.region.slice? start (start + trailerSize)).map fun octets ↦
    UInt16.ofNat (LittleEndian.value octets)

end Reception

namespace Station

/-- The search for the next start marker, if it stays inside what was collected. -/
def resync? (s : Station) : Option Station :=
  (s.reception.region.region.slice? 1 s.reception.filled).bind fun octets ↦
    match octets.findIdx? (· == startMarker) with
    | some offset =>
      (s.reception.filled.psub (offset + 1)).map fun filled ↦
        { s with reception := { s.reception.dropFront (offset + 1) with filled } }
    | none => some s.clearReception

def judgeHeader? (s : Station) : Option (Station × Option Event) :=
  match s.reception.header with
  | .ok header =>
    if header.payloadSize ≤ s.config.maxDeclared then some s.judgeHeader
    else
      let s := { s with counters := { s.counters with oversize := s.counters.oversize + 1 } }
      s.resync?.map fun next ↦
        (next, some (.oversize header.type header.length s.config.maxDeclared))
  | .error e =>
    let s := { s with counters := { s.counters with badMagic := s.counters.badMagic + 1 } }
    s.resync?.map fun next ↦ (next, some (.noiseDiscarded e))

def judgePacket? (s : Station) : Option Verdict :=
  s.reception.body?.bind fun body ↦ s.reception.trailer?.map fun trailer ↦
    match s.config.integrity.verify body trailer with
    | .error e => .badTrailer e
    | .ok () =>
      match s.reception.header with
      | .ok header => .deliver header
      | .error e => .unreadable e

end Station

namespace Endpoint

def completePacket? (env : Environment ω) (e : Endpoint ω) (w : ω) :
    Option (Nat × Endpoint ω × ω) :=
  e.judgePacket?.map fun verdict ↦
    let (packets, e, w) := match verdict with
      | .deliver header =>
        let (e, w) := { e with toStation := e.openPacket }.dispatch env header w
        (1, e, w)
      | .badTrailer error =>
        let counters := { e.counters with checksumFailures := e.counters.checksumFailures + 1 }
        (0, { e with counters }, env.note (.badTrailer error) w)
      | .unreadable error => (0, e, env.note (.unreadableHeader error) w)
    (packets, { e with toStation := e.clearReception }, w)

def advance? (env : Environment ω) (before : Nat) (e : Endpoint ω) (w : ω) :
    Option (Nat × Endpoint ω × ω) :=
  let judged :=
    if before < headerSize ∧ headerSize ≤ e.reception.filled then
      e.judgeHeader?.map (noteStep env e w)
    else some (e, w)
  judged.bind fun (e, w) ↦
    if 0 < e.reception.packetSize ∧ e.reception.packetSize ≤ e.reception.filled then
      e.completePacket? env w
    else some (0, e, w)

def readPortion? (env : Environment ω) (size : Nat) (e : Endpoint ω) (w : ω) :
    Option (Turn × Endpoint ω × ω) :=
  match e.reception.region.checkSlot e.reception.filled size with
  | .error _ => none
  | .ok () =>
    let (reading, w) := env.channel.read size w
    let stored := reading.stored.take size
    match reading.count with
    | .error error =>
      some (.failed (.channel error), { e with toStation := e.collect stored 0 }, w)
    | .ok reported =>
      let count := min reported size
      let before := e.reception.filled
      let e := { e with toStation := e.collect stored count }
      if count = 0 then some (.idle, e, w)
      else (e.advance? env before w).map fun (packets, e, w) ↦ (.received packets, e, w)

/-- A turn, if something is asked for whenever something is ready. -/
def turn? (env : Environment ω) (e : Endpoint ω) (w : ω) : Option (Turn × Endpoint ω × ω) :=
  match env.channel.available w with
  | (.error .closed, w) => some (.closed, e, w)
  | (.error error, w) => some (.failed (.channel error), e, w)
  | (.ok ready, w) =>
    if ready = 0 then some (.idle, e, w)
    else
      let (now, w) := env.now w
      let (e, w) := noteStep env e w (e.expire now)
      let e := { e with toStation := e.extendDeadline now }
      (e.reception.portion? ready).bind fun size ↦
        if size = 0 then none else e.readPortion? env size w

def pollFrom? (env : Environment ω) :
    (fuel packets : Nat) → Endpoint ω → ω → Option (PollOutcome × Endpoint ω × ω)
  | 0, packets, e, w => some (.unfinished packets, e, w)
  | fuel + 1, packets, e, w =>
    (e.turn? env w).bind fun
      | (.idle, e, w) => some (.done packets, e, w)
      | (.closed, e, w) =>
        some (if 0 < packets then .done packets else .failed (.channel .closed), e, w)
      | (.failed error, e, w) => some (.failed error, e, w)
      | (.received more, e, w) => pollFrom? env fuel (packets + more) e w

/-- A poll in which no check fails. -/
def poll? (env : Environment ω) (fuel : Nat) (e : Endpoint ω) (w : ω) :
    Option (PollOutcome × Endpoint ω × ω) :=
  match e.admitPoll with
  | .error error => some (.failed error, e, w)
  | .ok () => pollFrom? env fuel 0 e w

end Endpoint

/-! ## Stages -/

namespace Reception

variable {r r' : Reception} {limit : Nat}

/-- The two stages of a reception between operations, where packets of a size are accepted. -/
inductive Staged (limit : Nat) (r : Reception) : Prop where
  | header (hpacket : r.packetSize = 0) (hpayload : r.payloadSize = 0)
      (hfilled : r.filled < headerSize)
  | packet (hpacket : r.packetSize = r.payloadSize + frameOverhead) (hlimit : r.payloadSize ≤ limit)
      (hheader : headerSize ≤ r.filled) (hfilled : r.filled < r.packetSize)

/-- The two stages once octets have been taken up and not yet judged. `before` octets were there
before them. -/
inductive Fed (limit before : Nat) (r : Reception) : Prop where
  | header (hpacket : r.packetSize = 0) (hpayload : r.payloadSize = 0)
      (hbefore : before < headerSize) (hfilled : r.filled ≤ headerSize)
  | packet (hpacket : r.packetSize = r.payloadSize + frameOverhead) (hlimit : r.payloadSize ≤ limit)
      (hbefore : headerSize ≤ before) (hheader : headerSize ≤ r.filled)
      (hfilled : r.filled ≤ r.packetSize)

/-- Only the sizes decide on the stage. -/
theorem Staged.of_sizes (h : r.Staged limit) (hfilled : r'.filled = r.filled)
    (hpayload : r'.payloadSize = r.payloadSize) (hpacket : r'.packetSize = r.packetSize) :
    r'.Staged limit := by
  cases h with
  | header h₁ h₂ h₃ => exact .header (hpacket.trans h₁) (hpayload.trans h₂) (hfilled ▸ h₃)
  | packet h₁ h₂ h₃ h₄ =>
    exact .packet (by rw [hpacket, hpayload, h₁]) (hpayload ▸ h₂) (hfilled ▸ h₃)
      (by rw [hfilled, hpacket]; exact h₄)

theorem staged_clear (r : Reception) (limit : Nat) : r.clear.Staged limit :=
  .header rfl rfl (Nat.succ_pos 7)

theorem Sound.staged (h : r.Sound limit) (hwanted : 0 < r.wanted) : r.Staged limit := by
  unfold wanted at hwanted
  cases h.settled with
  | header hpacket hpayload _ =>
    rw [if_neg (by omega)] at hwanted
    exact .header hpacket hpayload (by omega)
  | packet header _ hlimit hpayload hpacket hheader _ =>
    rw [hpacket, if_pos (by unfold Header.frameSize frameOverhead headerSize; omega)] at hwanted
    exact .packet (by rw [hpacket, hpayload, Header.frameSize]) (hpayload ▸ hlimit) hheader
      (by omega)

/-- What is missing can be computed, is something, and fits into the region. -/
theorem Staged.wanted?_eq (h : r.Staged limit) (hroom : r.region.capacity = limit + frameOverhead) :
    r.wanted? = some r.wanted ∧ 0 < r.wanted ∧ r.filled + r.wanted ≤ r.region.capacity := by
  have hle : r.filled < if 0 < r.packetSize then r.packetSize else headerSize := by
    cases h with
    | header hpacket _ hfilled => rwa [if_neg (by omega)]
    | packet _ _ hheader hfilled => rwa [if_pos (by omega)]
  have hfits : (if 0 < r.packetSize then r.packetSize else headerSize) ≤ r.region.capacity := by
    rw [hroom]
    cases h with
    | header hpacket _ _ =>
      rw [if_neg (by omega)]
      unfold frameOverhead
      omega
    | packet hpacket hlimit _ _ =>
      rw [if_pos (by omega)]
      omega
  refine ⟨Nat.psub_eq_sub (Nat.le_of_lt hle), Nat.sub_pos_of_lt hle, ?_⟩
  unfold wanted
  omega

/-- What is asked for can be computed, and there is a slot for it. -/
theorem Staged.portion?_eq (h : r.Staged limit) (hroom : r.region.capacity = limit + frameOverhead)
    (ready : Nat) :
    r.portion? ready = some (r.portion ready) ∧ (0 < ready → 0 < r.portion ready) ∧
      r.region.checkSlot r.filled (r.portion ready) = .ok () := by
  obtain ⟨hwanted, hpositive, hfits⟩ := h.wanted?_eq hroom
  have hle := r.portion_le_wanted ready
  refine ⟨?_, ?_, if_pos (by omega)⟩
  · rw [portion?, Nat.psub_eq_sub (Nat.le_trans (Nat.le_add_right _ _) hfits), hwanted]
    rfl
  · unfold portion
    omega

/-- Taking up no more than is missing leads to the same stage. -/
theorem Staged.fed (h : r.Staged limit) {count : Nat} (hcount : count ≤ r.wanted)
    {region : Incoming} : Fed limit r.filled { r with region, filled := r.filled + count } := by
  unfold wanted at hcount
  cases h with
  | header hpacket hpayload hfilled =>
    rw [if_neg (by omega)] at hcount
    exact .header hpacket hpayload hfilled (by dsimp only; omega)
  | packet hpacket hlimit hheader hfilled =>
    rw [if_pos (by omega)] at hcount
    exact .packet hpacket hlimit hheader (by dsimp only; omega) (by dsimp only; omega)

end Reception

namespace Station

variable {s : Station} {config : Config} {limit : Nat}

/-- A station with given settings that handles no packet and is at a stage of receiving, in a region
with room for every packet that is accepted. -/
structure Placed (config : Config) (stage : Reception → Prop) (s : Station) : Prop where
  config_eq : s.config = config
  idle : s.dispatching = false
  room : s.reception.region.capacity = config.maxDeclared + frameOverhead
  stage : stage s.reception

/-- Between two operations. -/
abbrev Ready (config : Config) : Station → Prop :=
  Placed config (Reception.Staged config.maxDeclared)

theorem ready_initial (hconfig : config.fault? = none) (localId : UInt32) :
    (initial config localId).Ready config :=
  ⟨rfl, rfl, (room_initial hconfig localId).1, .header rfl rfl (Nat.succ_pos 7)⟩

theorem Placed.expire (h : s.Ready config) (now : Millis) : (s.expire now).1.Ready config := by
  have hcleared (counters : Counters) :
      ({ s.clearReception with counters } : Station).Ready config :=
    ⟨h.config_eq, h.idle, h.room, Reception.staged_clear _ _⟩
  unfold Station.expire giveUp
  dsimp only
  split
  · split
    · exact hcleared _
    · exact hcleared _
  · exact h

/-- Behind a rejected header the search stays inside of it. -/
theorem resync?_eq (hroom : s.reception.region.capacity = limit + frameOverhead)
    (hfilled : s.reception.filled = headerSize) : s.resync? = some s.resync := by
  have hsize : headerSize ≤ s.reception.region.region.size := by
    unfold Incoming.capacity frameOverhead at hroom
    omega
  have hslice : s.reception.region.region.slice? 1 s.reception.filled =
      some (s.reception.region.region.slice 1 s.reception.filled) :=
    Region.slice?_eq (by rw [hfilled]; decide) (by rw [hfilled]; exact hsize)
  unfold resync? resync Reception.nextMarker?
  rw [hslice, Option.bind_some]
  cases hmarker : (s.reception.region.region.slice 1 s.reception.filled).findIdx?
      (· == startMarker) with
  | none => rfl
  | some offset =>
    have hoffset : offset < 7 := by
      have hlt := (List.findIdx?_eq_some_iff_getElem.mp hmarker).1
      rw [Region.length_slice, hfilled, Nat.min_eq_left hsize] at hlt
      exact hlt
    have hsub : s.reception.filled.psub (offset + 1) =
        some (s.reception.filled - (offset + 1)) :=
      Nat.psub_eq_sub (by unfold headerSize at hfilled; omega)
    dsimp only
    rw [hsub]
    rfl

theorem judgeHeader?_eq (hroom : s.reception.region.capacity = limit + frameOverhead)
    (hfilled : s.reception.filled = headerSize) : s.judgeHeader? = some s.judgeHeader := by
  have hresync (counters : Counters) :
      ({ s with counters } : Station).resync? = some ({ s with counters } : Station).resync :=
    resync?_eq hroom hfilled
  unfold judgeHeader?
  split
  case h_1 header hheader =>
    split
    case isTrue hlimit => rfl
    case isFalse hlimit =>
      dsimp only
      rw [hresync]
      simp only [judgeHeader, hheader, if_neg hlimit, Option.map_some]
  case h_2 error hheader =>
    dsimp only
    rw [hresync]
    simp only [judgeHeader, hheader, Option.map_some]

/-- An accepted header leads to the second stage and a rejected one back to the first. -/
theorem Placed.judgeHeader {stage : Reception → Prop} (h : s.Placed config stage)
    (hfilled : s.reception.filled = headerSize) : s.judgeHeader.1.Ready config := by
  obtain ⟨hsound, hwanted⟩ := sound_resync h.room hfilled
  have hresync (counters : Counters) : ({ s with counters } : Station).resync.Ready config := by
    obtain ⟨cursor, hresync⟩ := resync_eq s counters
    rw [hresync]
    exact ⟨h.config_eq, h.idle, hsound.room, hsound.staged hwanted⟩
  unfold Station.judgeHeader
  split
  case h_1 header hheader =>
    split
    case isTrue hlimit =>
      refine ⟨h.config_eq, h.idle, h.room, .packet rfl (h.config_eq ▸ hlimit) ?_ ?_⟩
      · exact Nat.le_of_eq hfilled.symm
      · dsimp only
        rw [hfilled, Header.frameSize, frameOverhead, trailerSize]
        omega
    case isFalse hlimit => exact hresync _
  case h_2 error hheader => exact hresync _

theorem judgePacket?_eq
    (hfits : s.reception.payloadSize + frameOverhead ≤ s.reception.region.capacity) :
    s.judgePacket? = some s.judgePacket := by
  unfold frameOverhead Incoming.capacity at hfits
  have hbody : s.reception.body? = some s.reception.body :=
    Region.slice?_eq (Nat.zero_le _) (by omega)
  have htrailer : s.reception.trailer? = some s.reception.trailer := by
    unfold Reception.trailer? Reception.trailer
    dsimp only
    rw [Region.slice?_eq (Nat.le_add_right _ _) (by omega), Option.map_some]
  unfold judgePacket? judgePacket
  rw [hbody, Option.bind_some, htrailer]
  rfl

end Station

def Conduct.free : Conduct ω where
  asks _ := True
  changes _ := True

theorem Program.within_free (program : Program ω) : program.Within .free := by
  induction program with
  | finish outcome => trivial
  | ask request next ih => exact ⟨trivial, ih⟩
  | inspect next ih => exact ih
  | addHandler type handler next ihhandler ihnext => exact ⟨ihhandler, ihnext⟩
  | addResetCallback callback next ih => exact ⟨trivial, ih⟩
  | addLinkCallback callback next ih => exact ⟨fun _ ↦ trivial, ih⟩
  | outside step next ih => exact ⟨trivial, ih⟩

namespace Endpoint

variable {env : Environment ω} {config : Config} {e e' : Endpoint ω} {w w' : ω}

/-- An endpoint at a stage of receiving, whatever was registered with it. -/
structure Orderly (config : Config) (stage : Reception → Prop) (e : Endpoint ω) : Prop where
  placed : e.toStation.Placed config stage
  within : e.Within .free

abbrev Ready (config : Config) : Endpoint ω → Prop :=
  Orderly config (Reception.Staged config.maxDeclared)

/-- Handling leaves an endpoint where it is. -/
theorem Orderly.of_undisturbed {stage : Reception → Prop} (h : e.Orderly config stage)
    (hundisturbed : e.toStation.Undisturbed e'.toStation) (hidle : e'.dispatching = false)
    (hstage : stage e'.reception) (hwithin : e'.Within .free) : e'.Orderly config stage where
  placed :=
    { config_eq := hundisturbed.config.trans h.placed.config_eq
      idle := hidle
      room := hundisturbed.capacity.trans h.placed.room
      stage := hstage }
  within := hwithin

theorem Orderly.run (h : e.Ready config) (program : Program ω) :
    (program.run env e w).2.1.Ready config := by
  obtain ⟨hundisturbed, hwithin⟩ :=
    (@upheld_undisturbed ω env .free e.toStation (.plain 0 0 0)).run
      (e := e) (w := w) program.within_free h.within (.refl _)
  have hsizes := hundisturbed.reception
  refine h.of_undisturbed hundisturbed ((dispatching_run program).trans h.placed.idle) ?_ hwithin
  exact h.placed.stage.of_sizes (by rw [hsizes]) (by rw [hsizes]) (by rw [hsizes])

theorem Orderly.clear {stage : Reception → Prop} (h : e.Orderly config stage) :
    ({ e with toStation := e.clearReception } : Endpoint ω).Ready config where
  placed := ⟨h.placed.config_eq, h.placed.idle, h.placed.room, Reception.staged_clear _ _⟩
  within := h.within.of_tables rfl

/-- After a packet the next header is waited for. -/
theorem Orderly.completePacket {stage : Reception → Prop} (h : e.Orderly config stage) :
    (e.completePacket env w).2.1.Ready config := by
  unfold Endpoint.completePacket
  cases e.judgePacket with
  | deliver header =>
    let opened : Endpoint ω := { e with toStation := e.openPacket }
    have hopened : opened.Orderly config fun _ ↦ True :=
      ⟨⟨h.placed.config_eq, h.placed.idle, h.placed.room, trivial⟩, h.within.of_tables rfl⟩
    obtain ⟨hundisturbed, hwithin⟩ :=
      (@upheld_undisturbed ω env .free opened.toStation header).dispatch
        (w := w) (fun _ hkept ↦ hkept.trans ⟨rfl, rfl, rfl, rfl⟩) id hopened.within (.refl _)
    exact (hopened.of_undisturbed hundisturbed (dispatching_dispatch header) trivial
      hwithin).clear
  | badTrailer error =>
    have hcounted : ({ e with counters :=
        { e.counters with checksumFailures := e.counters.checksumFailures + 1 } } :
          Endpoint ω).Orderly config fun _ ↦ True :=
      ⟨⟨h.placed.config_eq, h.placed.idle, h.placed.room, trivial⟩, h.within.of_tables rfl⟩
    exact hcounted.clear
  | unreadable error => exact h.clear

/-- Octets that were taken up are judged with every check passed, and the endpoint is ready
again. -/
theorem Orderly.advance?_eq {before : Nat}
    (h : e.Orderly config (Reception.Fed config.maxDeclared before)) :
    e.advance? env before w = some (e.advance env before w) ∧
      (e.advance env before w).2.1.Ready config := by
  have hsame (e : Endpoint ω) (w : ω) :
      e.judgePacket? = some e.judgePacket →
        e.completePacket? env w = some (e.completePacket env w) := by
    intro hjudge
    unfold completePacket? Endpoint.completePacket
    rw [hjudge]
    rfl
  unfold Endpoint.advance? Endpoint.advance
  cases h.placed.stage with
  | header hpacket hpayload hbefore hfilled =>
    by_cases hcomplete : headerSize ≤ e.reception.filled
    case pos =>
      have hfull : e.reception.filled = headerSize := Nat.le_antisymm hfilled hcomplete
      have hready := h.placed.judgeHeader hfull
      have hunfinished : ¬ (0 < e.judgeHeader.1.reception.packetSize ∧
          e.judgeHeader.1.reception.packetSize ≤ e.judgeHeader.1.reception.filled) := by
        cases hready.stage <;> omega
      simp only [hbefore, hcomplete, and_self, if_true, Station.judgeHeader?_eq h.placed.room hfull,
        Option.map_some, Option.bind_some, noteStep, hunfinished, if_false]
      exact ⟨trivial, hready, h.within.of_tables rfl⟩
    case neg =>
      have hunfinished : ¬ 0 < e.reception.packetSize := by omega
      simp only [hcomplete, and_false, if_false, Option.bind_some, hunfinished, false_and]
      exact ⟨trivial, ⟨h.placed.config_eq, h.placed.idle, h.placed.room,
        .header hpacket hpayload (Nat.lt_of_not_le hcomplete)⟩, h.within⟩
  | packet hpacket hlimit hbefore hheader hfilled =>
    have hlater : ¬ before < headerSize := Nat.not_lt.mpr hbefore
    simp only [hlater, false_and, if_false, Option.bind_some]
    by_cases hcomplete : e.reception.packetSize ≤ e.reception.filled
    case pos =>
      have hpositive : 0 < e.reception.packetSize := by
        rw [hpacket]
        exact Nat.succ_pos _
      have hfits : e.reception.payloadSize + frameOverhead ≤ e.reception.region.capacity := by
        rw [h.placed.room]
        exact Nat.add_le_add_right hlimit _
      simp only [hpositive, hcomplete, and_self, if_true]
      exact ⟨hsame e w (Station.judgePacket?_eq hfits), h.completePacket⟩
    case neg =>
      simp only [hcomplete, and_false, if_false]
      exact ⟨trivial, ⟨h.placed.config_eq, h.placed.idle, h.placed.room,
        .packet hpacket hlimit hheader (Nat.lt_of_not_le hcomplete)⟩, h.within⟩

/-- Octets that are asked for have their slot, and once they are there the endpoint is ready
again. -/
theorem Orderly.readPortion?_eq (h : e.Ready config) (ready : Nat) :
    let size := e.reception.portion ready
    e.readPortion? env size w = some (e.readPortion env size w) ∧
      (e.readPortion env size w).2.1.Ready config := by
  have hslot := (h.placed.stage.portion?_eq h.placed.room ready).2.2
  have hcollected (stored : Bytes) {count : Nat} (hcount : count ≤ e.reception.wanted) :
      ({ e with toStation := e.collect stored count } : Endpoint ω).Orderly config
        (Reception.Fed config.maxDeclared e.reception.filled) :=
    ⟨⟨h.placed.config_eq, h.placed.idle, (Region.size_overwrite _ _ _).trans h.placed.room,
      h.placed.stage.fed hcount⟩, h.within.of_tables rfl⟩
  have hnothing (stored : Bytes) :
      ({ e with toStation := e.collect stored 0 } : Endpoint ω).Ready config :=
    ⟨⟨h.placed.config_eq, h.placed.idle, (Region.size_overwrite _ _ _).trans h.placed.room,
      h.placed.stage.of_sizes rfl rfl rfl⟩, h.within.of_tables rfl⟩
  dsimp only
  unfold readPortion? Endpoint.readPortion
  rw [hslot]
  dsimp only
  cases (env.channel.read (e.reception.portion ready) w).1.count with
  | error error => exact ⟨rfl, hnothing _⟩
  | ok reported =>
    dsimp only
    by_cases hzero : min reported (e.reception.portion ready) = 0
    case pos =>
      rw [if_pos hzero, if_pos hzero, hzero]
      exact ⟨rfl, hnothing _⟩
    case neg =>
      rw [if_neg hzero, if_neg hzero]
      have hcount : min reported (e.reception.portion ready) ≤ e.reception.wanted :=
        Nat.le_trans (Nat.min_le_right _ _) (Reception.portion_le_wanted _ _)
      obtain ⟨hadvanced, hready⟩ := (hcollected _ hcount).advance?_eq
      rw [hadvanced]
      exact ⟨rfl, hready⟩

/-- The endpoint with which a turn begins to read: late octets are given up, and the deadline counts
from now on. -/
def waiting (env : Environment ω) (now : Millis) (e : Endpoint ω) (w : ω) : Endpoint ω × ω :=
  let noted := noteStep env e w (e.expire now)
  ({ noted.1 with toStation := noted.1.toStation.extendDeadline now }, noted.2)

theorem Orderly.waiting (h : e.Ready config) (now : Millis) :
    (e.waiting env now w).1.Ready config :=
  have hkept := h.placed.expire now
  ⟨⟨hkept.config_eq, hkept.idle, hkept.room, hkept.stage.of_sizes rfl rfl rfl⟩,
    h.within.of_tables rfl⟩

/-- A turn that finds octets asks for some of them. -/
theorem Orderly.turn_reading (h : e.Ready config) {ready : Nat} {found : ω} (hready : 0 < ready)
    (hfound : env.channel.available w = (.ok ready, found)) :
    let begun := e.waiting env (env.now found).1 (env.now found).2
    let size := begun.1.reception.portion ready
    0 < size ∧ e.turn env w = begun.1.readPortion env size begun.2 ∧
      e.turn? env w = begun.1.readPortion? env size begun.2 := by
  intro begun size
  have hbegun : begun.1.Ready config := h.waiting _
  obtain ⟨hportion, hpositive, -⟩ := hbegun.placed.stage.portion?_eq hbegun.placed.room ready
  have hsize : 0 < size := hpositive hready
  have hready' : ¬ ready = 0 := by omega
  have hsize' : ¬ size = 0 := by omega
  refine ⟨hsize, ?_, ?_⟩
  · unfold Endpoint.turn
    rw [hfound]
    dsimp only
    rw [if_neg hready']
    exact if_neg hsize'
  · unfold turn?
    rw [hfound]
    dsimp only
    rw [if_neg hready']
    calc
      (begun.1.reception.portion? ready).bind
          (fun size ↦ if size = 0 then none else begun.1.readPortion? env size begun.2) =
        if size = 0 then none else begun.1.readPortion? env size begun.2 := by
          rw [hportion, Option.bind_some]
      _ = begun.1.readPortion? env size begun.2 := if_neg hsize'

/-- In a turn every check is passed, and the endpoint is ready again after it. -/
theorem Orderly.turn?_eq (h : e.Ready config) :
    e.turn? env w = some (e.turn env w) ∧ (e.turn env w).2.1.Ready config := by
  rcases hfound : env.channel.available w with ⟨error | ready, found⟩
  · have hsame : e.turn? env w = some (e.turn env w) := by
      unfold turn? Endpoint.turn
      rw [hfound]
      cases error <;> rfl
    have hstill : (e.turn env w).2.1 = e := by
      unfold Endpoint.turn
      rw [hfound]
      cases error <;> rfl
    exact ⟨hsame, hstill.symm ▸ h⟩
  · rcases Nat.eq_zero_or_pos ready with rfl | hready
    · unfold turn? Endpoint.turn
      rw [hfound]
      exact ⟨rfl, h⟩
    · obtain ⟨-, hturn, hturn?⟩ := h.turn_reading hready hfound
      rw [hturn, hturn?]
      exact (h.waiting _).readPortion?_eq ready

theorem Orderly.pollFrom?_eq (h : e.Ready config) (fuel packets : Nat) :
    pollFrom? env fuel packets e w = some (pollFrom env fuel packets e w) ∧
      (pollFrom env fuel packets e w).2.1.Ready config := by
  induction fuel generalizing packets e w with
  | zero => exact ⟨rfl, h⟩
  | succ fuel ih =>
    obtain ⟨hturn, hready⟩ := @Orderly.turn?_eq ω env config e w h
    unfold pollFrom? pollFrom
    rw [hturn, Option.bind_some]
    rcases hresult : e.turn env w with ⟨outcome, e', w'⟩
    rw [hresult] at hready
    cases outcome with
    | received more => exact ih hready _
    | idle | closed | failed error => exact ⟨rfl, hready⟩

/-- In a poll every check is passed, and the endpoint is ready again after it. -/
theorem Orderly.poll?_eq (h : e.Ready config) (fuel : Nat) :
    e.poll? env fuel w = some (e.poll env fuel w) ∧ (e.poll env fuel w).2.1.Ready config := by
  unfold poll? Endpoint.poll
  cases e.admitPoll with
  | error error => exact ⟨rfl, h⟩
  | ok => exact h.pollFrom?_eq fuel 0

/-! ## How a poll ends -/

end Endpoint

/-- A call of a channel by which octets are received, and its answer. -/
inductive Call where
  | available (answer : Except ChannelError Nat)
  | read (size : Nat) (answer : Except ChannelError Nat)

/-- The surroundings keep a record of such calls, the oldest first. -/
structure Environment.Recorded (env : Environment ω) (calls : ω → List Call) : Prop where
  available (w : ω) :
    calls (env.channel.available w).2 = calls w ++ [.available (env.channel.available w).1]
  read (size : Nat) (w : ω) :
    calls (env.channel.read size w).2 = calls w ++ [.read size (env.channel.read size w).1.count]
  now (w : ω) : calls (env.now w).2 = calls w
  note (event : Event) (w : ω) : calls (env.note event w) = calls w

/-- Surroundings with such a record beside them. -/
def Environment.recording (env : Environment ω) : Environment (ω × List Call) where
  channel :=
    { available := fun w ↦
        let (answer, next) := env.channel.available w.1
        (answer, next, w.2 ++ [.available answer])
      read := fun size w ↦
        let (reading, next) := env.channel.read size w.1
        (reading, next, w.2 ++ [.read size reading.count])
      write := fun octets w ↦
        let (answer, next) := env.channel.write octets w.1
        (answer, next, w.2) }
  now w :=
    let (now, next) := env.now w.1
    (now, next, w.2)
  ids := ⟨fun w ↦ env.ids.get w.1, fun supply w ↦ (env.ids.set supply w.1, w.2)⟩
  note event w := (env.note event w.1, w.2)

/-- In any surroundings such a record can be kept. -/
theorem Environment.recorded_recording (env : Environment ω) : env.recording.Recorded Prod.snd :=
  ⟨fun _ ↦ rfl, fun _ _ ↦ rfl, fun _ ↦ rfl, fun _ _ ↦ rfl⟩

/-- The calls with which a poll stops: nothing was ready, the channel was closed, or something was
ready and nothing was read. -/
inductive Stopping : List Call → Prop where
  | notReady (earlier : List Call) : Stopping (earlier ++ [.available (.ok 0)])
  | closed (earlier : List Call) : Stopping (earlier ++ [.available (.error .closed)])
  | nothingRead (earlier : List Call) (ready size : Nat) (hready : 0 < ready) (hsize : 0 < size) :
      Stopping (earlier ++ [.available (.ok ready), .read size (.ok 0)])

namespace Endpoint

variable {env : Environment ω} {config : Config} {e e' : Endpoint ω} {w w' : ω}
variable {calls : ω → List Call}

theorem calls_waiting (hcalls : env.Recorded calls) (now : Millis) :
    calls (e.waiting env now w).2 = calls w := by
  unfold waiting noteStep
  dsimp only
  cases (e.expire now).2 with
  | none => rfl
  | some event => exact hcalls.note event w

/-- A reading does not find the channel closed, and one after which a poll stops has yielded
nothing. -/
theorem calls_readPortion (hcalls : env.Recorded calls) {size : Nat} (hsize : 0 < size)
    (hstop : (e.readPortion env size w).1 = .idle ∨ (e.readPortion env size w).1 = .closed) :
    calls (e.readPortion env size w).2.2 = calls w ++ [.read size (.ok 0)] := by
  have hread := hcalls.read size w
  unfold readPortion at hstop ⊢
  split at hstop
  case h_1 => rcases hstop with h | h <;> cases h
  case h_2 =>
    dsimp only at hstop ⊢
    cases hcount : (env.channel.read size w).1.count with
    | error error =>
      rw [hcount] at hstop
      rcases hstop with h | h <;> cases h
    | ok reported =>
      rw [hcount] at hstop hread
      dsimp only at hstop ⊢
      split at hstop
      case isFalse => rcases hstop with h | h <;> cases h
      case isTrue hzero =>
        have hnone : reported = 0 := by omega
        rw [if_pos hzero, hread, hnone]

/-- A turn after which a poll stops without an error. -/
theorem Orderly.stopping_turn (h : e.Ready config) (hcalls : env.Recorded calls)
    (hstop : (e.turn env w).1 = .idle ∨ (e.turn env w).1 = .closed) :
    Stopping (calls (e.turn env w).2.2) := by
  have hasked := hcalls.available w
  rcases hfound : env.channel.available w with ⟨error | ready, found⟩
  · rw [hfound] at hasked
    have hclosed : error = .closed := by
      unfold Endpoint.turn at hstop
      rw [hfound] at hstop
      cases error with
      | closed => rfl
      | device _ | shortWrite _ _ => rcases hstop with h | h <;> cases h
    subst hclosed
    unfold Endpoint.turn
    rw [hfound]
    dsimp only at hasked ⊢
    rw [hasked]
    exact .closed _
  · rw [hfound] at hasked
    dsimp only at hasked
    rcases Nat.eq_zero_or_pos ready with rfl | hready
    · unfold Endpoint.turn
      rw [hfound]
      dsimp only
      rw [if_pos rfl, hasked]
      exact .notReady _
    · obtain ⟨hsize, hturn, -⟩ := h.turn_reading hready hfound
      rw [hturn] at hstop ⊢
      let begun := e.waiting env (env.now found).1 (env.now found).2
      let size := begun.1.reception.portion ready
      have hcalled :=
        calc
          calls (begun.1.readPortion env size begun.2).2.2 =
              calls begun.2 ++ [.read size (.ok 0)] := calls_readPortion hcalls hsize hstop
          _ = calls (env.now found).2 ++ [.read size (.ok 0)] :=
            congrArg (· ++ _) (calls_waiting hcalls _)
          _ = calls w ++ [.available (.ok ready)] ++ [.read size (.ok 0)] := by
            rw [hcalls.now, hasked]
          _ = calls w ++ [.available (.ok ready), .read size (.ok 0)] := List.append_assoc ..
      rw [hcalled]
      exact .nothingRead _ _ _ hready hsize

theorem Orderly.stopping_pollFrom (h : e.Ready config) (hcalls : env.Recorded calls)
    {fuel packets total : Nat}
    (hdone : (pollFrom env fuel packets e w).1 = .done total) :
    Stopping (calls (pollFrom env fuel packets e w).2.2) := by
  induction fuel generalizing packets e w with
  | zero => cases hdone
  | succ fuel ih =>
    have hstop := @Orderly.stopping_turn ω env config e w calls h hcalls
    have hready := (@Orderly.turn?_eq ω env config e w h).2
    unfold pollFrom at hdone ⊢
    rcases hresult : e.turn env w with ⟨outcome, e', w'⟩
    rw [hresult] at hdone hstop hready
    cases outcome with
    | received more => exact ih hready hdone
    | idle => exact hstop (.inl rfl)
    | closed => exact hstop (.inr rfl)
    | failed error => cases hdone

/-- A poll without an error stops when nothing is ready or nothing was read. -/
theorem Orderly.stopping_poll (h : e.Ready config) (hcalls : env.Recorded calls) {fuel total : Nat}
    (hdone : (e.poll env fuel w).1 = .done total) : Stopping (calls (e.poll env fuel w).2.2) := by
  unfold poll at hdone ⊢
  split at hdone
  case h_1 => cases hdone
  case h_2 => exact h.stopping_pollFrom hcalls hdone

/-- What an endpoint with given settings can come to: it is created, its id may be changed, it
polls, and the application runs any programs. -/
inductive Operated (env : Environment ω) (config : Config) : Endpoint ω → ω → Prop where
  | created {e : Endpoint ω} {w w' : ω} (hcreated : create env config w = (.ok e, w')) :
    Operated env config e w'
  | named {e : Endpoint ω} {w : ω} (id : UInt32) :
    Operated env config e w → Operated env config (e.withLocalId id) w
  | poll {e : Endpoint ω} {w : ω} (fuel : Nat) : Operated env config e w →
    Operated env config (e.poll env fuel w).2.1 (e.poll env fuel w).2.2
  | run {e : Endpoint ω} {w : ω} (program : Program ω) : Operated env config e w →
    Operated env config (program.run env e w).2.1 (program.run env e w).2.2

theorem Operated.ready (h : Operated env config e w) : e.Ready config := by
  induction h with
  | created hcreated =>
    unfold create at hcreated
    split at hcreated
    case h_1 => cases hcreated
    case h_2 hconfig =>
      cases hcreated
      exact ⟨Station.ready_initial hconfig _, within_ofConfig _ _ _⟩
  | named id _ ih =>
    exact ⟨⟨ih.placed.config_eq, ih.placed.idle, ih.placed.room, ih.placed.stage⟩,
      ih.within.of_tables rfl⟩
  | poll fuel _ ih => exact (ih.poll?_eq fuel).2
  | run program _ ih => exact ih.run program

/-- Whatever the channel, the clock and the application do, a reception is at one of its two stages
after every operation. So in every poll all checks are passed, and one that ends without an error
has found nothing ready, the channel closed, or a reading that yielded nothing. -/
theorem Operated.stages_kept (h : Operated env config e w) :
    ((e.reception.packetSize = 0 ∧ e.reception.payloadSize = 0 ∧ e.reception.filled < headerSize) ∨
      (e.reception.packetSize = e.reception.payloadSize + frameOverhead ∧
        e.reception.payloadSize ≤ config.inSize - headerSize ∧
        headerSize ≤ e.reception.filled ∧ e.reception.filled < e.reception.packetSize ∧
        e.reception.packetSize ≤ e.reception.region.capacity)) ∧
    (∀ fuel, e.poll? env fuel w = some (e.poll env fuel w)) ∧
    ∀ calls, env.Recorded calls → ∀ fuel packets, (e.poll env fuel w).1 = .done packets →
      Stopping (calls (e.poll env fuel w).2.2) := by
  have hready := h.ready
  refine ⟨?_, fun fuel ↦ (hready.poll?_eq fuel).1, fun calls hcalls fuel packets hdone ↦
    hready.stopping_poll hcalls hdone⟩
  cases hready.placed.stage with
  | header hpacket hpayload hfilled => exact .inl ⟨hpacket, hpayload, hfilled⟩
  | packet hpacket hlimit hheader hfilled =>
    refine .inr ⟨hpacket, hlimit, hheader, hfilled, ?_⟩
    rw [hpacket, hready.placed.room]
    exact Nat.add_le_add_right hlimit _

/-- Surroundings with a channel that boasts: it always has plenty ready, and until its octets run
out it reports every reading as larger than what was asked for. -/
def boasting : Environment (Bytes × IdSupply) where
  channel :=
    { available := fun w ↦ (.ok 4096, w)
      read := fun size w ↦
        (⟨w.1.take size, .ok (if w.1 = [] then 0 else 4096)⟩, (w.1.drop size, w.2))
      write := fun octets w ↦ (.ok octets.length, w) }
  now w := (0, w)
  ids := ⟨Prod.snd, fun supply w ↦ (w.1, supply)⟩
  note _ w := w

/-- An octet of payload that was never there is taken for read, and the poll ends once the channel
has to own up. -/
theorem stages_kept_boasting :
    let env := boasting.recording
    let w : (Bytes × IdSupply) × List Call := (([0x23, 9, 1, 0, 2, 0, 0, 0, 7], ⟨[], 1⟩), [])
    ∃ e w', create env (.ofSizes 18 18) w = (.ok e, w') ∧
      e.poll? env 3 w' = some (e.poll env 3 w') ∧
      (e.poll env 3 w').1 = .done 1 ∧ Stopping (e.poll env 3 w').2.2.2 := by
  intro env w
  let e : Endpoint ((Bytes × IdSupply) × List Call) := ofConfig (.ofSizes 18 18) 1
  let w' := (create env (.ofSizes 18 18) w).2
  have hcreated : create env (.ofSizes 18 18) w = (.ok e, w') := rfl
  have hdone : (e.poll env 3 w').1 = .done 1 := by decide +kernel
  obtain ⟨-, hchecked, hstopping⟩ := Operated.stages_kept (.created hcreated)
  exact ⟨e, w', hcreated, hchecked 3, hdone,
    hstopping Prod.snd boasting.recorded_recording 3 1 hdone⟩

end Endpoint

end FramedLink
