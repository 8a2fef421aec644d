import Mathlib.Data.List.Infix
import Mathlib.Data.Nat.ModEq
import FramedLink.Frame.MessageId

/-!
# Numbering messages

A counter that has handed out nothing yet goes through its ids in a circle: the id after `count`
others is the first one plus the remainder of `count` by the number of ids (`MessageIds.skip_eq`),
and no sum on the way is too large for an octet (`MessageIds.advance?_eq`). Counters are called and
copied in any order. What a counter has handed out, with all that went before the copying, is a
beginning of the ids of its side, so that the two sides never meet and an id comes again only after
all the others (`MessageIds.ids_apart`).
-/

namespace FramedLink.MessageIds

variable {ids : MessageIds}

def period (ids : MessageIds) : Nat :=
  ids.last.toNat - ids.first.toNat + 1

structure Fresh (ids : MessageIds) : Prop where
  next_eq : ids.next = ids.first
  first_le : ids.first.toNat ≤ ids.last.toNat

theorem fresh_host : host.Fresh :=
  ⟨rfl, by decide⟩

theorem fresh_device : device.Fresh :=
  ⟨rfl, by decide⟩

/-- The counter after handing out one id, if the sum is an octet. -/
def advance? (ids : MessageIds) : Option MessageIds :=
  if ids.last ≤ ids.next then some { ids with next := ids.first }
  else if ids.next.toNat + 1 < 256 then some { ids with next := ids.next + 1 }
  else none

/-- An id that is not the last one has a successor. -/
theorem advance?_eq (ids : MessageIds) : ids.advance? = some ids.advance := by
  unfold advance? advance
  split
  case isTrue => rfl
  case isFalse hmore =>
    have hlast : ids.last.toNat < 256 := ids.last.toNat_lt
    rw [UInt8.le_iff_toNat_le] at hmore
    rw [if_pos (by omega)]

theorem skip_succ (count : Nat) (ids : MessageIds) :
    ids.skip (count + 1) = (ids.skip count).advance :=
  rfl

/-- A fresh counter comes round after all of its ids. -/
theorem skip_eq (h : ids.Fresh) (count : Nat) :
    ids.skip count = { ids with next := UInt8.ofNat (ids.first.toNat + count % ids.period) } := by
  induction count with
  | zero =>
    rw [Nat.zero_mod, Nat.add_zero, UInt8.ofNat_toNat]
    exact congrArg (fun next ↦ { ids with next }) h.next_eq
  | succ count ih =>
    have hlast : ids.last.toNat < 256 := ids.last.toNat_lt
    have hperiod : ids.first.toNat + ids.period = ids.last.toNat + 1 := by
      have hfirst := h.first_le
      unfold period
      omega
    have hround : count % ids.period < ids.period := Nat.mod_lt _ (Nat.succ_pos _)
    have hnext : (UInt8.ofNat (ids.first.toNat + count % ids.period)).toNat =
        ids.first.toNat + count % ids.period :=
      UInt8.toNat_ofNat_of_lt' (show _ < 256 by omega)
    rw [skip_succ, ih, advance, ← Nat.mod_add_mod]
    dsimp only
    congr 1
    split
    case isTrue hend =>
      rw [UInt8.le_iff_toNat_le, hnext] at hend
      have hfull : count % ids.period + 1 = ids.period := by omega
      rw [hfull, Nat.mod_self, Nat.add_zero, UInt8.ofNat_toNat]
    case isFalse hmore =>
      rw [UInt8.le_iff_toNat_le, hnext] at hmore
      have hwithin : (count % ids.period + 1) % ids.period = count % ids.period + 1 :=
        Nat.mod_eq_of_lt (by omega)
      rw [hwithin, ← Nat.add_assoc, UInt8.ofNat_add (ids.first.toNat + count % ids.period) 1]
      rfl

/-- The id after `count` others. -/
theorem toNat_next_skip (h : ids.Fresh) (count : Nat) :
    (ids.skip count).next.toNat = ids.first.toNat + count % ids.period := by
  have hlast : ids.last.toNat < 256 := ids.last.toNat_lt
  have hround : count % ids.period < ids.period := Nat.mod_lt _ (Nat.succ_pos _)
  have hfirst := h.first_le
  rw [skip_eq h]
  refine UInt8.toNat_ofNat_of_lt' (show _ < 256 from ?_)
  unfold period at hround ⊢
  omega

theorem skip_advance (count : Nat) (ids : MessageIds) :
    ids.advance.skip count = (ids.skip count).advance := by
  induction count with
  | zero => rfl
  | succ count ih => rw [skip_succ, ih, ← skip_succ]

theorem upcoming_succ (count : Nat) (ids : MessageIds) :
    upcoming (count + 1) ids = upcoming count ids ++ [(ids.skip count).next] := by
  induction count generalizing ids with
  | zero => rfl
  | succ count ih =>
    rw [upcoming, ih, skip_advance, ← skip_succ]
    rfl

@[simp]
theorem length_upcoming (count : Nat) (ids : MessageIds) : (upcoming count ids).length = count := by
  induction count generalizing ids with
  | zero => rfl
  | succ count ih => rw [upcoming, List.length_cons, ih]

theorem getElem?_upcoming {count n : Nat} {id : UInt8} (h : (upcoming count ids)[n]? = some id) :
    id = (ids.skip n).next := by
  induction count with
  | zero => cases h
  | succ count ih =>
    rw [upcoming_succ] at h
    rcases Nat.lt_trichotomy n count with hlt | rfl | hgt
    · rw [List.getElem?_append_left (by rwa [length_upcoming])] at h
      exact ih h
    · rw [List.getElem?_append_right (Nat.le_of_eq (length_upcoming _ _)), length_upcoming,
        Nat.sub_self] at h
      exact (Option.some_inj.mp h).symm
    · rw [List.getElem?_eq_none] at h
      · cases h
      · rw [List.length_append, length_upcoming]
        exact hgt

/-! ## Counters in use -/

/-- A counter in use: the fresh counter at the beginning of its line, its state, and all ids that
were handed out in the line. -/
structure Line where
  origin : MessageIds
  counter : MessageIds
  handed : List UInt8

namespace Line

def start (origin : MessageIds) : Line :=
  ⟨origin, origin, []⟩

def draw (line : Line) : Line :=
  let (id, counter) := line.counter.take
  { line with counter, handed := line.handed ++ [id] }

def after (count : Nat) (line : Line) : Line :=
  count.repeat draw line

/-- A line in which the ids were handed out in order. -/
structure Regular (line : Line) : Prop where
  counter_eq : line.counter = line.origin.skip line.handed.length
  handed_eq : line.handed = line.origin.upcoming line.handed.length

theorem regular_start (origin : MessageIds) : (start origin).Regular :=
  ⟨rfl, rfl⟩

theorem Regular.draw {line : Line} (h : line.Regular) : line.draw.Regular := by
  have hlength : line.draw.handed.length = line.handed.length + 1 := List.length_append
  constructor
  case counter_eq => rw [hlength, skip_succ, Line.draw, ← h.counter_eq]; rfl
  case handed_eq =>
    rw [hlength, Line.draw, upcoming_succ, ← h.handed_eq, ← h.counter_eq]
    rfl

/-- A line that goes through `count` ids from a first one on. -/
structure Circles (first count : Nat) (line : Line) : Prop where
  toNat_handed (n : Nat) {id : UInt8} (h : line.handed[n]? = some id) :
    id.toNat = first + n % count
  nodup (window : List UInt8) (h : window <:+: line.handed) (hlength : window.length ≤ count) :
    window.Nodup

/-- Ids that come in a circle are distinct for the length of it. -/
theorem nodup_of_infix {handed window : List UInt8} {first count : Nat}
    (hids : ∀ n id, handed[n]? = some id → id.toNat = first + n % count)
    (h : window <:+: handed) (hlength : window.length ≤ count) : window.Nodup := by
  obtain ⟨before, behind, rfl⟩ := h
  have hat {n : Nat} (hn : n < window.length) :
      window[n].toNat = first + (before.length + n) % count := by
    refine hids _ _ ?_
    calc
      (before ++ window ++ behind)[before.length + n]? = (window ++ behind)[n]? := by
        rw [List.append_assoc, List.getElem?_append_right (Nat.le_add_right _ _),
          Nat.add_sub_cancel_left]
      _ = window[n]? := List.getElem?_append_left hn
      _ = some window[n] := List.getElem?_eq_getElem hn
  refine List.pairwise_iff_getElem.mpr fun i j hi hj hlt heq ↦ ?_
  have hsame : (before.length + i) % count = (before.length + j) % count := by
    have hnumber := congrArg UInt8.toNat heq
    rw [hat hi, hat hj] at hnumber
    omega
  have hdvd : count ∣ before.length + j - (before.length + i) :=
    (Nat.modEq_iff_dvd' (by omega)).mp hsame
  have hle := Nat.le_of_dvd (by omega) hdvd
  omega

theorem Regular.circles {line : Line} (h : line.Regular) (hfresh : line.origin.Fresh) :
    line.Circles line.origin.first.toNat line.origin.period := by
  have hids (n : Nat) (id : UInt8) (hid : line.handed[n]? = some id) :
      id.toNat = line.origin.first.toNat + n % line.origin.period := by
    rw [h.handed_eq] at hid
    rw [getElem?_upcoming hid, toNat_next_skip hfresh]
  exact ⟨hids, fun window ↦ nodup_of_infix hids⟩

end Line

/-- What can be asked of counters in use: the next id of one, or a copy of one. -/
inductive Call where
  | take (place : Nat)
  | copy (place : Nat)
  deriving DecidableEq

/-- Lines after a call. A copy is put behind the others. -/
def Call.on (lines : List Line) : Call → List Line
  | .take place => lines.modify place Line.draw
  | .copy place => lines ++ lines[place]?.toList

/-- The lines of one host and one device, and of the copies made of them, after some calls. -/
def inUse (calls : List Call) : List Line :=
  calls.foldl Call.on [.start host, .start device]

/-- A call keeps what each id that is handed out keeps. -/
theorem forall_mem_on {keeps : Line → Prop} (hdraw : ∀ line, keeps line → keeps line.draw)
    {lines : List Line} (h : ∀ line ∈ lines, keeps line) (call : Call) :
    ∀ line ∈ call.on lines, keeps line := by
  intro line hmem
  cases call with
  | take place =>
    obtain ⟨n, hn⟩ := List.mem_iff_getElem?.mp hmem
    rw [Call.on, List.getElem?_modify] at hn
    obtain ⟨before, hbefore, rfl⟩ := Option.map_eq_some_iff.mp hn
    have hkept := h before (List.mem_of_getElem? hbefore)
    split
    · exact hdraw _ hkept
    · exact hkept
  | copy place =>
    rcases List.mem_append.mp hmem with hold | hnew
    · exact h line hold
    · exact h line (List.mem_of_getElem? (Option.mem_toList.mp hnew))

theorem regular_inUse (calls : List Call) :
    ∀ line ∈ inUse calls, line.Regular ∧ (line.origin = host ∨ line.origin = device) := by
  have hdraw (line : Line) (h : line.Regular ∧ (line.origin = host ∨ line.origin = device)) :
      line.draw.Regular ∧ (line.draw.origin = host ∨ line.draw.origin = device) :=
    ⟨h.1.draw, h.2⟩
  induction calls using List.reverseRecOn with
  | nil =>
    refine List.forall_mem_cons.mpr ⟨⟨Line.regular_start _, .inl rfl⟩, ?_⟩
    exact List.forall_mem_singleton.mpr ⟨Line.regular_start _, .inr rfl⟩
  | append_singleton calls call ih =>
    rw [inUse, List.foldl_append]
    exact forall_mem_on hdraw ih call

/-- A call for an id moves its own line on, and nothing else moves any. -/
theorem getElem?_on {lines : List Line} {place : Nat} {line : Line} (h : lines[place]? = some line)
    (call : Call) : (call.on lines)[place]? = some (line.after ([call].count (.take place))) := by
  cases call with
  | take other =>
    rw [Call.on, List.getElem?_modify, h, Option.map_eq_map, Option.map_some,
      List.count_singleton]
    by_cases hsame : other = place
    · rw [if_pos hsame, hsame, if_pos (beq_self_eq_true _)]
      rfl
    · have hother : (Call.take other == Call.take place) = false :=
        beq_eq_false_iff_ne.mpr fun heq ↦ hsame (Call.take.inj heq)
      rw [if_neg hsame, hother, if_neg Bool.false_ne_true]
      rfl
  | copy other =>
    rw [Call.on, List.getElem?_append_left (List.getElem?_eq_some_iff.mp h).1, h]
    rfl

theorem Line.after_add (more count : Nat) (line : Line) :
    line.after (count + more) = (line.after count).after more := by
  induction more with
  | zero => rfl
  | succ more ih =>
    rw [← Nat.add_assoc]
    exact congrArg Line.draw ih

/-- A line is moved on by the calls for its ids alone. -/
theorem getElem?_foldl_on {lines : List Line} {place : Nat} {line : Line}
    (h : lines[place]? = some line) (calls : List Call) :
    (calls.foldl Call.on lines)[place]? = some (line.after (calls.count (.take place))) := by
  induction calls generalizing lines line with
  | nil => exact h
  | cons call calls ih =>
    have hcount : (call :: calls).count (.take place) =
        [call].count (.take place) + calls.count (.take place) := by
      rw [← List.count_append, List.singleton_append]
    rw [List.foldl_cons, ih (getElem?_on h call), hcount, Line.after_add]

theorem circles_inUse (calls : List Call) : ∀ line ∈ inUse calls,
    line.origin = host ∧ line.Circles 1 127 ∨ line.origin = device ∧ line.Circles 128 128 := by
  intro line hmem
  obtain ⟨hregular, hhost | hdevice⟩ := regular_inUse calls line hmem
  · have hcircles := hregular.circles (hhost ▸ fresh_host)
    rw [hhost] at hcircles
    exact .inl ⟨hhost, hcircles⟩
  · have hcircles := hregular.circles (hdevice ▸ fresh_device)
    rw [hdevice] at hcircles
    exact .inr ⟨hdevice, hcircles⟩

/-- The ids of a line lie between the bounds of its side. -/
theorem bounds_inUse {calls : List Call} {line : Line} (hmem : line ∈ inUse calls) {id : UInt8}
    (hid : id ∈ line.handed) : line.origin = host ∧ 1 ≤ id.toNat ∧ id.toNat ≤ 127 ∨
      line.origin = device ∧ 128 ≤ id.toNat := by
  obtain ⟨n, hn⟩ := List.mem_iff_getElem?.mp hid
  rcases circles_inUse calls line hmem with ⟨hside, hcircles⟩ | ⟨hside, hcircles⟩
  · have hnumber := hcircles.toNat_handed n hn
    exact .inl ⟨hside, by omega, by omega⟩
  · have hnumber := hcircles.toNat_handed n hn
    exact .inr ⟨hside, by omega⟩

theorem inUse_copy {calls : List Call} {place : Nat} {line : Line}
    (h : (inUse calls)[place]? = some line) (later : List Call) :
    inUse (calls ++ .copy place :: later) = later.foldl Call.on (inUse calls ++ [line]) := by
  simp only [inUse, List.foldl_append, List.foldl_cons]
  rw [← inUse, Call.on, h]
  rfl

/-- What holds of the counters in use after some calls. -/
structure KeptApart (calls : List Call) : Prop where
  /-- Every line goes through the ids of its side. -/
  sides : ∀ line ∈ inUse calls,
    line.origin = host ∧ line.Circles 1 127 ∨ line.origin = device ∧ line.Circles 128 128
  /-- The id that marks messages without an answer is never handed out. -/
  nonzero : ∀ line ∈ inUse calls, 0 ∉ line.handed
  /-- No id of a host is one of a device. -/
  disjoint : ∀ line ∈ inUse calls, line.origin = host → ∀ other ∈ inUse calls,
    other.origin = device → ∀ id ∈ line.handed, id ∉ other.handed
  /-- A copy goes on from where the counter stood that it was made of, and each of the two is moved
  on by its own calls alone. -/
  copies : ∀ place line, (inUse calls)[place]? = some line → ∀ later,
    let copied := inUse (calls ++ .copy place :: later)
    let fresh := (inUse calls).length
    copied[place]? = some (line.after (later.count (.take place))) ∧
      copied[fresh]? = some (line.after (later.count (.take fresh)))

/-- The ids of a host come round after one hundred and twenty-seven of them and those of a device
after one hundred and twenty-eight, and no sum on the way is too large for an octet. So however one
counter of each side and copies of them are called, ids of the two sides never meet, none is zero,
and as many ids in a row as a side has are distinct. -/
theorem ids_apart :
    (∀ count, (host.skip count).take.1.toNat = 1 + count % 127 ∧
      (host.skip count).advance? = some (host.skip (count + 1))) ∧
    (∀ count, (device.skip count).take.1.toNat = 128 + count % 128 ∧
      (device.skip count).advance? = some (device.skip (count + 1))) ∧
    ∀ calls, KeptApart calls := by
  refine ⟨fun count ↦ ⟨toNat_next_skip fresh_host count, advance?_eq _⟩,
    fun count ↦ ⟨toNat_next_skip fresh_device count, advance?_eq _⟩, fun calls ↦ ?_⟩
  constructor
  case sides => exact circles_inUse calls
  case nonzero =>
    intro line hmem hzero
    have hnone : (0 : UInt8).toNat = 0 := rfl
    have hbounds := bounds_inUse hmem hzero
    omega
  case disjoint =>
    intro line hmem hhost other hother hdevice id hid hboth
    have hne : host ≠ device := by decide
    rcases bounds_inUse hmem hid with ⟨-, -, hle⟩ | ⟨hside, -⟩
    · rcases bounds_inUse hother hboth with ⟨hside, -⟩ | ⟨-, hge⟩
      · exact hne (hside.symm.trans hdevice)
      · omega
    · exact hne (hhost.symm.trans hside)
  case copies =>
    intro place line hline later copied fresh
    have hcopied : copied = later.foldl Call.on (inUse calls ++ [line]) := inUse_copy hline later
    rw [hcopied]
    constructor
    · refine getElem?_foldl_on ?_ later
      rw [List.getElem?_append_left (List.getElem?_eq_some_iff.mp hline).1, hline]
    · exact getElem?_foldl_on List.getElem?_concat_length later

/-- A host's counter is copied after its first id: both go on with the second. -/
example : (inUse [.take 0, .take 1, .copy 0, .take 0, .take 0, .take 2]).map Line.handed =
    [[1, 2, 3], [128], [1, 2]] := by
  decide

end FramedLink.MessageIds
