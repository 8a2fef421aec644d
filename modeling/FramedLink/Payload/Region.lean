import FramedLink.LittleEndian

/-!
# Regions of octets

Fixed stretches of memory in which frames are built and received. A region never changes its size:
octets are read out of a slice of it and written over a slice of it. As lists, a slice of a region
is a piece of its contents, and writing replaces that piece and keeps the rest.
-/

namespace FramedLink

/-- A stretch of octets of fixed size. -/
abbrev Region := Array UInt8

namespace Region

def zeros (size : Nat) : Region :=
  Array.replicate size 0

/-- The octets from position `start` to before position `stop`. -/
def slice (region : Region) (start stop : Nat) : Bytes :=
  (region.extract start stop).toList

/-- The region with `octets` written from position `start` on; what would fall behind its end is
dropped. -/
def overwrite (region : Region) (start : Nat) : Bytes → Region
  | [] => region
  | b :: rest => overwrite (region.setIfInBounds start b) (start + 1) rest

@[simp]
theorem size_overwrite (region : Region) (start : Nat) (octets : Bytes) :
    (region.overwrite start octets).size = region.size := by
  induction octets generalizing region start with
  | nil => rfl
  | cons b rest ih => simp [overwrite, ih]

theorem slice_eq (region : Region) (start stop : Nat) :
    region.slice start stop = (region.toList.take stop).drop start := by
  simp [slice, Array.toList_extract, List.extract, List.drop_take]

theorem overwrite_append (region : Region) (start : Nat) (octets more : Bytes) :
    region.overwrite start (octets ++ more) =
      (region.overwrite start octets).overwrite (start + octets.length) more := by
  induction octets generalizing region start with
  | nil => rfl
  | cons b rest ih =>
    have hstart : start + (rest.length + 1) = start + 1 + rest.length := by omega
    rw [List.cons_append, overwrite, ih, overwrite, List.length_cons, hstart]

/-- Writing inside a region replaces a piece of its contents. -/
theorem toList_overwrite {region : Region} {start : Nat} {octets : Bytes}
    (h : start + octets.length ≤ region.size) :
    (region.overwrite start octets).toList =
      region.toList.take start ++ octets ++ region.toList.drop (start + octets.length) := by
  induction octets generalizing region start with
  | nil => simp [overwrite]
  | cons b rest ih =>
    simp only [List.length_cons] at h
    have hstart : start < region.toList.length := by
      simp only [Array.length_toList]
      omega
    have hrest : start + 1 + rest.length ≤ (region.setIfInBounds start b).size := by
      simp only [Array.size_setIfInBounds]
      omega
    have hlast :
        (region.toList.set start b).take (start + 1) = region.toList.take start ++ [b] := by
      have hcut : start + 1 - (region.toList.take start).length = 1 := by
        rw [List.length_take, Nat.min_eq_left (Nat.le_of_lt hstart)]
        omega
      calc
        (region.toList.set start b).take (start + 1) =
            (region.toList.take start ++ b :: region.toList.drop (start + 1)).take (start + 1) := by
          rw [List.set_eq_take_append_cons_drop, if_pos hstart]
        _ = (region.toList.take start).take (start + 1) ++
            (b :: region.toList.drop (start + 1)).take 1 := by
          rw [List.take_append, hcut]
        _ = region.toList.take start ++ [b] := by
          rw [List.take_take, Nat.min_eq_right (by omega)]
          rfl
    have hskip : start + 1 + rest.length = start + (rest.length + 1) := by omega
    calc
      (region.overwrite start (b :: rest)).toList =
          (overwrite (region.setIfInBounds start b) (start + 1) rest).toList := rfl
      _ = (region.toList.set start b).take (start + 1) ++ rest ++
          (region.toList.set start b).drop (start + 1 + rest.length) := by
        rw [ih hrest, Array.toList_setIfInBounds]
      _ = region.toList.take start ++ [b] ++ rest ++
          region.toList.drop (start + (rest.length + 1)) := by
        rw [hlast, List.drop_set_of_lt (by omega), hskip]
      _ = region.toList.take start ++ b :: rest ++
          region.toList.drop (start + (b :: rest).length) := by
        rw [List.append_assoc (region.toList.take start), List.length_cons]
        rfl

@[simp]
theorem length_slice (region : Region) (start stop : Nat) :
    (region.slice start stop).length = min stop region.size - start := by
  simp [slice_eq]

/-- A slice of a slice counts from the start of the slice. -/
theorem slice_prefix (region : Region) {start middle stop : Nat} (h : middle ≤ stop) :
    (region.slice start stop).take (middle - start) = region.slice start middle := by
  calc
    (region.slice start stop).take (middle - start) =
        ((region.toList.take stop).drop start).take (middle - start) := by rw [slice_eq]
    _ = ((region.toList.take stop).take middle).drop start := List.drop_take.symm
    _ = (region.toList.take middle).drop start := by rw [List.take_take, Nat.min_eq_left h]
    _ = region.slice start middle := (slice_eq region start middle).symm

theorem slice_suffix (region : Region) {start middle stop : Nat} (h : start ≤ middle) :
    (region.slice start stop).drop (middle - start) = region.slice middle stop := by
  rw [slice_eq, slice_eq, List.drop_drop, Nat.add_sub_cancel' h]

/-- Neighbouring slices join up. -/
theorem slice_append_slice (region : Region) {start middle stop : Nat} (h₁ : start ≤ middle)
    (h₂ : middle ≤ stop) :
    region.slice start middle ++ region.slice middle stop = region.slice start stop := by
  calc
    region.slice start middle ++ region.slice middle stop =
        (region.slice start stop).take (middle - start) ++
          (region.slice start stop).drop (middle - start) := by
      rw [slice_suffix region h₁, slice_prefix region h₂]
    _ = region.slice start stop := List.take_append_drop _ _

/-- What lies before the place of writing stays. -/
theorem slice_overwrite_before {region : Region} {start stop place : Nat} {octets : Bytes}
    (hstop : stop ≤ place) (h : place + octets.length ≤ region.size) :
    (region.overwrite place octets).slice start stop = region.slice start stop := by
  have hfront : stop ≤ (region.toList.take place).length := by
    rw [List.length_take, Array.length_toList]
    omega
  calc
    (region.overwrite place octets).slice start stop =
        ((region.toList.take place ++
          (octets ++ region.toList.drop (place + octets.length))).take stop).drop start := by
      rw [slice_eq, toList_overwrite h, List.append_assoc]
    _ = ((region.toList.take place).take stop).drop start := by
      rw [List.take_append_of_le_length hfront]
    _ = (region.toList.take stop).drop start := by rw [List.take_take, Nat.min_eq_left hstop]
    _ = region.slice start stop := (slice_eq region start stop).symm

/-- What was written is read back. -/
theorem slice_overwrite_self {region : Region} {place : Nat} {octets : Bytes}
    (h : place + octets.length ≤ region.size) :
    (region.overwrite place octets).slice place (place + octets.length) = octets := by
  have hfront : (region.toList.take place).length = place := by
    rw [List.length_take, Array.length_toList]
    omega
  have hwhole : (region.toList.take place ++ octets).length = place + octets.length := by
    rw [List.length_append, hfront]
  calc
    (region.overwrite place octets).slice place (place + octets.length) =
        ((region.toList.take place ++ octets ++ region.toList.drop (place + octets.length)).take
          (place + octets.length)).drop place := by
      rw [slice_eq, toList_overwrite h]
    _ = (region.toList.take place ++ octets).drop place := by rw [List.take_left' hwhole]
    _ = octets := List.drop_left' hfront

/-- Writing behind a slice makes it longer. -/
theorem slice_overwrite_append {region : Region} {start place : Nat} {octets : Bytes}
    (hstart : start ≤ place) (h : place + octets.length ≤ region.size) :
    (region.overwrite place octets).slice start (place + octets.length) =
      region.slice start place ++ octets := by
  calc
    (region.overwrite place octets).slice start (place + octets.length) =
        (region.overwrite place octets).slice start place ++
          (region.overwrite place octets).slice place (place + octets.length) :=
      (slice_append_slice _ hstart (Nat.le_add_right place octets.length)).symm
    _ = region.slice start place ++ octets := by
      rw [slice_overwrite_self h, slice_overwrite_before (Nat.le_refl place) h]

/-- What lies behind what was written stays. -/
theorem slice_overwrite_behind {region : Region} {start stop place : Nat} {octets : Bytes}
    (hstart : place + octets.length ≤ start) (h : place + octets.length ≤ region.size) :
    (region.overwrite place octets).slice start stop = region.slice start stop := by
  have hfront : (region.toList.take place ++ octets).length = place + octets.length := by
    rw [List.length_append, List.length_take, Array.length_toList]
    omega
  have htail : (region.overwrite place octets).toList.drop start = region.toList.drop start := by
    calc
      (region.overwrite place octets).toList.drop start =
          (region.toList.take place ++ octets ++
            region.toList.drop (place + octets.length)).drop start := by rw [toList_overwrite h]
      _ = (region.toList.drop (place + octets.length)).drop (start - (place + octets.length)) := by
        rw [List.drop_append, hfront, List.drop_of_length_le (by omega), List.nil_append]
      _ = region.toList.drop start := by rw [List.drop_drop, Nat.add_sub_cancel' hstart]
  rw [slice_eq, slice_eq, List.drop_take, List.drop_take, htail]

end Region

end FramedLink
