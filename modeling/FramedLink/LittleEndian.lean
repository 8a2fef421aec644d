/-!
# Little-endian numbers

Every number of the protocol travels with its least significant octet first. A number is cut into a
chosen count of octets by `digits` and put together again by `value`; each undoes the other on
numbers that fit the chosen width, so a fixed-width word is read back from what it was written as.
-/

namespace FramedLink

/-- A string of octets, first octet first. -/
abbrev Bytes := List UInt8

namespace LittleEndian

/-- The `width` least significant octets of `n`, least significant first. -/
def digits : (width : Nat) → (n : Nat) → Bytes
  | 0, _ => []
  | width + 1, n => UInt8.ofNat n :: digits width (n / 256)

/-- The number whose octets, least significant first, are given. -/
def value : Bytes → Nat
  | [] => 0
  | b :: rest => b.toNat + 256 * value rest

/-- How many numbers there are of a width. -/
def span : (width : Nat) → Nat
  | 0 => 1
  | width + 1 => 256 * span width

def word16 (low high : UInt8) : UInt16 :=
  UInt16.ofNat (value [low, high])

@[simp]
theorem length_digits (width n : Nat) : (digits width n).length = width := by
  induction width generalizing n with
  | zero => rfl
  | succ width ih => simp [digits, ih]

theorem value_digits {width n : Nat} (h : n < span width) : value (digits width n) = n := by
  induction width generalizing n with
  | zero => exact (Nat.lt_one_iff.mp h).symm
  | succ width ih =>
    have hrest : n / 256 < span width := Nat.div_lt_of_lt_mul h
    simp only [digits, value, ih hrest, UInt8.toNat_ofNat']
    omega

theorem value_lt (bytes : Bytes) : value bytes < span bytes.length := by
  induction bytes with
  | nil => exact Nat.one_pos
  | cons b rest ih =>
    have hb := b.toNat_lt
    simp only [value, List.length_cons, span]
    omega

theorem digits_value (bytes : Bytes) : digits bytes.length (value bytes) = bytes := by
  induction bytes with
  | nil => rfl
  | cons b rest ih =>
    have hb := b.toNat_lt
    have hlow : UInt8.ofNat (b.toNat + 256 * value rest) = b := by
      apply UInt8.toNat_inj.mp
      simp only [UInt8.toNat_ofNat']
      omega
    have hhigh : (b.toNat + 256 * value rest) / 256 = value rest := by omega
    simp only [value, List.length_cons, digits, hlow, hhigh, ih]

/-- A 16-bit word is read back from its two octets. -/
@[simp]
theorem word16_octets (v : UInt16) : word16 v.toUInt8 (UInt8.ofNat (v.toNat / 256)) = v := by
  have hv : value (digits 2 v.toNat) = v.toNat := value_digits v.toNat_lt
  have hlow : UInt8.ofNat v.toNat = v.toUInt8 := by simp
  simp only [digits, hlow] at hv
  rw [word16, hv, UInt16.ofNat_toNat]

/-- Two octets are the digits of the word read from them. -/
theorem digits_word16 (low high : UInt8) : digits 2 (word16 low high).toNat = [low, high] := by
  rw [word16, UInt16.toNat_ofNat_of_lt' (value_lt [low, high])]
  exact digits_value [low, high]

@[simp]
theorem uint8_value_digits (v : UInt8) : UInt8.ofNat (value (digits 1 v.toNat)) = v := by
  simp [digits, value]

@[simp]
theorem uint16_value_digits (v : UInt16) : UInt16.ofNat (value (digits 2 v.toNat)) = v := by
  rw [value_digits v.toNat_lt]
  exact UInt16.ofNat_toNat

theorem ofNat_value_digits_toNat (v : UInt32) :
    UInt32.ofNat (value (digits 4 v.toNat)) = v := by
  rw [value_digits v.toNat_lt]
  exact UInt32.ofNat_toNat

end LittleEndian

end FramedLink
