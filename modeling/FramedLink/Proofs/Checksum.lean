import Mathlib.Algebra.Group.Nat.Even
import Mathlib.Data.Nat.Bitwise
import FramedLink.Frame.Header
import FramedLink.Frame.Integrity

/-!
# Errors that the check finds

A frame under the check is its body and the two octets of its trailer. Read as a row of bits, least
significant bit of each octet first, it can be damaged on its way. The trailer no longer fits the
body if the damaged bits lie within sixteen consecutive places, or if their number is odd
(`Integrity.mismatch_of_errors`).

Fed with bits one at a time, the check is a shift register (`crcBits`). It is linear in exclusive
or, so damage is found exactly if it drives the empty register elsewhere than back to zero. A
register that comes back to zero within sixteen bits held these bits from the start
(`crcBits_eq_zero_iff`), and no step changes whether the number of ones is odd (`oddOnes_crcBits`).
-/

namespace FramedLink

open LittleEndian

/-! ## Rows of bits -/

/-- The `count` least significant bits of a number, least significant first. -/
def bitsOf : (count : Nat) → (n : Nat) → List Bool
  | 0, _ => []
  | count + 1, n => n.testBit 0 :: bitsOf count (n / 2)

/-- The number with given bits, least significant first. -/
def ofBits : List Bool → Nat
  | [] => 0
  | bit :: rest => bit.toNat + 2 * ofBits rest

def bits (octets : Bytes) : List Bool :=
  octets.flatMap fun b ↦ bitsOf 8 b.toNat

def oddOnes (row : List Bool) : Bool :=
  row.foldr xor false

@[simp]
theorem length_bitsOf (count n : Nat) : (bitsOf count n).length = count := by
  induction count generalizing n with
  | zero => rfl
  | succ count ih => rw [bitsOf, List.length_cons, ih]

theorem length_bits (octets : Bytes) : (bits octets).length = 8 * octets.length := by
  induction octets with
  | nil => rfl
  | cons b octets ih =>
    calc
      (bits (b :: octets)).length = (bitsOf 8 b.toNat).length + (bits octets).length := by
        rw [bits, List.flatMap_cons, List.length_append, ← bits]
      _ = 8 + 8 * octets.length := by rw [length_bitsOf, ih]
      _ = 8 * (b :: octets).length := by
        rw [List.length_cons]
        omega

theorem bits_append (front back : Bytes) : bits (front ++ back) = bits front ++ bits back :=
  List.flatMap_append

theorem ofBits_bitsOf (count : Nat) {n : Nat} (h : n < 2 ^ count) :
    ofBits (bitsOf count n) = n := by
  induction count generalizing n with
  | zero => exact (Nat.lt_one_iff.mp h).symm
  | succ count ih =>
    rw [bitsOf, ofBits, ih (by omega), Nat.testBit_zero]
    rcases Nat.mod_two_eq_zero_or_one n with heven | hodd
    · simp only [heven, zero_ne_one, decide_false, Bool.toNat_false]
      omega
    · simp only [hodd, decide_true, Bool.toNat_true]
      omega

theorem ofBits_lt (row : List Bool) : ofBits row < 2 ^ row.length := by
  induction row with
  | nil => exact Nat.one_pos
  | cons bit row ih =>
    have hbit := bit.toNat_lt
    rw [ofBits, List.length_cons]
    omega

theorem ofBits_append (front back : List Bool) :
    ofBits (front ++ back) = ofBits front + 2 ^ front.length * ofBits back := by
  induction front with
  | nil => simp [ofBits]
  | cons bit front ih =>
    calc
      ofBits (bit :: front ++ back) = bit.toNat + 2 * ofBits (front ++ back) := rfl
      _ = bit.toNat + 2 * (ofBits front + 2 ^ front.length * ofBits back) := by rw [ih]
      _ = bit.toNat + 2 * ofBits front + 2 ^ front.length * 2 * ofBits back := by
        rw [Nat.mul_add, Nat.mul_comm _ 2, Nat.mul_assoc, Nat.add_assoc]
      _ = ofBits (bit :: front) + 2 ^ (bit :: front).length * ofBits back := rfl

/-- The bits of some octets make the same number as the octets. -/
theorem ofBits_bits (octets : Bytes) : ofBits (bits octets) = value octets := by
  induction octets with
  | nil => rfl
  | cons b octets ih =>
    calc
      ofBits (bits (b :: octets)) = ofBits (bitsOf 8 b.toNat ++ bits octets) := rfl
      _ = ofBits (bitsOf 8 b.toNat) + 2 ^ 8 * ofBits (bits octets) := by
        rw [ofBits_append, length_bitsOf]
      _ = b.toNat + 2 ^ 8 * value octets := by rw [ofBits_bitsOf 8 b.toNat_lt, ih]
      _ = value (b :: octets) := rfl

/-- A row that makes zero has no ones. -/
theorem eq_false_of_ofBits_eq_zero {row : List Bool} (h : ofBits row = 0) :
    ∀ bit ∈ row, bit = false := by
  induction row with
  | nil => simp
  | cons bit row ih =>
    rw [ofBits] at h
    rw [List.forall_mem_cons]
    refine ⟨?_, ih (by omega)⟩
    cases bit with
    | false => rfl
    | true => simp at h

theorem bitsOf_xor (count m n : Nat) :
    bitsOf count (m ^^^ n) = List.zipWith xor (bitsOf count m) (bitsOf count n) := by
  induction count generalizing m n with
  | zero => rfl
  | succ count ih =>
    calc
      bitsOf (count + 1) (m ^^^ n) = (m ^^^ n).testBit 0 :: bitsOf count ((m ^^^ n) / 2) := rfl
      _ = (m.testBit 0 ^^ n.testBit 0) ::
          List.zipWith xor (bitsOf count (m / 2)) (bitsOf count (n / 2)) := by
        rw [Nat.testBit_xor, Nat.xor_div_two, ih]
      _ = List.zipWith xor (bitsOf (count + 1) m) (bitsOf (count + 1) n) := rfl

theorem oddOnes_zipWith {row row' : List Bool} (h : row.length = row'.length) :
    oddOnes (List.zipWith xor row row') = (oddOnes row ^^ oddOnes row') := by
  induction row generalizing row' with
  | nil =>
    obtain rfl := List.eq_nil_of_length_eq_zero h.symm
    rfl
  | cons bit row ih =>
    cases row' with
    | nil => cases h
    | cons bit' row' =>
      calc
        oddOnes (List.zipWith xor (bit :: row) (bit' :: row')) =
            ((bit ^^ bit') ^^ oddOnes (List.zipWith xor row row')) := rfl
        _ = ((bit ^^ bit') ^^ (oddOnes row ^^ oddOnes row')) := by rw [ih (Nat.succ_inj.mp h)]
        _ = ((bit ^^ oddOnes row) ^^ (bit' ^^ oddOnes row')) := by
          rw [Bool.xor_assoc, Bool.xor_left_comm bit', ← Bool.xor_assoc bit]
        _ = (oddOnes (bit :: row) ^^ oddOnes (bit' :: row')) := rfl

/-- Leading zeros do not count. -/
theorem oddOnes_bitsOf_succ {count n : Nat} (h : n < 2 ^ count) :
    oddOnes (bitsOf (count + 1) n) = oddOnes (bitsOf count n) := by
  induction count generalizing n with
  | zero =>
    obtain rfl := Nat.lt_one_iff.mp h
    rfl
  | succ count ih =>
    have hhalf : n / 2 < 2 ^ count := by omega
    calc
      oddOnes (bitsOf (count + 2) n) =
          (n.testBit 0 ^^ oddOnes (bitsOf (count + 1) (n / 2))) := rfl
      _ = (n.testBit 0 ^^ oddOnes (bitsOf count (n / 2))) := by rw [ih hhalf]
      _ = oddOnes (bitsOf (count + 1) n) := rfl

theorem oddOnes_eq_true_iff (row : List Bool) : oddOnes row = true ↔ Odd (row.count true) := by
  induction row with
  | nil => decide
  | cons bit row ih =>
    rw [oddOnes, List.foldr_cons, ← oddOnes]
    cases bit with
    | false =>
      rw [Bool.false_xor, ih, List.count_cons_of_ne (by decide)]
    | true =>
      rw [Bool.true_xor, List.count_cons_self, Nat.odd_add_one, ← ih, Bool.not_eq_true',
        Bool.not_eq_true]

/-! ## The check as a register -/

theorem toNat_crcBit (crc : UInt16) :
    (crcBit crc).toNat = crc.toNat / 2 ^^^ if crc.toNat % 2 = 1 then 0xa001 else 0 := by
  have hodd : crc &&& 1 = 1 ↔ crc.toNat % 2 = 1 := by
    rw [← UInt16.toNat_inj, UInt16.toNat_and, UInt16.toNat_one, Nat.and_one_is_mod]
  have hshift : (crc >>> 1).toNat = crc.toNat / 2 := by
    rw [UInt16.toNat_shiftRight]
    exact Nat.shiftRight_one _
  unfold crcBit
  by_cases h : crc.toNat % 2 = 1
  · rw [if_pos (hodd.mpr h), if_pos h, UInt16.toNat_xor, hshift]
    rfl
  · rw [if_neg (mt hodd.mp h), if_neg h, hshift, Nat.xor_zero]

theorem crcBit_xor (crc crc' : UInt16) : crcBit (crc ^^^ crc') = crcBit crc ^^^ crcBit crc' := by
  apply UInt16.toNat_inj.mp
  rw [UInt16.toNat_xor, toNat_crcBit, toNat_crcBit, toNat_crcBit, UInt16.toNat_xor,
    Nat.xor_div_two]
  have hodd : (crc.toNat ^^^ crc'.toNat) % 2 = 1 ↔ ¬(crc.toNat % 2 = 1 ↔ crc'.toNat % 2 = 1) :=
    Nat.xor_mod_two_eq_one
  by_cases h : crc.toNat % 2 = 1 <;> by_cases h' : crc'.toNat % 2 = 1
  · rw [if_neg (by rw [hodd]; simp [h, h']), if_pos h, if_pos h']
    calc
      crc.toNat / 2 ^^^ crc'.toNat / 2 ^^^ 0 =
          crc.toNat / 2 ^^^ crc'.toNat / 2 ^^^ (0xa001 ^^^ 0xa001) := by rw [Nat.xor_self]
      _ = (crc.toNat / 2 ^^^ 0xa001) ^^^ (crc'.toNat / 2 ^^^ 0xa001) := by ac_rfl
  · rw [if_pos (by rw [hodd]; simp [h, h']), if_pos h, if_neg h', Nat.xor_zero, Nat.xor_assoc,
      Nat.xor_comm _ 0xa001, Nat.xor_assoc]
  · rw [if_pos (by rw [hodd]; simp [h, h']), if_neg h, if_pos h', Nat.xor_zero, Nat.xor_assoc]
  · rw [if_neg (by rw [hodd]; simp [h, h']), if_neg h, if_neg h', Nat.xor_zero, Nat.xor_zero,
      Nat.xor_zero]

/-- A register whose lowest bit is clear is halved. -/
theorem toNat_crcBit_of_even {crc : UInt16} {n : Nat} (h : crc.toNat = 2 * n) :
    (crcBit crc).toNat = n := by
  rw [toNat_crcBit, if_neg (by omega), Nat.xor_zero]
  omega

/-- The polynomial reaches the highest bit, so a step that leaves it clear has halved the
register. -/
theorem toNat_eq_of_toNat_crcBit_lt {crc : UInt16} (h : (crcBit crc).toNat < 2 ^ 15) :
    crc.toNat = 2 * (crcBit crc).toNat := by
  have hcrc := crc.toNat_lt
  by_cases hodd : crc.toNat % 2 = 1
  case neg =>
    have heven : crc.toNat = 2 * (crc.toNat / 2) := by omega
    rw [toNat_crcBit_of_even heven]
    exact heven
  case pos =>
    rw [toNat_crcBit, if_pos hodd] at h
    have hclear : (crc.toNat / 2).testBit 15 = false :=
      Nat.testBit_lt_two_pow (by omega)
    have hset : (crc.toNat / 2 ^^^ 0xa001).testBit 15 = true := by
      rw [Nat.testBit_xor, hclear]
      rfl
    exact absurd (Nat.ge_two_pow_of_testBit hset) (by omega)

def crcBits (crc : UInt16) (row : List Bool) : UInt16 :=
  row.foldl (fun crc bit ↦ crcBit (crc ^^^ bit.toUInt16)) crc

@[simp]
theorem crcBits_nil (crc : UInt16) : crcBits crc [] = crc := rfl

@[simp]
theorem crcBits_cons (crc : UInt16) (bit : Bool) (row : List Bool) :
    crcBits crc (bit :: row) = crcBits (crcBit (crc ^^^ bit.toUInt16)) row := rfl

theorem crcBits_append (crc : UInt16) (front back : List Bool) :
    crcBits crc (front ++ back) = crcBits (crcBits crc front) back :=
  List.foldl_append

theorem toNat_toUInt16 (bit : Bool) : bit.toUInt16.toNat = bit.toNat := by
  cases bit <;> rfl

/-- A bit is fed in at the low end. -/
theorem toNat_xor_bit_iff {crc : UInt16} {bit : Bool} {n : Nat} :
    (crc ^^^ bit.toUInt16).toNat = 2 * n ↔ crc.toNat = bit.toNat + 2 * n := by
  have hbit := bit.toNat_lt
  have hhigh : (crc.toNat ^^^ bit.toNat) / 2 = crc.toNat / 2 := by
    rw [Nat.xor_div_two, Nat.div_eq_of_lt hbit, Nat.xor_zero]
  have hlow : (crc.toNat ^^^ bit.toNat) % 2 = (crc.toNat + bit.toNat) % 2 := Nat.xor_mod_two_eq
  rw [UInt16.toNat_xor, toNat_toUInt16]
  omega

/-- A register that comes back to zero within sixteen bits held these bits. -/
theorem crcBits_eq_zero_iff {crc : UInt16} {row : List Bool} (h : row.length ≤ 16) :
    crcBits crc row = 0 ↔ crc.toNat = ofBits row := by
  induction row generalizing crc with
  | nil => exact UInt16.toNat_inj.symm
  | cons bit row ih =>
    have hshort : row.length ≤ 15 := Nat.le_of_succ_le_succ h
    have hrow : ofBits row < 2 ^ 15 :=
      Nat.lt_of_lt_of_le (ofBits_lt row) (Nat.pow_le_pow_right (by decide) hshort)
    rw [crcBits_cons, ih (by omega), ofBits, ← toNat_xor_bit_iff]
    constructor
    · intro hstep
      rw [← hstep]
      exact toNat_eq_of_toNat_crcBit_lt (hstep ▸ hrow)
    · exact toNat_crcBit_of_even

/-- Zeros that are fed in neither fill an empty register nor empty a filled one. -/
theorem crcBits_zeros {row : List Bool} (hrow : ∀ bit ∈ row, bit = false) {crc : UInt16} :
    crcBits crc row = 0 ↔ crc = 0 := by
  induction row generalizing crc with
  | nil => rfl
  | cons bit row ih =>
    obtain ⟨rfl, hrest⟩ := List.forall_mem_cons.mp hrow
    calc
      crcBits crc (false :: row) = 0 ↔ crcBits crc [false] = 0 := ih hrest
      _ ↔ crc.toNat = (0 : UInt16).toNat := crcBits_eq_zero_iff (by decide)
      _ ↔ crc = 0 := UInt16.toNat_inj

/-- What two rows do to the register adds up. -/
theorem crcBits_xor {row row' : List Bool} (h : row.length = row'.length) (crc crc' : UInt16) :
    crcBits (crc ^^^ crc') (List.zipWith xor row row') = crcBits crc row ^^^ crcBits crc' row' := by
  induction row generalizing row' crc crc' with
  | nil =>
    obtain rfl := List.eq_nil_of_length_eq_zero h.symm
    rfl
  | cons bit row ih =>
    cases row' with
    | nil => cases h
    | cons bit' row' =>
      have hbits : (bit ^^ bit').toUInt16 = bit.toUInt16 ^^^ bit'.toUInt16 := by
        cases bit <;> cases bit' <;> rfl
      have hfed : crc ^^^ crc' ^^^ (bit ^^ bit').toUInt16 =
          (crc ^^^ bit.toUInt16) ^^^ (crc' ^^^ bit'.toUInt16) := by
        rw [hbits]
        ac_rfl
      calc
        crcBits (crc ^^^ crc') (List.zipWith xor (bit :: row) (bit' :: row')) =
            crcBits (crcBit (crc ^^^ crc' ^^^ (bit ^^ bit').toUInt16))
              (List.zipWith xor row row') := rfl
        _ = crcBits (crcBit (crc ^^^ bit.toUInt16) ^^^ crcBit (crc' ^^^ bit'.toUInt16))
              (List.zipWith xor row row') := by rw [hfed, crcBit_xor]
        _ = crcBits (crcBit (crc ^^^ bit.toUInt16)) row ^^^
              crcBits (crcBit (crc' ^^^ bit'.toUInt16)) row' := ih (Nat.succ_inj.mp h) _ _
        _ = crcBits crc (bit :: row) ^^^ crcBits crc' (bit' :: row') := rfl

/-- No step changes whether the number of ones is odd, as that of the polynomial is. -/
theorem oddOnes_crcBit (crc : UInt16) :
    oddOnes (bitsOf 16 (crcBit crc).toNat) = oddOnes (bitsOf 16 crc.toNat) := by
  have hshift : oddOnes (bitsOf 16 crc.toNat) =
      (crc.toNat.testBit 0 ^^ oddOnes (bitsOf 16 (crc.toNat / 2))) :=
    (oddOnes_bitsOf_succ crc.toNat_lt).symm
  have hpolynomial : oddOnes (bitsOf 16 0xa001) = true := by decide
  have hzero : oddOnes (bitsOf 16 0) = false := by decide
  rw [hshift, toNat_crcBit, bitsOf_xor,
    oddOnes_zipWith ((length_bitsOf ..).trans (length_bitsOf ..).symm), Nat.testBit_zero]
  by_cases hodd : crc.toNat % 2 = 1
  · rw [if_pos hodd, hpolynomial, decide_eq_true hodd, Bool.xor_comm]
  · rw [if_neg hodd, hzero, decide_eq_false hodd, Bool.xor_comm]

theorem oddOnes_crcBits (crc : UInt16) (row : List Bool) :
    oddOnes (bitsOf 16 (crcBits crc row).toNat) =
      (oddOnes (bitsOf 16 crc.toNat) ^^ oddOnes row) := by
  induction row generalizing crc with
  | nil => exact (Bool.xor_false _).symm
  | cons bit row ih =>
    have hbit : oddOnes (bitsOf 16 bit.toUInt16.toNat) = bit := by cases bit <;> decide
    calc
      oddOnes (bitsOf 16 (crcBits crc (bit :: row)).toNat) =
          (oddOnes (bitsOf 16 (crcBit (crc ^^^ bit.toUInt16)).toNat) ^^ oddOnes row) := ih _
      _ = (oddOnes (bitsOf 16 (crc ^^^ bit.toUInt16).toNat) ^^ oddOnes row) := by
        rw [oddOnes_crcBit]
      _ = ((oddOnes (bitsOf 16 crc.toNat) ^^ bit) ^^ oddOnes row) := by
        rw [UInt16.toNat_xor, bitsOf_xor, oddOnes_zipWith (by rw [length_bitsOf, length_bitsOf]),
          hbit]
      _ = (oddOnes (bitsOf 16 crc.toNat) ^^ oddOnes (bit :: row)) := Bool.xor_assoc ..

/-- The first of some repetitions can be made beforehand. -/
theorem repeat_succ_apply {α : Type} (f : α → α) (n : Nat) (a : α) :
    (n + 1).repeat f a = n.repeat f (f a) := by
  induction n with
  | zero => rfl
  | succ n ih => exact congrArg f ih

/-- Bits can be added to the register all at once before the steps are made. -/
theorem repeat_crcBit (row : List Bool) {crc v : UInt16} (h : v.toNat = ofBits row) :
    row.length.repeat crcBit (crc ^^^ v) = crcBits crc row := by
  induction row generalizing crc v with
  | nil =>
    obtain rfl : v = 0 := UInt16.toNat_inj.mp h
    exact UInt16.xor_zero
  | cons bit row ih =>
    have hrest : (crcBit (v ^^^ bit.toUInt16)).toNat = ofBits row :=
      toNat_crcBit_of_even (toNat_xor_bit_iff.mpr h)
    have hfirst : crc ^^^ v = (crc ^^^ bit.toUInt16) ^^^ (v ^^^ bit.toUInt16) := by
      calc
        crc ^^^ v = crc ^^^ v ^^^ (bit.toUInt16 ^^^ bit.toUInt16) := by
          rw [UInt16.xor_self, UInt16.xor_zero]
        _ = (crc ^^^ bit.toUInt16) ^^^ (v ^^^ bit.toUInt16) := by ac_rfl
    calc
      (bit :: row).length.repeat crcBit (crc ^^^ v) =
          row.length.repeat crcBit (crcBit (crc ^^^ v)) := repeat_succ_apply _ _ _
      _ = row.length.repeat crcBit
            (crcBit (crc ^^^ bit.toUInt16) ^^^ crcBit (v ^^^ bit.toUInt16)) := by
        rw [hfirst, crcBit_xor]
      _ = crcBits (crcBit (crc ^^^ bit.toUInt16)) row := ih hrest
      _ = crcBits crc (bit :: row) := rfl

theorem crcByte_eq (crc : UInt16) (b : UInt8) : crcByte crc b = crcBits crc (bitsOf 8 b.toNat) := by
  have hvalue : b.toUInt16.toNat = ofBits (bitsOf 8 b.toNat) := by
    rw [ofBits_bitsOf 8 b.toNat_lt]
    exact UInt8.toNat_toUInt16 b
  exact repeat_crcBit (bitsOf 8 b.toNat) hvalue

theorem crc16_eq (crc : UInt16) (octets : Bytes) :
    crc16 crc octets = crcBits crc (bits octets) := by
  induction octets generalizing crc with
  | nil => rfl
  | cons b octets ih =>
    calc
      crc16 crc (b :: octets) = crc16 (crcByte crc b) octets := rfl
      _ = crcBits (crcBits crc (bitsOf 8 b.toNat)) (bits octets) := by rw [ih, crcByte_eq]
      _ = crcBits crc (bitsOf 8 b.toNat ++ bits octets) := (crcBits_append _ _ _).symm
      _ = crcBits crc (bits (b :: octets)) := rfl

namespace Integrity

/-- A trailer fits a body if the two together bring the register back to zero. -/
theorem verify_crc_iff {body trailer : Bytes} (h : trailer.length = trailerSize) :
    Integrity.crc.verify body (UInt16.ofNat (value trailer)) = .ok () ↔
      crcBits 0 (bits (body ++ trailer)) = 0 := by
  have hlength : (bits trailer).length ≤ 16 := by
    rw [length_bits, h]
    decide
  have hword : (UInt16.ofNat (value trailer)).toNat = value trailer :=
    UInt16.toNat_ofNat_of_lt' (by simpa [h, span, trailerSize] using value_lt trailer)
  have hfits : Integrity.crc.verify body (UInt16.ofNat (value trailer)) = .ok () ↔
      crc16 0 body = UInt16.ofNat (value trailer) := by
    unfold verify
    dsimp only
    split <;> simp [*]
  calc
    Integrity.crc.verify body (UInt16.ofNat (value trailer)) = .ok () ↔
        crc16 0 body = UInt16.ofNat (value trailer) := hfits
    _ ↔ (crcBits 0 (bits body)).toNat = ofBits (bits trailer) := by
      rw [← UInt16.toNat_inj, hword, crc16_eq, ofBits_bits]
    _ ↔ crcBits (crcBits 0 (bits body)) (bits trailer) = 0 := (crcBits_eq_zero_iff hlength).symm
    _ ↔ crcBits 0 (bits (body ++ trailer)) = 0 := by rw [bits_append, crcBits_append]

/-! ## Damage -/

/-- A body and its trailer, as they are sent. -/
def guarded (body : Bytes) : Bytes :=
  body ++ digits trailerSize (Integrity.crc.trailer body).toNat

/-- Where what was received differs from what was sent, bit by bit. -/
def errors (sent received : Bytes) : List Bool :=
  List.zipWith xor (bits sent) (bits received)

/-- Damage that lies within so many consecutive bits, and is not empty. -/
structure Burst (width : Nat) (row : List Bool) : Prop where
  damaged : true ∈ row
  near : ∃ start, ∀ i : Nat, row[i]? = some true → start ≤ i ∧ i < start + width

theorem eq_false_of_getElem?_ne {row : List Bool} (h : ∀ i : Nat, row[i]? ≠ some true) :
    ∀ bit ∈ row, bit = false := by
  intro bit hmem
  obtain ⟨i, hi⟩ := List.mem_iff_getElem?.mp hmem
  cases bit with
  | false => rfl
  | true => exact absurd hi (h i)

/-- A burst of no more bits than the register has drives it away from zero. -/
theorem Burst.crcBits_ne_zero {row : List Bool} (h : Burst 16 row) : crcBits 0 row ≠ 0 := by
  obtain ⟨start, hnear⟩ := h.near
  let before := row.take start
  let window := (row.drop start).take 16
  let after := (row.drop start).drop 16
  have hrow : row = before ++ (window ++ after) := by
    rw [List.take_append_drop, List.take_append_drop]
  have hbefore : ∀ bit ∈ before, bit = false := by
    apply eq_false_of_getElem?_ne
    intro i hi
    have hlt : i < start := by
      by_contra hge
      rw [List.getElem?_take_eq_none (Nat.le_of_not_lt hge)] at hi
      cases hi
    rw [List.getElem?_take_of_lt hlt] at hi
    have := hnear i hi
    omega
  have hafter : ∀ bit ∈ after, bit = false := by
    apply eq_false_of_getElem?_ne
    intro i hi
    rw [List.getElem?_drop, List.getElem?_drop] at hi
    have := hnear _ hi
    omega
  intro hzero
  rw [hrow, crcBits_append, crcBits_append, crcBits_zeros hafter,
    (crcBits_zeros hbefore).mpr rfl] at hzero
  have hwindow : ∀ bit ∈ window, bit = false :=
    eq_false_of_ofBits_eq_zero
      ((crcBits_eq_zero_iff (List.length_take_le _ _)).mp hzero).symm
  have htrue := h.damaged
  rw [hrow, List.mem_append, List.mem_append] at htrue
  rcases htrue with hmem | hmem | hmem
  · exact Bool.noConfusion (hbefore true hmem)
  · exact Bool.noConfusion (hwindow true hmem)
  · exact Bool.noConfusion (hafter true hmem)

/-- An odd number of ones drives the register away from zero. -/
theorem crcBits_ne_zero_of_odd {row : List Bool} (h : Odd (row.count true)) :
    crcBits 0 row ≠ 0 := by
  intro hzero
  have hparity := oddOnes_crcBits 0 row
  rw [hzero, (oddOnes_eq_true_iff row).mpr h] at hparity
  exact absurd hparity (by decide)

/-- A body fits its own trailer, also octet by octet. -/
theorem crcBits_guarded (body : Bytes) : crcBits 0 (bits (guarded body)) = 0 := by
  have hlength : (digits trailerSize (Integrity.crc.trailer body).toNat).length = trailerSize :=
    length_digits _ _
  apply (verify_crc_iff hlength).mp
  rw [trailerSize, uint16_value_digits]
  exact verify_trailer .crc body

/-- A body passes with its own trailer. If a body and its trailer are damaged on their way in bits
that lie within sixteen consecutive places, or in an odd number of bits, the trailer that arrives is
refused for the body that arrives. -/
theorem mismatch_of_errors (body : Bytes) :
    Integrity.crc.verify body (Integrity.crc.trailer body) = .ok () ∧
    ∀ received : Bytes, received.length = (guarded body).length →
      Burst 16 (errors (guarded body) received) ∨
        Odd ((errors (guarded body) received).count true) →
      let arrived := received.take body.length
      let trailer := UInt16.ofNat (value (received.drop body.length))
      Integrity.crc.verify arrived trailer =
        .error (.checksumMismatch (Integrity.crc.trailer arrived) trailer) := by
  refine ⟨verify_trailer .crc body, ?_⟩
  intro received hlength herrors arrived trailer
  have htrailer : (received.drop body.length).length = trailerSize := by
    calc
      (received.drop body.length).length = received.length - body.length := List.length_drop
      _ = body.length + trailerSize - body.length := by
        rw [hlength, guarded, List.length_append, length_digits]
      _ = trailerSize := Nat.add_sub_cancel_left ..
  have hbits : (bits (guarded body)).length = (bits received).length := by
    rw [length_bits, length_bits, hlength]
  have hdamage : crcBits 0 (errors (guarded body) received) = crcBits 0 (bits received) := by
    calc
      crcBits 0 (errors (guarded body) received) =
          crcBits 0 (bits (guarded body)) ^^^ crcBits 0 (bits received) := crcBits_xor hbits 0 0
      _ = crcBits 0 (bits received) := by rw [crcBits_guarded, UInt16.zero_xor]
  have hnonzero : crcBits 0 (bits received) ≠ 0 := by
    rw [← hdamage]
    rcases herrors with hburst | hodd
    · exact hburst.crcBits_ne_zero
    · exact crcBits_ne_zero_of_odd hodd
  have hrefused : Integrity.crc.verify arrived trailer ≠ .ok () := by
    intro hok
    have hzero := (verify_crc_iff htrailer).mp hok
    rw [List.take_append_drop] at hzero
    exact hnonzero hzero
  unfold verify at hrefused ⊢
  dsimp only at hrefused ⊢
  split
  case isTrue hsame => exact absurd (if_pos hsame) hrefused
  case isFalse => rfl

/-- A body of one octet whose last bit arrives turned over, and with it the first bit of the
trailer, next to it. -/
theorem mismatch_of_errors_straddling :
    let received : Bytes := [0xa3, 0x40, 0xd9]
    guarded [0x23] = [0x23, 0x41, 0xd9] ∧
    Burst 16 (errors (guarded [0x23]) received) ∧
    Integrity.crc.verify [0xa3] 0xd940 =
      .error (.checksumMismatch (Integrity.crc.trailer [0xa3]) 0xd940) := by
  intro received
  have hsent : guarded [0x23] = [0x23, 0x41, 0xd9] := by decide
  have hnear : ∀ i : Fin 24, (errors (guarded [0x23]) received)[i.val]? = some true →
      7 ≤ i.val ∧ i.val < 7 + 16 := by
    decide
  have hburst : Burst 16 (errors (guarded [0x23]) received) := by
    refine ⟨by decide, 7, ?_⟩
    intro i hi
    have hlt : i < 24 := (List.getElem?_eq_some_iff.mp hi).1
    exact hnear ⟨i, hlt⟩ hi
  have hword : UInt16.ofNat (value (received.drop 1)) = 0xd940 := by decide
  have hmismatch := (mismatch_of_errors [0x23]).2 received (by decide) (.inl hburst)
  dsimp only [List.length_singleton] at hmismatch
  rw [hword] at hmismatch
  exact ⟨hsent, hburst, hmismatch⟩

end Integrity

end FramedLink
