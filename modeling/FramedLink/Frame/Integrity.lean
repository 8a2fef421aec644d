import FramedLink.Frame.Error
import FramedLink.LittleEndian

/-!
# Integrity of frames

A frame ends in a 16-bit trailer. Either the trailer is always zero and never looked at, or it is a
cyclic redundancy check over header and payload: reflected polynomial `0xA001`, initial value zero.
The check is computed octet by octet, so the check of a whole can be continued from that of a part.
-/

namespace FramedLink

/-- One bit of the check: shift right, and add the polynomial if a one fell out. -/
def crcBit (crc : UInt16) : UInt16 :=
  if crc &&& 1 = 1 then (crc >>> 1) ^^^ 0xa001 else crc >>> 1

def crcByte (crc : UInt16) (b : UInt8) : UInt16 :=
  Nat.repeat crcBit 8 (crc ^^^ b.toUInt16)

def crc16 (crc : UInt16) (bytes : Bytes) : UInt16 :=
  bytes.foldl crcByte crc

@[simp]
theorem crc16_nil (crc : UInt16) : crc16 crc [] = crc := rfl

/-- The check of a whole continues that of its first part. -/
@[simp]
theorem crc16_append (crc : UInt16) (front back : Bytes) :
    crc16 crc (front ++ back) = crc16 (crc16 crc front) back :=
  List.foldl_append

/-- How trailers are made and checked. -/
inductive Integrity where
  /-- Trailers are zero and pass whatever they hold. -/
  | unchecked
  /-- Trailers hold the check of header and payload. -/
  | crc
  deriving DecidableEq, Repr

namespace Integrity

def name : Integrity → String
  | .unchecked => "none"
  | .crc => "crc16"

def ofName? (name : String) : Option Integrity :=
  if name = "none" then some .unchecked
  else if name = "crc16" then some .crc
  else none

def trailer (mode : Integrity) (body : Bytes) : UInt16 :=
  match mode with
  | .unchecked => 0
  | .crc => crc16 0 body

def verify (mode : Integrity) (body : Bytes) (received : UInt16) : Except FrameError Unit :=
  match mode with
  | .unchecked => .ok ()
  | .crc =>
    let computed := crc16 0 body
    if computed = received then .ok () else .error (.checksumMismatch computed received)

theorem verify_trailer (mode : Integrity) (body : Bytes) :
    mode.verify body (mode.trailer body) = .ok () := by
  cases mode <;> simp [verify, trailer]

end Integrity

end FramedLink
