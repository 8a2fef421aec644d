import FramedLink.Text.Quoted

/-!
# Frame errors

What can be wrong with a frame, or with a read or a write inside the payload of one. Sizes, offsets
and limits count octets; offsets are taken from the start of the frame.
-/

namespace FramedLink

/-- A fault in a frame or in the use of its payload. -/
inductive FrameError where
  /-- A frame begins with another octet than the start marker. -/
  | badMarker (found : UInt8)
  /-- A payload is larger than the length field or the receiving side allows. -/
  | tooLarge (size max : Nat)
  /-- There are fewer octets than a header has. -/
  | incomplete (present needed : Nat)
  /-- A write would pass the end of the outgoing region. -/
  | overflow (offset needed limit : Nat)
  /-- A read would pass the end of the open payload. -/
  | underflow (offset needed limit : Nat)
  /-- A character has no single-octet form. -/
  | wideCharacter (c : Char)
  /-- The trailer differs from the checksum of the frame before it. -/
  | checksumMismatch (computed received : UInt16)
  deriving DecidableEq, Repr

namespace FrameError

open Text in
def message : FrameError → String
  | .badMarker found =>
    "invalid start marker 0x" ++ hexPadded 2 found.toNat ++ " (expected 0x23 '#')"
  | .tooLarge size max => s!"payload too large ({size} bytes, max {max})"
  | .incomplete present needed => s!"incomplete frame ({present} of {needed} bytes)"
  | .overflow offset needed limit =>
    s!"write overflow: {needed} bytes at offset {offset}, limit {limit}"
  | .underflow offset needed limit =>
    s!"read underflow: {needed} bytes at offset {offset}, limit {limit}"
  | .wideCharacter c => "character " ++ quotedChar c ++ " is not representable in one byte"
  | .checksumMismatch computed received =>
    "checksum mismatch (computed 0x" ++ hexPadded 4 computed.toNat ++ ", trailer 0x" ++
      hexPadded 4 received.toNat ++ ")"

end FrameError

end FramedLink
