/-!
# Sets of characters given by spans

A property of characters that a standard fixes is held as a table of spans of code points, in
ascending order and with both ends included. A character has the property when a span holds its
code point.
-/

namespace FramedLink.Text

/-- Spans of code points, both ends included. -/
abbrev Spans := List (Nat × Nat)

def Spans.holds (spans : Spans) (c : Char) : Bool :=
  spans.any fun (first, last) ↦ first ≤ c.toNat && c.toNat ≤ last

end FramedLink.Text
