import FramedLink.Text.Spans

/-!
# Blank characters

The twenty-five characters that separate words in any script: blank, tabulators, line ends, the
fixed-width and ideographic spaces, and the line and paragraph separators.
-/

namespace FramedLink.Text

/-- White space in the sense of the character standard. -/
def blanks : Spans :=
  [(0x9, 0xd), (0x20, 0x20), (0x85, 0x85), (0xa0, 0xa0), (0x1680, 0x1680), (0x2000, 0x200a),
   (0x2028, 0x2029), (0x202f, 0x202f), (0x205f, 0x205f), (0x3000, 0x3000)]

def isBlank (c : Char) : Bool :=
  blanks.holds c

/-- Whether a character is a control: the first 32 code points and those from delete to the end of
the second control block. -/
def isControl (c : Char) : Bool :=
  c.toNat < 0x20 || (0x7f ≤ c.toNat && c.toNat < 0xa0)

end FramedLink.Text
