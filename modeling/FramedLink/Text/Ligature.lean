import FramedLink.Text.Columns

/-!
# Ligatures

Letters of several scripts that are drawn as one form with the letter before them. A ligature is met
from its right end: the letter there opens it, joiners and unseen marks leave it open, and the
letter at its left end completes it, and takes less room than it would by itself.
-/

namespace FramedLink.Text

/-- The character that asks for its two neighbours to be joined. -/
def joiner : Char := '\u200d'

def lams : Spans :=
  [(0x644, 0x644), (0x6b5, 0x6b8), (0x76a, 0x76a), (0x8a6, 0x8a6), (0x8c7, 0x8c7)]

def alefs : Spans :=
  [(0x622, 0x623), (0x625, 0x625), (0x627, 0x627), (0x671, 0x673), (0x675, 0x675), (0x773, 0x774),
   (0x870, 0x882)]

def subscripts : Spans :=
  [(0x1780, 0x1782), (0x1784, 0x1787), (0x1789, 0x178c), (0x178e, 0x1793), (0x1795, 0x1798),
   (0x179b, 0x179d), (0x17a0, 0x17a0), (0x17a2, 0x17a2), (0x17a7, 0x17a7), (0x17ab, 0x17ac),
   (0x17af, 0x17af)]

def consonants : Spans :=
  [(0x2d31, 0x2d65), (0x2d6f, 0x2d6f)]

/-- The Lisu tone marks that another tone mark may follow. -/
def firstTones : Spans :=
  [(0xa4f8, 0xa4fb)]

def secondTones : Spans :=
  [(0xa4fc, 0xa4fd)]

/-- Marks that are not shown, and the joiner. -/
def unseenMarks : Spans :=
  [(0x34f, 0x34f), (0x17b4, 0x17b5), (0x180b, 0x180d), (0x180f, 0x180f), (0x200d, 0x200d),
   (0xfe00, 0xfe0f), (0xe0100, 0xe01ef)]

/-- Characters that take no column and yet keep Arabic letters apart. -/
def separators : Spans :=
  [(0x605, 0x605), (0x890, 0x891), (0x8e2, 0x8e2), (0x9be, 0x9be), (0x9d7, 0x9d7), (0xb3e, 0xb3e),
   (0xb57, 0xb57), (0xbbe, 0xbbe), (0xbd7, 0xbd7), (0xcc0, 0xcc0), (0xcc2, 0xcc2), (0xcc7, 0xcc8),
   (0xcca, 0xccb), (0xcd5, 0xcd6), (0xd3e, 0xd3e), (0xd4e, 0xd4e), (0xd57, 0xd57), (0xdcf, 0xdcf),
   (0xddf, 0xddf), (0x1160, 0x11ff), (0x1715, 0x1715), (0x1734, 0x1734), (0x180e, 0x180e),
   (0x1b35, 0x1b35), (0x1b3b, 0x1b3b), (0x1b3d, 0x1b3d), (0x1b43, 0x1b44), (0x1baa, 0x1baa),
   (0x1bf2, 0x1bf3), (0x200c, 0x200d), (0x2065, 0x2069), (0x302e, 0x302f), (0x3164, 0x3164),
   (0xa8fa, 0xa8fa), (0xa953, 0xa953), (0xa9c0, 0xa9c0), (0xd7b0, 0xd7c6), (0xd7cb, 0xd7fb),
   (0xffa0, 0xffa0), (0xfff0, 0xfff8), (0x111c0, 0x111c0), (0x111c2, 0x111c3), (0x11235, 0x11235),
   (0x1133e, 0x1133e), (0x1134d, 0x1134d), (0x11357, 0x11357), (0x113b8, 0x113b8),
   (0x113c2, 0x113c2), (0x113c5, 0x113c5), (0x113c7, 0x113c9), (0x113cf, 0x113cf),
   (0x113d1, 0x113d1), (0x114b0, 0x114b0), (0x114bd, 0x114bd), (0x115af, 0x115af),
   (0x116b6, 0x116b6), (0x11930, 0x11930), (0x1193d, 0x1193d), (0x1193f, 0x1193f),
   (0x11941, 0x11941), (0x11a84, 0x11a89), (0x11d46, 0x11d46), (0x11f02, 0x11f02),
   (0x11f41, 0x11f41), (0x16ff0, 0x16ff1), (0x1d165, 0x1d166), (0x1d16d, 0x1d172),
   (0x1d250, 0x1d252), (0x1d25f, 0x1d25f), (0x1d280, 0x1d281), (0xe0000, 0xe0000),
   (0xe0002, 0xe001f), (0xe0080, 0xe00ff), (0xe01f0, 0xe0fff)]

/-- Whether Arabic letters join across a character as if it were not there. -/
def isTransparent (c : Char) : Bool :=
  c.toNat > 0xa0 && charWidth c = 0 && !separators.holds c

/-- A ligature of which the right end was met, and whether a joiner was met after that. -/
inductive Ligature where
  /-- Lam and alef. -/
  | alef
  /-- Alef, joiner and lamed. -/
  | lamed (joined : Bool)
  /-- A Khmer letter below the one before it. -/
  | subscript
  /-- The Buginese letters a and ya with a vowel sign and a joiner between them. -/
  | ya (joined : Bool)
  /-- The same, with the vowel sign met as well. -/
  | signAndYa
  /-- Two Tifinagh consonants. -/
  | consonant (joined : Bool)
  /-- The same, with the visible joiner of the script met as well. -/
  | joinerAndConsonant
  /-- Two Lisu tone marks. -/
  | secondTone
  /-- Two letters of Old Turkic with a joiner between them. -/
  | orkhonI (joined : Bool)
  deriving DecidableEq, Repr

namespace Ligature

/-- The ligature that a letter is the right end of. -/
def ofChar? (c : Char) : Option Ligature :=
  if alefs.holds c then some .alef
  else if c = '\u05dc' then some (.lamed false)
  else if subscripts.holds c then some .subscript
  else if c = '\u1a10' then some (.ya false)
  else if consonants.holds c then some (.consonant false)
  else if secondTones.holds c then some .secondTone
  else if c.toNat = 0x10c03 then some (.orkhonI false)
  else none

def join : Ligature → Ligature
  | .lamed _ => .lamed true
  | .ya _ => .ya true
  | .consonant _ => .consonant true
  | .orkhonI _ => .orkhonI true
  | ligature => ligature

/-- The ligature with a character met that leaves it open and takes no room. -/
def extend? (ligature : Ligature) (c : Char) : Option Ligature :=
  if ligature = .alef then if isTransparent c then some .alef else none
  else if c = joiner then some ligature.join
  else if unseenMarks.holds c then some ligature
  else none

/-- What a letter of the ligature adds to the columns, and the ligature that is open then, if it is
not complete. -/
def advance? (ligature : Ligature) (c : Char) : Option (Int × Option Ligature) :=
  match ligature with
  | .alef => if lams.holds c then some (0, none) else none
  | .lamed joined => if joined && c = '\u05d0' then some (0, none) else none
  | .subscript => if c = '\u17d2' then some (-1, none) else none
  | .ya joined => if joined && c = '\u1a17' then some (0, some .signAndYa) else none
  | .signAndYa => if c = '\u1a15' then some (0, none) else none
  | .consonant joined =>
    if c = '\u2d7f' then some (1, some .joinerAndConsonant)
    else if joined && consonants.holds c then some (0, none)
    else none
  | .joinerAndConsonant => if consonants.holds c then some (-1, none) else none
  | .secondTone => if firstTones.holds c then some (0, none) else none
  | .orkhonI joined => if joined && c.toNat = 0x10c32 then some (0, none) else none

end Ligature

end FramedLink.Text
