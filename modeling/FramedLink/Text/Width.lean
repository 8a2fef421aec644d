import FramedLink.Text.Emoji
import FramedLink.Text.Ligature

/-!
# Display width

How many columns a text takes on a terminal. Most characters take their own columns, but a character
may take less or more in front of another: letters form ligatures, and pictures are chosen, coloured
and joined by what stands behind them. So a text is measured from its end, and every character is
placed before the one on its right.
-/

namespace FramedLink.Text

/-- The selectors that choose the form of the character before them. -/
inductive Selector where
  | picture
  | text
  /-- The form of a curly quote that fills a wide cell. -/
  | fullwidth
  deriving DecidableEq, Repr

def Selector.ofChar? (c : Char) : Option Selector :=
  if c = '\ufe0f' then some .picture
  else if c = '\ufe0e' then some .text
  else if c = '\ufe01' then some .fullwidth
  else none

/-- What stands before a picture, from the joiner in front of the picture on. -/
inductive Joined where
  | bare
  /-- The frame of a key. -/
  | key
  /-- So many letters of flags. -/
  | flag (count : Nat)
  /-- So many letters of a region, met from its end. -/
  | letters (count : Nat)
  /-- So many digits of a region, met from its end. -/
  | digits (count : Nat)
  deriving DecidableEq, Repr

/-- What a character finds on its right. -/
inductive Follower where
  /-- Nothing that changes the columns of a character before it. -/
  | plain
  | lineFeed
  | tone
  | halfFlag
  | flags
  | picture
  | joined (part : Joined)
  /-- The Kirat Rai vowel sign e. -/
  | signE
  /-- The Kirat Rai vowel sign ai, which two signs e make as well. -/
  | signAi
  /-- A ligature that may yet be completed. -/
  | opened (ligature : Ligature)
  deriving DecidableEq, Repr

namespace Follower

def ofChar (c : Char) : Follower :=
  if tones.holds c then .tone
  else if flagLetters.holds c then .halfFlag
  else if isPicture c then .picture
  else if c.toNat = 0x16d67 then .signE
  else if c.toNat = 0x16d68 then .signAi
  else (Ligature.ofChar? c).elim .plain .opened

/-- Whether what stands on the right begins with a joiner, or a key behind which one stands. -/
def isJoined : Follower → Bool
  | .joined _ => true
  | _ => false

/-- Meets one more character of a sequence that ends in a joiner and a picture. -/
def advanceJoined? (part : Joined) (c : Char) : Option (Int × Follower) :=
  match part with
  | .bare =>
    if c = '\u20e3' then some (0, .joined .key)
    else if flagLetters.holds c then some (1, .joined (.flag 1))
    else if tones.holds c then some (0, .tone)
    else if c = tagEnd then some (0, .joined (.letters 0))
    else if isPicture c then some (0, .picture)
    else none
  | .key => none
  | .flag count =>
    if flagLetters.holds c then some (if count % 2 = 0 then 3 else -1, .joined (.flag (count + 1)))
    else if c = joiner && 2 ≤ count then some (0, .joined .bare)
    else none
  | .letters count =>
    if tagLetters.holds c && count < 6 then some (0, .joined (.letters (count + 1)))
    else if tagDigits.holds c && count < 5 then some (0, .joined (.digits 1))
    else if c = blackFlag && 3 ≤ count then some (0, .picture)
    else none
  | .digits count =>
    if tagDigits.holds c && count < 3 then some (0, .joined (.digits (count + 1)))
    else if c = blackFlag && count = 3 then some (0, .picture)
    else none

/-- What a character adds to the columns where it forms one sign with what follows it, and what the
two are to the character before them. -/
def advance? (follower : Follower) (c : Char) : Option (Int × Follower) :=
  match follower with
  | .plain | .lineFeed => none
  | .tone =>
    if colourable.holds c then some (0, .picture)
    else if c = joiner then some (0, .joined .bare)
    else none
  | .halfFlag => if flagLetters.holds c then some (1, .flags) else none
  | .flags =>
    if flagLetters.holds c then some (1, .flags)
    else if c = joiner then some (0, .joined .bare)
    else none
  | .picture => if c = joiner then some (0, .joined .bare) else none
  | .joined part => advanceJoined? part c
  | .signE =>
    if c.toNat = 0x16d63 || c.toNat = 0x16d69 then some (0, .plain)
    else if c.toNat = 0x16d67 then some (0, .signAi)
    else if c.toNat = 0x16d68 then some (1, .signE)
    else none
  | .signAi => if c.toNat = 0x16d63 then some (0, .plain) else none
  | .opened ligature =>
    match ligature.extend? c with
    | some longer => some (0, .opened longer)
    | none => (ligature.advance? c).map fun (added, rest) ↦ (added, rest.elim .plain .opened)

end Follower

/-- What a character finds on its right, and the selectors between the two that still matter, the
nearest one first. -/
structure Context where
  follower : Follower := .plain
  selectors : List Selector := []
  deriving DecidableEq, Repr

namespace Context

/-- Whether the picture form of a character is asked for. The selector stands directly behind it. -/
def asksPicture (context : Context) : Bool :=
  context.selectors.head? = some .picture

/-- What is left of the follower for a character that has no picture form. -/
def settle (context : Context) : Follower :=
  if context.asksPicture && context.follower.isJoined then .plain else context.follower

/-- The context with a selector met. A ligature is met across any number of selectors. Of the other
sequences, only one that goes on with a picture is not ended by a selector. -/
def select (context : Context) (selector : Selector) : Context :=
  match context.settle with
  | .opened ligature => ⟨.opened ligature, selector :: context.selectors⟩
  | .joined .bare => ⟨if selector = .picture then .joined .bare else .plain, [selector]⟩
  | .joined .key => ⟨if selector = .picture then .joined .key else .plain, [selector]⟩
  | _ => ⟨.plain, [selector]⟩

end Context

def curlyQuotes : Spans :=
  [(0x2018, 0x2019), (0x201c, 0x201d)]

/-- What a character adds to the columns of what stands on its right, and what the two together are
to the character before them. -/
def place (c : Char) (context : Context) : Int × Context :=
  if context.asksPicture && bothForms.holds c then
    (if context.follower.isJoined then 0 else 2, ⟨.picture, []⟩)
  else if c = '\n' then (1, ⟨.lineFeed, []⟩)
  else if c = '\r' && context.follower = .lineFeed then (0, {})
  else if c.toNat ≤ 0xa0 then (1, {})
  else match Selector.ofChar? c with
    | some selector => (0, context.select selector)
    | none =>
      if isNarrowAsText c && context.selectors.contains .text then (1, {})
      else if curlyQuotes.holds c && context.selectors.contains .fullwidth then (2, {})
      else match context.settle.advance? c with
        | some (columns, follower) => (columns, ⟨follower, []⟩)
        | none => (charWidth c, ⟨.ofChar c, []⟩)

/-- The columns of the characters of a text, and what they are to a character before them. -/
def measure (text : List Char) : Int × Context :=
  text.foldr (fun c (columns, context) ↦
    let (added, context) := place c context
    (columns + added, context)) (0, {})

def width (text : String) : Nat :=
  (measure text.toList).1.toNat

end FramedLink.Text
