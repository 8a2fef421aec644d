import FramedLink.Text.Blank

/-!
# Lines

A text that is written line by line. A line feed ends a line, and so does a carriage return with a
line feed behind it. A line starts with its first character that is not blank.
-/

namespace FramedLink.Text

/-- The parts of a text between its line feeds. -/
def splitLines (text : List Char) : List (List Char) :=
  text.foldr (fun c parts ↦ if c = '\n' then [] :: parts else parts.modifyHead (c :: ·)) [[]]

/-- A part of a text as a line: without the carriage return at its end and the blanks at its
start. -/
def trimLine (part : List Char) : List Char :=
  (if part.getLast? = some '\r' then part.dropLast else part).dropWhile isBlank

def lines (text : String) : List String :=
  (splitLines text.toList).map fun part ↦ String.ofList (trimLine part)

end FramedLink.Text
