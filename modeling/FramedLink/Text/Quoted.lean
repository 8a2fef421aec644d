import FramedLink.Text.Combining
import FramedLink.Text.Unprintable
import FramedLink.Text.Numeral

/-!
# Quoted characters

How a diagnostic names a single character: between single quotes, with a backslash before a quote or
a backslash, short forms for the usual controls, and the code point in braces for every character
that has no visible form of its own or would attach to the quote before it.
-/

namespace FramedLink.Text

/-- What stands between the quotes for a character. -/
def escapedChar (c : Char) : String :=
  if c = '\x00' then "\\0"
  else if c = '\t' then "\\t"
  else if c = '\r' then "\\r"
  else if c = '\n' then "\\n"
  else if c = '\'' then "\\'"
  else if c = '\\' then "\\\\"
  else if isCombining c || !isPrintable c then "\\u\x7b" ++ hexShort c.toNat ++ "\x7d"
  else String.singleton c

def quotedChar (c : Char) : String :=
  "'" ++ escapedChar c ++ "'"

end FramedLink.Text
