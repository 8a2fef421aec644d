import FramedLink.Channel.Stream

/-!
# Regular files as streams

A file opened for reading and writing with one position for both. A read takes what follows the
position, up to the size asked for, and ends the stream where the file ends; a write replaces what
follows the position and lengthens the file where it has to. Both move the position.
-/

namespace FramedLink

/-- The contents of an open file, cut at its position. -/
structure RegularFile where
  /-- What lies before the position, last octet first. -/
  passed : Bytes := []
  ahead : Bytes
  deriving Inhabited

namespace RegularFile

def contents (file : RegularFile) : Bytes :=
  file.passed.reverse ++ file.ahead

/-- The file with the position moved behind `octets`, which then stand before it. -/
def pass (file : RegularFile) (octets : Bytes) : RegularFile :=
  { passed := octets.reverse ++ file.passed, ahead := file.ahead.drop octets.length }

instance : ByteStream RegularFile where
  read size file :=
    let block := file.ahead.take size
    (.ok block, file.pass block)
  write octets file := (.ok octets.length, file.pass octets)
  flush file := (.ok (), file)
  readBound file := file.ahead.length
  writeBound _ := 0
  flushBound _ := 0

end RegularFile

end FramedLink
