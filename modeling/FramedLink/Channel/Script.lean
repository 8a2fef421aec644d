import FramedLink.Channel.Stream

/-!
# Scripted streams

A stream that does what a script says, call by call: which blocks it delivers, how much of an offer
it takes, and where it fails. When the script of a call has run out, reads find nothing ready and
writes and flushes succeed.
-/

namespace FramedLink

/-- The answers of the calls to come, and what was taken so far. -/
structure Script where
  reads : List (Except IoFault Bytes) := []
  writes : List (Except IoFault Nat) := []
  flushes : List (Except IoFault Unit) := []
  taken : Bytes := []

namespace Script

instance : Inhabited Script := ⟨{}⟩

def read (size : Nat) (script : Script) : Except IoFault Bytes × Script :=
  match script.reads with
  | [] => (.error (.ofKind .wouldBlock), script)
  | .error fault :: rest => (.error fault, { script with reads := rest })
  | .ok block :: rest =>
    match block.drop size with
    | [] => (.ok block, { script with reads := rest })
    | later => (.ok (block.take size), { script with reads := .ok later :: rest })

/-- Takes as much of an offer as the script allows. -/
def write (offer : Bytes) (script : Script) : Except IoFault Nat × Script :=
  match script.writes with
  | [] => (.ok offer.length, { script with taken := script.taken ++ offer })
  | .error fault :: rest => (.error fault, { script with writes := rest })
  | .ok most :: rest =>
    let part := offer.take most
    (.ok part.length, { script with writes := rest, taken := script.taken ++ part })

def flush (script : Script) : Except IoFault Unit × Script :=
  match script.flushes with
  | [] => (.ok (), script)
  | answer :: rest => (answer, { script with flushes := rest })

/-- One for each entry and one for each octet still to be delivered. -/
def readBound (script : Script) : Nat :=
  script.reads.foldl
    (fun sum entry ↦ sum + 1 + (match entry with | .ok block => block.length | .error _ => 0)) 0

/-- A script with more entries behind its own. -/
def extend (script more : Script) : Script :=
  { script with
    reads := script.reads ++ more.reads
    writes := script.writes ++ more.writes
    flushes := script.flushes ++ more.flushes }

instance : ByteStream Script where
  read := read
  write := write
  flush := flush
  readBound := readBound
  writeBound script := script.writes.length
  flushBound script := script.flushes.length

end Script

end FramedLink
