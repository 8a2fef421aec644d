/-!
# Channel errors

What can go wrong between a link and the device below it: faults of the operating system, each of a
kind and with a text of its own if it has one, the end of a stream, and a frame that the device took
only in part.
-/

namespace FramedLink

inductive IoKind where
  | notFound
  | permissionDenied
  | connectionReset
  | brokenPipe
  | isDirectory
  | notDirectory
  | invalidData
  | unexpectedEnd
  | timedOut
  | wouldBlock
  | interrupted
  | other
  deriving DecidableEq, Repr

/-- What a kind of fault is called where a fault has no text of its own. -/
def IoKind.description : IoKind → String
  | .notFound => "entity not found"
  | .permissionDenied => "permission denied"
  | .connectionReset => "connection reset"
  | .brokenPipe => "broken pipe"
  | .isDirectory => "is a directory"
  | .notDirectory => "not a directory"
  | .invalidData => "invalid data"
  | .unexpectedEnd => "unexpected end of file"
  | .timedOut => "timed out"
  | .wouldBlock => "operation would block"
  | .interrupted => "operation interrupted"
  | .other => "other error"

structure IoFault where
  kind : IoKind
  text : Option String
  deriving DecidableEq, Repr

namespace IoFault

def message (fault : IoFault) : String :=
  fault.text.getD fault.kind.description

/-- A fault without a text of its own. -/
def ofKind (kind : IoKind) : IoFault :=
  ⟨kind, none⟩

/-- Whether the same call may simply be made again. -/
def isTransient (fault : IoFault) : Bool :=
  fault.kind = .interrupted || fault.kind = .wouldBlock

/-- Whether a read reports that nothing is there at present. -/
def isIdle (fault : IoFault) : Bool :=
  fault.kind = .wouldBlock || fault.kind = .timedOut

end IoFault

inductive ChannelError where
  | device (fault : IoFault)
  /-- The other end closed the stream, and everything it sent was read. -/
  | closed
  /-- The device took `written` of the `expected` octets of a frame. -/
  | shortWrite (written expected : Nat)
  deriving DecidableEq, Repr

def ChannelError.message : ChannelError → String
  | .device fault => "transport I/O error: " ++ fault.message
  | .closed => "transport closed"
  | .shortWrite written expected => s!"short write ({written} of {expected} bytes)"

end FramedLink
