/-!
# Message types

The type octet of a frame says what its payload is for. Types 0 and 1 carry the handshake; every
other value belongs to the application and means nothing to the protocol.
-/

namespace FramedLink.MessageType

/-- A request to connect, with the sender's description as payload. -/
def connectRequest : UInt8 := 0

def connectResponse : UInt8 := 1

/-- The name under which reports show a message type. -/
def name (type : UInt8) : String :=
  if type = connectRequest then "CONNECT_REQUEST"
  else if type = connectResponse then "CONNECT_RESPONSE"
  else "USER"

end FramedLink.MessageType
