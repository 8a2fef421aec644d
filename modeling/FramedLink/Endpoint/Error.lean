import FramedLink.Endpoint.Config
import FramedLink.Channel.Error

/-!
# Endpoint errors

Everything that an operation of an endpoint can fail with: faults of the channel below it, faults of
a frame, settings that do not work, a handler that could not be kept, and a poll from inside a
handler.
-/

namespace FramedLink

inductive EndpointError where
  | channel (error : ChannelError)
  | frame (error : FrameError)
  /-- There was no room to keep another handler. -/
  | registration
  | config (fault : ConfigFault)
  /-- A poll was asked for while a packet is being dispatched. -/
  | reentrant
  deriving DecidableEq, Repr

def EndpointError.message : EndpointError → String
  | .channel error => "transport error: " ++ error.message
  | .frame error => "frame error: " ++ error.message
  | .registration =>
    "handler registration failed: memory allocation failed because the computed capacity " ++
      "exceeded the collection's maximum"
  | .config fault => "invalid configuration: " ++ fault.message
  | .reentrant => "poll called from within a message handler"

end FramedLink
