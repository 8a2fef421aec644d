import FramedLink.Endpoint.Error

/-!
# How the tool ends

The tool ends with an exit code, and with a message if something went wrong. The code tells apart
what a caller may want to react to: bad settings, a missing file, data that can not be read, a
closed link. A failure of a lower layer is put into the words of the step that met it, so its
message begins with a context.
-/

namespace FramedLink.Tool

inductive ExitCode where
  | success
  /-- The link was closed. -/
  | failure
  /-- The channel failed in a way of its own. -/
  | transport
  /-- Bad usage of the command line. -/
  | misuse
  | permissionDenied
  | invalidData
  /-- Settings that do not work. -/
  | badSettings
  | notFound
  | internal
  deriving DecidableEq, Repr

def ExitCode.number : ExitCode → Nat
  | .success => 0
  | .failure => 1
  | .misuse => 2
  | .transport => 3
  | .permissionDenied => 50
  | .invalidData => 60
  | .badSettings => 64
  | .notFound => 66
  | .internal => 125

structure Failure where
  code : ExitCode
  message : String
  deriving DecidableEq, Repr

namespace Failure

/-- A message behind its context. -/
def within (context : String) (code : ExitCode) (message : String) : Failure :=
  ⟨code, context ++ ": " ++ message⟩

/-- The exit code for a kind of fault of the operating system. -/
def codeOfIo : IoKind → ExitCode
  | .permissionDenied => .permissionDenied
  | .notFound => .notFound
  | .invalidData | .unexpectedEnd => .invalidData
  | _ => .internal

def ofIo (context : String) (fault : IoFault) : Failure :=
  within context (codeOfIo fault.kind) fault.message

/-- An error of a channel. A failing device is reported by its own fault. -/
def ofChannel (context : String) : ChannelError → Failure
  | .device fault => ofIo context fault
  | .closed => within context .failure ChannelError.closed.message
  | .shortWrite written expected =>
    within context .transport (ChannelError.shortWrite written expected).message

/-- The exit code for a frame error: what is wrong with the data, and what can only be a mistake of
the tool. -/
def codeOfFrame : FrameError → ExitCode
  | .overflow .. | .underflow .. => .internal
  | _ => .invalidData

def ofFrame (context : String) (error : FrameError) : Failure :=
  within context (codeOfFrame error) error.message

/-- An endpoint error. Errors of the layers below are reported without the endpoint's wording. -/
def ofEndpoint (context : String) : EndpointError → Failure
  | .channel error => ofChannel context error
  | .frame error => ofFrame context error
  | .config fault => within context .badSettings (EndpointError.config fault).message
  | .registration => within context .internal EndpointError.registration.message
  | .reentrant => within context .internal EndpointError.reentrant.message

end Failure

end FramedLink.Tool
