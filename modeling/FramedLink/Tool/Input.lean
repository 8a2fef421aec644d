import FramedLink.Frame.Codec
import FramedLink.Text.Hex
import FramedLink.Tool.Settings

/-!
# What commands work on

The payload that `encode` puts into a frame, and the octets that `decode` looks for frames in. Both
can be given as hex text; a payload can also be given as it is, and either can lie in a file.
-/

namespace FramedLink.Tool

def readHex (text : String) : Except Failure Bytes :=
  (Text.Hex.decode text).mapError fun fault ↦ ⟨.invalidData, fault.message⟩

/-- The octets of hex text that is given as octets. -/
def readHexOctets (octets : Bytes) : Except Failure Bytes :=
  match Text.Utf8.decode octets with
  | .ok text => readHex text
  | .error fault => .error (.within "hex input is not text" .invalidData fault.message)

def PayloadSource.read (source : PayloadSource) (folder : Folder) : Except Failure Bytes :=
  match source with
  | .empty => .ok []
  | .text data => .ok (Text.Utf8.encode data)
  | .hex digits => readHex digits
  | .file path => readFile folder path

def DecodeOptions.read (options : DecodeOptions) (folder : Folder) (input : Bytes) :
    Except Failure Bytes :=
  let octets := match options.file with
    | some path => readFile folder path
    | none => .ok input
  match octets with
  | .error failure => .error failure
  | .ok octets => if options.hex then readHexOctets octets else .ok octets

structure EncodedFrame where
  type : UInt8
  id : UInt8
  /-- Octets of its payload. -/
  size : Nat
  wire : Bytes
  deriving DecidableEq, Repr

def EncodeOptions.frame (options : EncodeOptions) (payload : Bytes) :
    Except Failure EncodedFrame :=
  match Frame.encode options.type options.id payload options.integrity with
  | .ok wire => .ok { type := options.type, id := options.id, size := payload.length, wire }
  | .error error => .error (.ofFrame "encode failed" error)

end FramedLink.Tool
