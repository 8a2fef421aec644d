import FramedLink.Tool.Run
import Std.Time.DateTime.Timestamp

/-!
# The command line tool

Reads the command line, fetches what the command needs, carries it out, and puts the results where
they belong. Everything that is decided is decided elsewhere.
-/

namespace FramedLink.Tool

/-- The fault that an error of the runtime stands for. -/
def faultOfError : IO.Error → IoFault
  | .noFileOrDirectory .. => Folder.noSuchFile
  | .permissionDenied .. => ⟨.permissionDenied, some "Permission denied (os error 13)"⟩
  | .inappropriateType _ code _ =>
    if code = 21 then Folder.isADirectory else Folder.notADirectory
  | .invalidArgument _ 36 _ => Folder.nameTooLong
  | error => ⟨.other, some (toString error)⟩

/-- Opens a file and takes its contents; a file that is also written to is opened for both. -/
def fetch (path : String) (forWriting : Bool) : IO (Except IoFault Bytes) := do
  try
    let mode : IO.FS.Mode := if forWriting then .readWrite else .read
    let handle ← IO.FS.Handle.mk path mode
    return .ok (← handle.readBinToEnd).toList
  catch error => return .error (faultOfError error)

/-- What a command meets. -/
def meetSurroundings (command : Command) : IO Surroundings := do
  let mut folder : Folder := {}
  for path in command.files do
    folder := folder.put path (← fetch path (command.device? = some path))
  let input ← if command.readsInput then (← IO.getStdin).readBinToEnd else pure .empty
  let prescribed ← (List.range 16).mapM fun _ ↦ IO.rand 1 (UInt32.size - 1)
  let next ← IO.rand 1 (UInt32.size - 1)
  let now ← Std.Time.Timestamp.now
  return {
    folder
    input := input.toList
    ids := ⟨prescribed.map UInt32.ofNat, UInt32.ofNat next⟩
    time := now.toSecondsSinceUnixEpoch.val.toNat }

/-- Puts the results of a run where they belong, and ends with its exit code. -/
def deliver (invocation : Invocation) (outcome : Outcome) : IO UInt32 := do
  for path in invocation.command.device?.toList do
    if let .ok contents := outcome.folder.open? path then
      IO.FS.writeBinFile path ⟨contents.toArray⟩
  for entry in outcome.log invocation.logLayout invocation.threshold do
    IO.eprintln entry
  let output ← IO.getStdout
  output.write ⟨outcome.output.toArray⟩
  output.flush
  for entry in outcome.errorLine.toList do
    IO.eprintln entry
  return UInt32.ofNat outcome.code.number

end FramedLink.Tool

open FramedLink.Tool in
def main (words : List String) : IO UInt32 := do
  let fallback : Layout := if ← (← IO.getStdout).isTty then .table else .json
  match Request.ofWords fallback words with
  | .misuse =>
    IO.eprintln "error: bad usage"
    return UInt32.ofNat ExitCode.misuse.number
  | .version =>
    IO.println banner
    return UInt32.ofNat ExitCode.success.number
  | .run invocation =>
    let around ← meetSurroundings invocation.command
    deliver invocation (invocation.command.run invocation.layout around)
