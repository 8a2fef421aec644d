import FramedLink.Endpoint.ConfigText
import FramedLink.Text.Utf8
import FramedLink.Tool.Command
import FramedLink.Tool.Exit
import FramedLink.Tool.Folder

/-!
# Settings from the command line

The settings of an endpoint come from a file if one is named, and from the defaults otherwise.
Options for single settings are put on top, and the whole is checked before anything else is done.
-/

namespace FramedLink.Tool

/-- The fault of a file that should hold text and does not. -/
def notText : IoFault := ⟨.invalidData, some "stream did not contain valid UTF-8"⟩

def readFile (folder : Folder) (path : String) : Except Failure Bytes :=
  (folder.open? path).mapError (Failure.ofIo ("failed reading " ++ path))

/-- The contents of a file that holds text. -/
def readTextFile (folder : Folder) (path : String) : Except Failure String :=
  match readFile folder path with
  | .error failure => .error failure
  | .ok contents =>
    (Text.Utf8.decode contents).mapError fun _ ↦ Failure.ofIo ("failed reading " ++ path) notText

namespace SettingsOptions

/-- The settings below the options. -/
def base (options : SettingsOptions) (folder : Folder) : Except Failure Config :=
  match options.file with
  | none => .ok {}
  | some path =>
    match readTextFile folder path with
    | .error failure => .error failure
    | .ok text =>
      match Config.parse text with
      | some config => .ok config
      | none => .error ⟨.invalidData, path ++ " is not a valid service config"⟩

def onTopOf (options : SettingsOptions) (config : Config) : Config :=
  { config with
    inSize := options.inSize.getD config.inSize
    outSize := options.outSize.getD config.outSize
    stallTimeout := options.stallTimeout.getD config.stallTimeout
    connType := options.connType.getD config.connType
    integrity := if options.crc then .crc else config.integrity
    quietTimeout := options.quietTimeout.or config.quietTimeout }

/-- The settings that options stand for, if an endpoint can work with them. -/
def resolve (options : SettingsOptions) (folder : Folder) : Except Failure Config :=
  match options.base folder with
  | .error failure => .error failure
  | .ok config =>
    let config := options.onTopOf config
    match config.fault? with
    | none => .ok config
    | some fault => .error (.ofEndpoint "bad service settings" (.config fault))

end SettingsOptions

end FramedLink.Tool
