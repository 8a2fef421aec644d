import FramedLink.LittleEndian
import FramedLink.Channel.Error

/-!
# Files by name

The files that a run of the tool can reach, each with its contents or with the fault that opening it
meets. Paths that differ only in empty parts and in parts that stay where they are name the same
file. A path that is no name of a file, is too long, or leads nowhere, to a directory, or through a
file fails as it does in the operating system, with its wording.
-/

namespace FramedLink.Tool

/-- Files and what opening them yields. -/
structure Folder where
  entries : List (List String × Except IoFault Bytes) := []

namespace Folder

def noSuchFile : IoFault := ⟨.notFound, some "No such file or directory (os error 2)"⟩

def notADirectory : IoFault := ⟨.notDirectory, some "Not a directory (os error 20)"⟩

def isADirectory : IoFault := ⟨.isDirectory, some "Is a directory (os error 21)"⟩

def nameTooLong : IoFault := ⟨.other, some "File name too long (os error 36)"⟩

/-- The fault of a path that holds the character which ends every path. -/
def nulInPath : IoFault := ⟨.other, some "file name contained an unexpected NUL byte"⟩

/-- The octets of the longest path that is looked at. -/
def longestPath : Nat := 4095

def longestName : Nat := 255

/-- The parts of a path that count. A path from the root has a part of its own for the root. -/
def parts (path : String) : List String :=
  let named := (path.splitOn "/").filter fun part ↦ part != "" && part != "."
  if path.startsWith "/" then "/" :: named else named

/-- Whether a path can only lead to a directory, whatever the files. -/
def endsInDirectory (path : String) : Bool :=
  (path.splitOn "/").getLast?.any fun part ↦ part = "" || part = "." || part = ".."

/-- What opening a file yields. A path is followed part by part, so the first part that names
neither a directory nor a file decides how a path that leads nowhere fails. -/
def open? (folder : Folder) (path : String) : Except IoFault Bytes :=
  let parts := parts path
  if path.contains '\x00' then .error nulInPath
  else if path.utf8ByteSize > longestPath then .error nameTooLong
  else match folder.entries.lookup parts with
  | some (.ok contents) => if endsInDirectory path then .error notADirectory else .ok contents
  | some (.error fault) => .error fault
  | none =>
    if folder.entries.any fun (file, _) ↦ file.isPrefixOf parts then .error notADirectory
    else match parts.find? fun part ↦ part != ".." && part != "/" with
    | none => .error isADirectory
    | some name => .error (if name.utf8ByteSize > longestName then nameTooLong else noSuchFile)

def put (folder : Folder) (path : String) (entry : Except IoFault Bytes) : Folder :=
  let parts := parts path
  ⟨(parts, entry) :: folder.entries.filter (·.1 != parts)⟩

def ofFiles (files : List (String × Bytes)) : Folder :=
  files.foldl (fun folder (path, contents) ↦ folder.put path (.ok contents)) {}

end Folder

end FramedLink.Tool
