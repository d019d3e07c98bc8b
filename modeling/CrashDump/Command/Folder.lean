import CrashDump.Bytes.Image
import CrashDump.Text.Path
import CrashDump.Text.Quoted

/-! # Folders

The files that a command line can name: those of the folder it is run in. The folders
above are there too, with nothing else known in them. A path is walked part by part, and
the first part that cannot be taken decides the fault.
-/
namespace CrashDump

/-- Why a path leads to no file. -/
inductive FileFault where
  | missing
  | notDirectory
  | isDirectory
  | nameTooLong
deriving DecidableEq, Repr

namespace FileFault

def code : FileFault → Nat
  | missing => 2
  | notDirectory => 20
  | isDirectory => 21
  | nameTooLong => 36

def reason : FileFault → String
  | missing => "No such file or directory"
  | notDirectory => "Not a directory"
  | isDirectory => "Is a directory"
  | nameTooLong => "File name too long"

def message (path : String) (f : FileFault) : String :=
  s!"[Errno {f.code}] {f.reason}: {Quoted.text path}"

end FileFault

/-- Lengths are counted in bytes; a path is shorter than its limit. -/
def maxNameBytes : Nat := 255

def pathByteLimit : Nat := 4096

structure Folder where
  files : List (String × Image)
  /-- The length of the folder's own path. -/
  pathBytes : Nat

namespace Folder

/-- Where a path has led so far. -/
inductive Spot where
  | here
  | above
  | file (d : Image)

def step (w : Folder) (spot : Spot) (part : List Char) : Except FileFault Spot :=
  let name := String.ofList part
  match spot with
  | .file _ => .error .notDirectory
  | .here =>
    if part = ['.', '.'] then .ok .above
    else if maxNameBytes < name.utf8ByteSize then .error .nameTooLong
    else match w.files.lookup name with
      | some d => .ok (.file d)
      | none => .error .missing
  | .above =>
    if part = ['.', '.'] then .ok .above
    else if maxNameBytes < name.utf8ByteSize then .error .nameTooLong
    else .error .missing

def resolve (w : Folder) (path : String) : Except FileFault Spot :=
  if pathByteLimit ≤ path.utf8ByteSize then .error .nameTooLong
  else (pathParts path.toList).foldlM w.step
    (if pathRoot path.toList = [] then .here else .above)

def isDirectory (w : Folder) (path : String) : Bool :=
  match w.resolve path with
  | .ok .here => true
  | .ok .above => true
  | _ => false

/-- A file is opened by its path from the root, which is longer than the path given unless
that starts there. -/
def openedBytes (w : Folder) (path : String) : Nat :=
  if pathRoot path.toList = [] then w.pathBytes + 1 + path.utf8ByteSize else path.utf8ByteSize

def contents (w : Folder) (path : String) : Except FileFault Image :=
  if pathByteLimit ≤ w.openedBytes path then .error .nameTooLong
  else match w.resolve path with
    | .ok (.file d) => .ok d
    | .ok _ => .error .isDirectory
    | .error f => .error f

end Folder

end CrashDump
