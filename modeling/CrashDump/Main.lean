import CrashDump.Command.Outcome

/-! # Command line

Reads the file that the arguments name, prints the outcome as plain text and logs to the
error stream.
-/
namespace CrashDump

namespace Table

/-- Columns are padded to their widest cell. -/
def plain (t : Table) : String :=
  let rows := t.columns :: t.rows
  let width (i : Nat) : Nat := (rows.map fun r => (r.getD i "").length).foldl max 0
  let row (r : List String) : String := "  ".intercalate
    (r.mapIdx fun i cell => String.ofList (HexDump.padRight (width i) cell.toList))
  "\n".intercalate (t.title :: rows.map row)

end Table

def Printed.plain : Printed → String
  | .text s => s
  | .table t => t.plain

def LogLine.plain (l : LogLine) : String :=
  (match l.level with
    | .info => "INFO: "
    | .warning => "WARNING: "
    | .error => "ERROR: ") ++ l.text

/-- Directories and parts of a path that are no directory share one class of error. -/
def FileFault.ofError : IO.Error → FileFault
  | .inappropriateType _ code _ => if code = 21 then isDirectory else notDirectory
  | .invalidArgument _ code _ => if code = 36 then nameTooLong else missing
  | _ => missing

def readFile (path : String) : IO (Except FileFault Image) := do
  try
    return .ok (← IO.FS.readBinFile ((← IO.currentDir) / path))
  catch e =>
    return .error (FileFault.ofError e)

def isDirectory (path : String) : IO Bool := do
  try
    let handle ← IO.FS.Handle.mk path .read
    discard (handle.read 1)
    return false
  catch e =>
    return FileFault.ofError e == .isDirectory

/-- The paths that an argument may give. -/
def pathsIn (arg : String) : List String :=
  let cs := arg.toList
  [arg, String.ofList (cs.drop 2), String.ofList ((cs.dropWhile (· ≠ '=')).drop 1)].map tidyPath

def run (args : List String) : IO Outcome := do
  let directories ← (args.flatMap pathsIn).filterM isDirectory
  match Request.ofCommandLine directories.contains args with
  | .error u => return Outcome.ofUsage u
  | .ok r => 
    let outcome := Outcome.ofRequest Host.usual.room r (← readFile r.file)
    return outcome.shownOn Host.usual.console

end CrashDump

def main (args : List String) : IO UInt32 := do
  let outcome ← CrashDump.run args
  for p in outcome.printed do
    IO.println p.plain
  for l in outcome.log do
    IO.eprintln l.plain
  match outcome.ending with
  | .fault f =>
    IO.eprintln f.message
    return 1
  | .unshown => return 1
  | .exit code =>
    if code = 2 then
      IO.eprintln (outcome.usage.getD "usage: COMMAND --file FILE [options]")
    return code.toUInt32
