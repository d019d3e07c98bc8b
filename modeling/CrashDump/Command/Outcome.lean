import CrashDump.Command.Folder
import CrashDump.Command.Request
import CrashDump.Dump.Memory
import CrashDump.Dump.Parse
import CrashDump.Report.Console
import CrashDump.Text.HexDump

/-! # Outcomes

What running a command line prints and logs, and how it ends. Output comes from a dump that
parses; exit code 1 tells that the command failed, 2 that it was not run. A command prints last of
all, so what it prints is settled before the console sees any of it.
-/
namespace CrashDump

inductive Level where
  | info
  | warning
  | error
deriving DecidableEq, Repr

structure LogLine where
  level : Level
  text : String
deriving DecidableEq, Repr

namespace LogLine

def ofNotice (n : Notice) : LogLine := ⟨.warning, n.message⟩

end LogLine

/-- What a command line is run on. -/
structure Host where
  room : Room
  console : Console

/-- No text is markup here. -/
def Host.usual : Host := ⟨.usual, .verbatim⟩

/-- A fault for which a command has no answer ends it without an exit code of its own. So does
markup that the console finds fault with. -/
inductive Ending where
  | exit (code : Nat)
  | fault (f : Fault)
  | unshown
deriving DecidableEq, Repr

structure Outcome where
  /-- What the console is given, or shows once it was given it. -/
  printed : List Printed := []
  ending : Ending := .exit 0
  usage : Option String := none
  log : List LogLine := []
deriving DecidableEq, Repr

namespace Outcome

def print (p : Printed) : Outcome := { printed := [p] }

def info (text : String) : Outcome := { log := [⟨.info, text⟩] }

def fail (text : String) : Outcome := { ending := .exit 1, log := [⟨.error, text⟩] }

def breakOff (f : Fault) : Outcome := { ending := .fault f }

def ofUsage (u : Usage) : Outcome :=
  { ending := .exit (if u = .help then 0 else 2), usage := u.message? }

/-- Puts earlier log lines first. -/
def after (earlier : List LogLine) (o : Outcome) : Outcome := { o with log := earlier ++ o.log }

def absent : Section → String
  | .systemInfo => "No system info stream"
  | .exception => "No exception stream"
  | .miscInfo => "No misc info stream"
  | _ => ""

def ofSection (m : Dump) (s : Section) : Outcome :=
  match s.table? m with
  | some t => print (.table t)
  | none => info (absent s)

def ofModule : Option Module → Outcome
  | none => fail "No matching module"
  | some x => print (.text (x.name.getD "" ++ " " ++ Hex.wide x.record.base.toNat 8 ++ "-" ++
      Hex.wide x.record.endAddress 8))

/-- A width that no field has is not asked for. -/
def ofHexDump : Except WidthFault String → Outcome
  | .ok t => print (.text t)
  | .error _ => breakOff .noRoom

def ofRead (room : Room) (d : Image) (m : Dump) (address size : Int) : Outcome :=
  match m.readMemory address size (Cursor.start d (.file room)) with
  | .ok b _ => ofHexDump (HexDump.dump room b.bytes address HexDump.defaultWidth)
  | .error f c => if f.isFatal c.source then breakOff f else fail f.message

def ofPointer (room : Room) (d : Image) (m : Dump) (address : Int) : Outcome :=
  match m.readPointer address (Cursor.start d (.file room)) with
  | .ok (some v) _ => print (.text (Hex.wide v (2 * m.pointerSize)))
  | .ok none _ => fail s!"Could not read a pointer at {Hex.text address}"
  | .error f _ => breakOff f

def ofText (room : Room) (d : Image) (m : Dump) (address maxLength : Int) : Outcome :=
  match m.readText address maxLength (Cursor.start d (.file room)) with
  | .ok s _ => print (.text s)
  | .error f _ => breakOff f

def ofAction (room : Room) (d : Image) (m : Dump) : Action → Outcome
  | .part s => ofSection m s
  | .all => { printed := (Section.all.filterMap (·.table? m)).map .table }
  | .read address size => ofRead room d m address size
  | .pointer address => ofPointer room d m address
  | .string address maxLength => ofText room d m address maxLength
  | .moduleAt address => ofModule (m.findModuleAt address)
  | .moduleNamed part => ofModule (m.findModuleNamed part)

/-- The answer to a request, given what its file holds. -/
def ofRequest (room : Room) (r : Request) (contents : Except FileFault Image) : Outcome :=
  let refuse (reason : String) : Outcome := fail s!"Failed to parse {r.file}: {reason}"
  match contents with
  | .error f => refuse (f.message r.file)
  | .ok d =>
    let parsed := Dump.parse (.file room) d
    after (parsed.notices.map LogLine.ofNotice) (match parsed.result with
      | .error (.rejected reason) => refuse reason.message
      | .error (.fault f) => breakOff f
      | .ok m => ofAction room d m r.action)

/-- An outcome once a console has been given what is to be printed. -/
def shownOn (k : Console) (o : Outcome) : Outcome :=
  let (shown, whole) := k.showAll o.printed
  { o with printed := shown, ending := if whole then o.ending else .unshown }

/-- The outcome of a command line, given the files. -/
def ofCommandLine (h : Host) (isDirectory : String → Bool)
    (contents : String → Except FileFault Image) (args : List String) : Outcome :=
  match Request.ofCommandLine isDirectory args with
  | .error u => ofUsage u
  | .ok r => (ofRequest h.room r (contents r.file)).shownOn h.console

/-- The outcome of a command line run in a folder. -/
def inFolder (h : Host) (w : Folder) (args : List String) : Outcome :=
  ofCommandLine h w.isDirectory w.contents args

end Outcome

end CrashDump
