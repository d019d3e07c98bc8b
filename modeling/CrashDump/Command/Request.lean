import CrashDump.Command.Arguments
import CrashDump.Dump.Memory
import CrashDump.Report.Table
import CrashDump.Text.IntegerLiteral
import CrashDump.Text.Path

/-! # Requests

A command line names a command and gives its options. The last value of an option counts;
values are converted in the order in which their options first appear, and only then is
anything missing or left over complained about.
-/
namespace CrashDump

inductive Verb where
  | part (s : Section)
  | all
  | read
  | pointer
  | string
  | module
deriving DecidableEq, Repr

namespace Verb

def table : List (String × Verb) := [
  ("header", .part .header),
  ("streams", .part .streams),
  ("threads", .part .threads),
  ("modules", .part .modules),
  ("segments", .part .segments),
  ("regions", .part .regions),
  ("sysinfo", .part .systemInfo),
  ("exception", .part .exception),
  ("handles", .part .handles),
  ("misc", .part .miscInfo),
  ("all", .all),
  ("read", .read),
  ("pointer", .pointer),
  ("string", .string),
  ("module", .module)]

def ofName? (s : String) : Option Verb := table.lookup s

def options : Verb → List OptionName
  | part _ => [.file]
  | all => [.file]
  | read => [.file, .address, .size]
  | pointer => [.file, .address]
  | string => [.file, .address, .maxLength]
  | module => [.file, .address, .name]

end Verb

/-- Converted options. -/
structure Settings where
  file : Option String := none
  address : Option Int := none
  size : Option Int := none
  maxLength : Option Int := none
  name : Option String := none
deriving DecidableEq, Repr

namespace Settings

def integer (text : String) : Except Usage Int :=
  match IntegerLiteral.parse? text with
  | some n => .ok n
  | none => .error (.notInteger text)

/-- No path holds a NUL, and a directory cannot be given as the file. -/
def set (isDirectory : String → Bool) (s : Settings) (text : String) :
    OptionName → Except Usage Settings
  | .file =>
    let path := tidyPath text
    if Char.ofNat 0 ∈ path.toList ∨ isDirectory path then .error .malformed
    else .ok { s with file := some path }
  | .address => (fun n => { s with address := some n }) <$> integer text
  | .size => (fun n => { s with size := some n }) <$> integer text
  | .maxLength => (fun n => { s with maxLength := some n }) <$> integer text
  | .name => .ok { s with name := some text }

def ofArguments (isDirectory : String → Bool) (a : Arguments) : Except Usage Settings :=
  a.order.foldlM (fun s f => s.set isDirectory ((a.last? f).getD "") f) {}

end Settings

inductive Action where
  | part (s : Section)
  | all
  | read (address size : Int)
  | pointer (address : Int)
  | string (address maxLength : Int)
  | moduleAt (address : Int)
  | moduleNamed (part : String)
deriving DecidableEq, Repr

/-- The value of an option that cannot be left out. -/
def Settings.required {α : Type} : Option α → Except Usage α
  | some a => .ok a
  | none => .error .malformed

namespace Action

def defaultReadSize : Int := 0x100

/-- A module is looked up by one thing, its address or its name. -/
def ofSettings (s : Settings) : Verb → Except Usage Action
  | .part p => .ok (.part p)
  | .all => .ok .all
  | .read => do return .read (← Settings.required s.address) (s.size.getD defaultReadSize)
  | .pointer => do return .pointer (← Settings.required s.address)
  | .string => do
    return .string (← Settings.required s.address) (s.maxLength.getD Dump.defaultTextLength)
  | .module => match s.address, s.name with
    | some a, none => .ok (.moduleAt a)
    | none, some n => .ok (.moduleNamed n)
    | _, _ => .error .notExactlyOne

end Action

structure Request where
  file : String
  action : Action
deriving DecidableEq, Repr

namespace Request

def ofArguments (isDirectory : String → Bool) (v : Verb) (args : List String) :
    Except Usage Request := do
  let a ← Arguments.scan v.options args
  if a.help then throw .help
  let s ← Settings.ofArguments isDirectory a
  let file ← Settings.required s.file
  if a.extra then throw .malformed
  return ⟨file, ← Action.ofSettings s v⟩

/-- What stands before the command: whether help is called for, and what follows. Any
other option is out of place there. -/
def leading : List String → Option (Bool × List String)
  | [] => some (false, [])
  | arg :: rest =>
    if arg = "--help" then (leading rest).map fun r => (true, r.2)
    else if arg = "--" then some (false, rest)
    else if Arguments.isDashed arg.toList then none
    else some (false, arg :: rest)

/-- What is no command is looked at once more as an option. -/
def unknown (args : List String) : Usage :=
  match leading args with
  | some (true, _) => .help
  | _ => .malformed

def ofCommandLine (isDirectory : String → Bool) (args : List String) : Except Usage Request :=
  match leading args with
  | none => .error .malformed
  | some (true, _) => .error .help
  | some (false, []) => .error .malformed
  | some (false, name :: rest) => match Verb.ofName? name with
    | some v => ofArguments isDirectory v rest
    | none => .error (unknown (name :: rest))

end Request

end CrashDump
