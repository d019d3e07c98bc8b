import CrashDump.Cursor.Basic
import CrashDump.Dump.Basic

/-! # The captured address space

Lookups go by the stored order, so that of overlapping candidates the first one answers. A
read resolves its whole span in the first segment that holds its address and leaves the
cursor where it was.
-/
namespace CrashDump.Dump

def findSegment (m : Dump) (address : Int) : Option Segment :=
  m.segments.find? (·.contains address)

def findRegion (m : Dump) (address : Int) : Option Region :=
  m.regions.find? (·.contains address)

def findModuleAt (m : Dump) (address : Int) : Option Module :=
  m.modules.find? fun x =>
    (x.record.base.toNat : Int) ≤ address && address < x.record.endAddress

def isPart (part : List Char) : List Char → Bool
  | [] => part.isEmpty
  | c :: cs => part.isPrefixOf (c :: cs) || isPart part cs

/-- The first module whose name contains a text; a module without a name has none. -/
def findModuleNamed (m : Dump) (part : String) : Option Module :=
  m.modules.find? fun x => x.name.any fun name => isPart part.toList name.toList

/-- The unlisted and the absent architecture are the one called unknown. -/
def architecture (m : Dump) : String × Nat :=
  (m.systemInfo.bind fun s => Codes.architectures.find? s.record.architecture.toNat).getD
    ("UNKNOWN", 0xFFFF)

def is64Bit (m : Dump) : Bool := wideArchitectures.contains m.architecture.2

def pointerSize (m : Dump) : Nat := if m.is64Bit then 8 else 4

/-- A segment whose bytes the image lacks is as unreadable as an address outside. -/
def readMemory (m : Dump) (address size : Int) : Access Image :=
  if size < 0 then throw (.negativeCount size)
  else match m.findSegment address with
    | none => throw (.unmapped address size)
    | some s =>
      if s.containsRange address size then
        Cursor.saved do
          Cursor.seek (s.fileOffset address)
          fun c => match Cursor.readExact size c with
            | .error (.short _) c' => .error (.unmapped address size) c'
            | r => r
      else throw (.unmapped address size)

/-- Absent where no segment holds all of the pointer. -/
def readPointer (m : Dump) (address : Int) : Access (Option Nat) := fun c =>
  match m.readMemory address m.pointerSize c with
  | .ok b c' => .ok (some (natOfBytes b.bytes)) c'
  | .error (.unmapped _ _) c' => .ok none c'
  | .error (.short _) c' => .ok none c'
  | .error f c' => .error f c'

def textOf (bytes : List UInt8) : String :=
  String.ofList ((bytes.takeWhile (· ≠ 0)).map fun b => Char.ofNat b.toNat)

/-- Empty where the bytes cannot be read, unless the fault is fatal. -/
def readText (m : Dump) (address maxLength : Int) : Access String := fun c =>
  match m.readMemory address maxLength c with
  | .ok b c' => .ok (textOf b.bytes) c'
  | .error f c' => if f.isFatal c'.source then .error f c' else .ok "" c'

def defaultTextLength : Int := 1024

def readSegment (m : Dump) (s : Segment) : Access Image := m.readMemory s.start s.size

def readSegments (m : Dump) : List Segment → Cursor → List (Segment × Image) × Option Fault × Cursor
  | [], c => ([], none, c)
  | s :: rest, c => match m.readSegment s c with
    | .error f c' => ([], some f, c')
    | .ok b c' =>
      let (chunks, fault, c'') := m.readSegments rest c'
      ((s, b) :: chunks, fault, c'')

end CrashDump.Dump
