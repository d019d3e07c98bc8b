import CrashDump.Dump.Memory

/-! # Sessions

A session holds one dump and any number of readers, each with a cursor of its own on the
same image. Queries are put to one reader and change no other.
-/
namespace CrashDump

inductive Query where
  | seek (offset : Int)
  | close
  | memory (address size : Int)
  | pointer (address : Int)
  | text (address maxLength : Int)
  | segmentBytes (s : Segment)
  | segment (address : Int)
  | region (address : Int)
  | moduleAt (address : Int)
  | moduleNamed (part : String)
  | allSegments
  /-- An iteration over the segments that is taken up after the first ones and left again before
  the last. -/
  | someSegments (first count : Nat)
  | architecture
  | is64Bit
  | pointerSize
deriving DecidableEq, Repr

inductive Answer where
  | done
  | bytes (b : Image)
  | pointer (p : Option Nat)
  | text (s : String)
  | segment (s : Option Segment)
  | region (r : Option Region)
  | module (m : Option Module)
  | chunks (cs : List (Segment × Image)) (fault : Option Fault)
  | architecture (name : String) (code : Nat)
  | flag (b : Bool)
  | size (n : Nat)

namespace Query

/-- The chunks that were read before a fault are kept. -/
def iterate (m : Dump) (ss : List Segment) : Access Answer := fun c =>
  let (chunks, fault, c') := m.readSegments ss c
  .ok (.chunks chunks fault) c'

def run (m : Dump) : Query → Access Answer
  | seek offset => do Cursor.seek offset; return .done
  | close => do Cursor.close; return .done
  | memory address size => return .bytes (← m.readMemory address size)
  | pointer address => return .pointer (← m.readPointer address)
  | text address maxLength => return .text (← m.readText address maxLength)
  | segmentBytes s => return .bytes (← m.readSegment s)
  | segment address => return .segment (m.findSegment address)
  | region address => return .region (m.findRegion address)
  | moduleAt address => return .module (m.findModuleAt address)
  | moduleNamed part => return .module (m.findModuleNamed part)
  | allSegments => iterate m m.segments
  | someSegments first count => iterate m ((m.segments.drop first).take count)
  | architecture => return .architecture m.architecture.1 m.architecture.2
  | is64Bit => return .flag m.is64Bit
  | pointerSize => return .size m.pointerSize

end Query

structure Session where
  image : Image
  source : Source
  dump : Dump
  readers : List Cursor

structure Reply where
  outcome : Except Fault Answer
  place : Option Nat

namespace Query

def ask (m : Dump) (q : Query) (c : Cursor) : Reply × Cursor :=
  match q.run m c with
  | .ok a c' => (⟨.ok a, c'.place⟩, c')
  | .error f c' => (⟨.error f, c'.place⟩, c')

def askAll (m : Dump) : List Query → Cursor → List Reply × Cursor
  | [], c => ([], c)
  | q :: qs, c =>
    let (reply, c') := q.ask m c
    let (replies, c'') := askAll m qs c'
    (reply :: replies, c'')

end Query

namespace Session

def start (d : Image) (s : Source) (m : Dump) : Session := ⟨d, s, m, [Cursor.start d s]⟩

/-- The new reader takes the next free number. -/
def openReader (s : Session) : Nat × Session :=
  (s.readers.length, { s with readers := s.readers ++ [Cursor.start s.image s.source] })

def ask (s : Session) (reader : Nat) (q : Query) : Option Reply × Session :=
  match s.readers[reader]? with
  | none => (none, s)
  | some c =>
    let (reply, c') := q.ask s.dump c
    (some reply, { s with readers := s.readers.set reader c' })

end Session

end CrashDump
