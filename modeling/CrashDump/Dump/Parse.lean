import CrashDump.Cursor.Basic
import CrashDump.Dump.Basic
import CrashDump.Dump.Rejection

/-! # Parsing a dump

One cursor passes over the header, the directory and then, in directory order, every stream
that is decoded, with excursions to the names on the way. What it comes by is collected and
frozen into a dump at the end. Thread and module lists must be complete; the other lists end
where the image ends, with a notice.
-/
namespace CrashDump

/-- An access that fails other than by a short read is no verdict on the image. -/
inductive ParseFailure where
  | rejected (r : Rejection)
  | fault (f : Fault)
deriving DecidableEq, Repr

namespace ParseFailure

def ofFault : Fault → ParseFailure
  | .short read => .rejected (.short read)
  | f => .fault f

end ParseFailure

structure Collected where
  directory : Array DirectoryEntry := #[]
  threads : Array Thread := #[]
  modules : Array Module := #[]
  segments : Array Segment := #[]
  regions : Array Region := #[]
  handles : Array Handle := #[]
  systemInfo : Option SystemInfo := none
  exception : Option ExceptionInfo := none
  miscInfo : Option MiscInfo := none

namespace Collected

def contents (c : Collected) : Contents where
  threads := c.threads.toList
  modules := c.modules.toList
  segments := c.segments.toList
  regions := c.regions.toList
  handles := c.handles.toList
  systemInfo := c.systemInfo
  exception := c.exception
  miscInfo := c.miscInfo

def addEntry (e : DirectoryEntry) (c : Collected) : Collected :=
  { c with directory := c.directory.push e }

def addThread (t : Thread) (c : Collected) : Collected := { c with threads := c.threads.push t }

def addModule (m : Module) (c : Collected) : Collected := { c with modules := c.modules.push m }

def addSegments (ss : List Segment) (c : Collected) : Collected :=
  { c with segments := c.segments.appendList ss }

def addRegion (r : Region) (c : Collected) : Collected := { c with regions := c.regions.push r }

def addHandle (h : Handle) (c : Collected) : Collected := { c with handles := c.handles.push h }

def setSystemInfo (x : SystemInfo) (c : Collected) : Collected := { c with systemInfo := some x }

def setException (x : ExceptionInfo) (c : Collected) : Collected := { c with exception := some x }

def setMiscInfo (x : MiscInfo) (c : Collected) : Collected := { c with miscInfo := some x }

end Collected

structure ParseState where
  cursor : Cursor
  notices : Array Notice := #[]
  collected : Collected := {}

/-- A parse that fails keeps what it gave notice of. -/
abbrev Parse := EStateM ParseFailure ParseState

namespace Parse
variable {α : Type}

def access (a : Access α) : Parse α := fun s => match a s.cursor with
  | .ok x c => .ok x { s with cursor := c }
  | .error f c => .error (.ofFault f) { s with cursor := c }

def record (α : Type) [Record α] : Parse α := access (Cursor.readRecord α)

/-- A short read counts as finding no record. -/
def record? (α : Type) [Record α] : Parse (Option α) := fun s => match record α s with
  | .ok r s' => .ok (some r) s'
  | .error (.rejected (.short _)) s' => .ok none s'
  | .error f s' => .error f s'

def note (n : Notice) : Parse Unit := modify fun s => { s with notices := s.notices.push n }

def collect (f : Collected → Collected) : Parse Unit :=
  modify fun s => { s with collected := f s.collected }

/-- Keeps `count` records, all of which have to be there. -/
def each (α : Type) [Record α] (keep : α → Parse Unit) : (count : Nat) → Parse Unit
  | 0 => pure ()
  | count + 1 => do
    keep (← record α)
    each α keep count

/-- Keeps up to `count` records. The notice that the image ends first tells how many there were. -/
def eachUpTo (α : Type) [Record α] (cut : Nat → Notice) (keep : α → Parse Unit) (kept : Nat) :
    (count : Nat) → Parse Unit
  | 0 => pure ()
  | count + 1 => do
    match ← record? α with
    | none => note (cut kept)
    | some r =>
      keep r
      eachUpTo α cut keep (kept + 1) count

/-- Ranges are gathered first, since the place of each depends on those before it. -/
def ranges64 (taken : Array MemoryRange64) : (count : Nat) → Parse (Array MemoryRange64)
  | 0 => return taken
  | count + 1 => do
    match ← record? MemoryRange64 with
    | none =>
      note (.memory64Cut taken.size)
      return taken
    | some r => ranges64 (taken.push r) count

def keepModule (r : ModuleRecord) : Parse Unit := do
  let name ← access (Cursor.readName r.nameRva.toNat)
  collect (Collected.addModule ⟨r, name⟩)

def keepHandle (r : HandleRecord) : Parse Unit := do
  let typeName ← access (Cursor.readName r.typeNameRva.toNat)
  let objectName ← access (Cursor.readName r.objectNameRva.toNat)
  collect (Collected.addHandle ⟨r, typeName, objectName⟩)

/-- An empty range holds no memory. -/
def keepRange (r : MemoryRange) : Parse Unit :=
  if r.memory.dataSize = 0 then pure ()
  else collect (Collected.addSegments
    [⟨r.start.toNat, r.memory.dataSize.toNat, r.memory.rva.toNat⟩])

def threads : Parse Unit := do
  let count ← record UInt32
  each Thread (fun t => collect (Collected.addThread t)) count.toNat

def modules : Parse Unit := do
  let count ← record UInt32
  each ModuleRecord keepModule count.toNat

/-- Each range is stored where the ranges before it end. -/
def stored (baseRva : Nat) (ranges : List MemoryRange64) : List Segment :=
  let full := ranges.filter (·.dataSize ≠ 0)
  let places := (full.map (·.dataSize.toNat)).scanl (· + ·) baseRva
  full.zipWith (fun r (place : Nat) => ⟨r.start.toNat, r.dataSize.toNat, place⟩) places

def noteCap (declared : Nat) : Parse Unit :=
  if listLimit < declared then note (.memory64Capped declared) else pure ()

def memory64 : Parse Unit := do
  let header ← record Memory64Header
  noteCap header.rangeCount.toNat
  let ranges ← ranges64 #[] (min header.rangeCount.toNat listLimit)
  collect (Collected.addSegments (stored header.baseRva.toNat ranges.toList))

def memory : Parse Unit := do
  let count ← record UInt32
  eachUpTo MemoryRange .memoryCut keepRange 0 (min count.toNat listLimit)

def regions : Parse Unit := do
  let header ← record RegionListHeader
  if header.entrySize.toNat ≠ Record.size Region then
    throw (.rejected (.foreignEntrySize header.entrySize))
  else
    eachUpTo Region .regionsCut (fun r => collect (Collected.addRegion r)) 0
      (min header.entryCount.toNat listLimit)

def handles : Parse Unit := do
  let header ← record HandleListHeader
  eachUpTo HandleRecord .handlesCut keepHandle 0 header.descriptorCount.toNat

def systemInfo : Parse Unit := do
  let r ← record SystemRecord
  let servicePack ← access (Cursor.readName r.servicePackRva.toNat)
  collect (Collected.setSystemInfo ⟨r, servicePack⟩)

def exception : Parse Unit := do
  let e ← record ExceptionInfo
  collect (Collected.setException e)

def miscInfo : Parse Unit := do
  let m ← record MiscInfo
  collect (Collected.setMiscInfo m)

def stream : StreamKind → Parse Unit
  | .threadList => threads
  | .moduleList => modules
  | .memoryList => memory
  | .exception => exception
  | .systemInfo => systemInfo
  | .memory64List => memory64
  | .handleData => handles
  | .miscInfo => miscInfo
  | .memoryInfoList => regions

/-- A short read within a stream is put down to that stream. -/
def blaming (kind : StreamKind) (rva : UInt32) (p : Parse Unit) : Parse Unit := fun s =>
  match p s with
  | .error (.rejected (.short read)) s' => .error (.rejected (.truncated kind rva read)) s'
  | r => r

def entry (e : DirectoryEntry) : Parse Unit := match e.kind? with
  | none => pure ()
  | some kind => do
    access (Cursor.seek e.location.rva.toNat)
    blaming kind e.location.rva (stream kind)

def streams : List DirectoryEntry → Parse Unit
  | [] => pure ()
  | e :: rest => do
    entry e
    streams rest

def header : Parse Header := do
  access (Cursor.seek 0)
  let h ← record Header
  if h.signature ≠ Header.magic then throw (.rejected (.badSignature h.signature))
  else if h.streamCount = 0 then throw (.rejected .noStreams)
  else return h

def directory (h : Header) : Parse (List DirectoryEntry) := do
  access (Cursor.seek h.directoryRva.toNat)
  each DirectoryEntry (fun e => collect (Collected.addEntry e)) h.streamCount.toNat
  return (← get).collected.directory.toList

def dump : Parse Dump := do
  let h ← header
  let entries ← directory h
  streams entries
  return ⟨(← get).collected.contents, h, entries⟩

end Parse

/-- The outcome of a parse, with the notices in order. -/
structure Parsed where
  notices : List Notice
  result : Except ParseFailure Dump

namespace Dump

def parse (source : Source) (d : Image) : Parsed :=
  match Parse.dump { cursor := Cursor.start d source } with
  | .ok m s => ⟨s.notices.toList, .ok m⟩
  | .error f s => ⟨s.notices.toList, .error f⟩

end Dump

end CrashDump
