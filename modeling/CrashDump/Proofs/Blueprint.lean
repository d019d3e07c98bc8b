import CrashDump.Proofs.PackedRecords
import CrashDump.Proofs.WrittenNames

/-! # Blueprints of dumps

A blueprint lists what a dump is to hold. Its parts are laid out one after another, each as the
names and data it points at and then the list or record itself. The directory stands after them
or in slots set aside behind the header.
-/
namespace CrashDump

/-! ## Consecutive items -/

section Places
variable {ι : Type} {bytes : Nat → ι → List UInt8}

/-- Items that follow one another from an offset on, each with the offset it stands at. -/
def placesFrom (bytes : Nat → ι → List UInt8) (off : Nat) : List ι → List (Nat × ι)
  | [] => []
  | x :: xs => (off, x) :: placesFrom bytes (off + (bytes off x).length) xs

def bytesFrom (bytes : Nat → ι → List UInt8) (off : Nat) (xs : List ι) : List UInt8 :=
  (placesFrom bytes off xs).flatMap fun y => bytes y.1 y.2

theorem map_snd_placesFrom (bytes : Nat → ι → List UInt8) (off : Nat) (xs : List ι) :
    (placesFrom bytes off xs).map (·.2) = xs := by
  induction xs generalizing off with
  | nil => rfl
  | cons x xs ih => rw [placesFrom, List.map_cons, ih]

@[simp] theorem length_placesFrom (off : Nat) (xs : List ι) :
    (placesFrom bytes off xs).length = xs.length := by
  rw [← List.length_map (·.2), map_snd_placesFrom]

theorem le_of_mem_placesFrom {off : Nat} {xs : List ι} {y : Nat × ι}
    (hy : y ∈ placesFrom bytes off xs) : off ≤ y.1 := by
  induction xs generalizing off with
  | nil => nomatch hy
  | cons x xs ih =>
    rcases List.mem_cons.mp hy with rfl | hy
    · exact Nat.le_refl _
    · exact Nat.le_trans (Nat.le_add_right _ _) (ih hy)

theorem mem_of_mem_placesFrom {off : Nat} {xs : List ι} {y : Nat × ι}
    (hy : y ∈ placesFrom bytes off xs) : y.2 ∈ xs := by
  rw [← map_snd_placesFrom bytes off xs]
  exact List.mem_map_of_mem hy

/-- Each item is held at its place, whatever follows it. -/
theorem holds_of_mem_placesFrom {d : Image} {off : Nat} {xs : List ι} {y : Nat × ι}
    (h : d.Holds off (bytesFrom bytes off xs)) (hy : y ∈ placesFrom bytes off xs) :
    d.Holds y.1 (bytes y.1 y.2) := by
  induction xs generalizing off with
  | nil => nomatch hy
  | cons x xs ih =>
    rw [bytesFrom, placesFrom, List.flatMap_cons] at h
    rcases List.mem_cons.mp hy with rfl | hy
    · exact h.left
    · exact ih h.right hy

theorem bytesFrom_const (f : ι → List UInt8) (off : Nat) (xs : List ι) :
    bytesFrom (fun _ => f) off xs = xs.flatMap f := by
  rw [bytesFrom, ← List.flatMap_map, map_snd_placesFrom]

end Places

/-! ## What records point at -/

def optionalName : Option String → List UInt8
  | none => []
  | some s => writeName s

/-- The offset to record for a name that stands at `off`. -/
def nameRva (off : Nat) : Option String → UInt32
  | none => 0
  | some _ => .ofNat off

namespace Module

def nameBytes (m : Module) : List UInt8 := optionalName m.name

/-- The module as it is read back, its name having been written at `off`. -/
def writtenAt (off : Nat) (m : Module) : Module :=
  ⟨{ m.record with nameRva := nameRva off m.name }, m.name.bind keptName⟩

end Module

namespace Handle

def nameBytes (h : Handle) : List UInt8 := optionalName h.typeName ++ optionalName h.objectName

def writtenAt (off : Nat) (h : Handle) : Handle where
  record := { h.record with
    typeNameRva := nameRva off h.typeName
    objectNameRva := nameRva (off + (optionalName h.typeName).length) h.objectName }
  typeName := h.typeName.bind keptName
  objectName := h.objectName.bind keptName

end Handle

namespace SystemInfo

def writtenAt (off : Nat) (s : SystemInfo) : SystemInfo :=
  ⟨{ s.record with servicePackRva := nameRva off s.servicePack }, s.servicePack.bind keptName⟩

end SystemInfo

/-- A range of captured memory with its bytes. -/
structure Capture where
  start : UInt64
  data : List UInt8
deriving DecidableEq, Repr

namespace Capture

def range64 (c : Capture) : MemoryRange64 := ⟨c.start, .ofNat c.data.length⟩

def rangeAt (off : Nat) (c : Capture) : MemoryRange :=
  ⟨c.start, ⟨.ofNat c.data.length, .ofNat off⟩⟩

def segmentAt (off : Nat) (c : Capture) : Segment := ⟨c.start.toNat, c.data.length, off⟩

/-- The segments of captures stored one after another, none for an empty one. -/
def segmentsFrom (off : Nat) (cs : List Capture) : List Segment :=
  ((placesFrom (fun _ => data) off cs).filter fun y => y.2.data ≠ []).map fun y =>
    y.2.segmentAt y.1

/-- The starts and the bytes of the captures that are not empty. -/
def full (cs : List Capture) : List (Int × List UInt8) :=
  (cs.filter (·.data ≠ [])).map fun c => (c.start.toNat, c.data)

end Capture

/-- The start of a segment and the bytes of the image in its place. -/
def Segment.bytesIn (d : Image) (s : Segment) : Int × List UInt8 :=
  (s.start, (d.slice s.file.toNat s.size.toNat).bytes)

namespace ExceptionInfo

/-- The unused parameters are written as zeros. -/
def withParameters (e : ExceptionInfo) (ps : List UInt64) : ExceptionInfo :=
  { e with record := { e.record with
    parameterCount := .ofNat ps.length
    parameters := Vector.ofFn fun i => ps.getD i 0 } }

end ExceptionInfo

/-! ## Parts -/

/-- A stream, or bytes that no directory entry points at. The name offsets of its records are
filled in when it is laid out. -/
inductive Part where
  | blob (data : List UInt8)
  | threads (ts : List Thread)
  | modules (ms : List Module)
  | memory64 (cs : List Capture)
  | memory (cs : List Capture)
  | regions (rs : List Region)
  | systemInfo (s : SystemInfo)
  | exception (e : ExceptionInfo) (parameters : List UInt64)
  | miscInfo (m : MiscInfo)
  | handles (hs : List Handle)
  | other (tag : UInt32) (payload : List UInt8)

def writeCounted {α : Type} [Record α] [Packed α] (rs : List α) : List UInt8 :=
  bytesOfNat 4 rs.length ++ rs.flatMap Record.pack

namespace Part

/-- The names and data that are written before the stream. -/
def outOfLine : Part → List UInt8
  | blob data => data
  | modules ms => ms.flatMap Module.nameBytes
  | memory64 cs | memory cs => cs.flatMap Capture.data
  | systemInfo s => optionalName s.servicePack
  | handles hs => hs.flatMap Handle.nameBytes
  | _ => []

/-- The stream of a part whose names and data begin at `off`. -/
def payload (off : Nat) : Part → List UInt8
  | blob _ => []
  | threads ts => writeCounted ts
  | modules ms => writeCounted <| (placesFrom (fun _ => Module.nameBytes) off ms).map fun y =>
      (y.2.writtenAt y.1).record
  | memory64 cs => Record.pack (⟨.ofNat cs.length, .ofNat off⟩ : Memory64Header) ++
      (cs.map Capture.range64).flatMap Record.pack
  | memory cs => writeCounted <| (placesFrom (fun _ => Capture.data) off cs).map fun y =>
      y.2.rangeAt y.1
  | regions rs => Record.pack (⟨16, 48, .ofNat rs.length⟩ : RegionListHeader) ++
      rs.flatMap Record.pack
  | systemInfo s => Record.pack (s.writtenAt off).record
  | exception e ps => Record.pack (e.withParameters ps)
  | miscInfo m => Record.pack m
  | handles hs => Record.pack (⟨16, 32, .ofNat hs.length, 0⟩ : HandleListHeader) ++
      ((placesFrom (fun _ => Handle.nameBytes) off hs).map fun y =>
        (y.2.writtenAt y.1).record).flatMap Record.pack
  | other _ data => data

def bytes (off : Nat) (x : Part) : List UInt8 := x.outOfLine ++ x.payload off

def tag? : Part → Option UInt32
  | blob _ => none
  | threads _ => some StreamKind.threadList.tag
  | modules _ => some StreamKind.moduleList.tag
  | memory64 _ => some StreamKind.memory64List.tag
  | memory _ => some StreamKind.memoryList.tag
  | regions _ => some StreamKind.memoryInfoList.tag
  | systemInfo _ => some StreamKind.systemInfo.tag
  | exception _ _ => some StreamKind.exception.tag
  | miscInfo _ => some StreamKind.miscInfo.tag
  | handles _ => some StreamKind.handleData.tag
  | other tag _ => some tag

def listing? (off : Nat) (x : Part) : Option DirectoryEntry := x.tag?.map fun tag =>
  ⟨tag, ⟨.ofNat (x.payload off).length, .ofNat (off + x.outOfLine.length)⟩⟩

/-- What a part written at `off` is read back as. -/
def stream? (off : Nat) : Part → Option Stream
  | blob _ => none
  | threads ts => some (.threads ts)
  | modules ms => some (.modules ((placesFrom (fun _ => Module.nameBytes) off ms).map fun y =>
      y.2.writtenAt y.1))
  | memory64 cs | memory cs => some (.segments (Capture.segmentsFrom off cs))
  | regions rs => some (.regions rs)
  | systemInfo s => some (.systemInfo (s.writtenAt off))
  | exception e ps => some (.exception (e.withParameters ps))
  | miscInfo m => some (.miscInfo m)
  | handles hs => some (.handles ((placesFrom (fun _ => Handle.nameBytes) off hs).map fun y =>
      y.2.writtenAt y.1))
  | other _ _ => some .unrecognised

def captures : Part → List (Int × List UInt8)
  | memory64 cs | memory cs => Capture.full cs
  | _ => []

def parameters? : Part → Option (List UInt64)
  | exception _ ps => some ps
  | _ => none

def foreignTag? : Part → Option UInt32
  | other tag _ => some tag
  | _ => none

/-- Lists keep to the limits of reading, and a tag of its own is not one that is decoded. -/
def isWritable : Part → Bool
  | memory64 cs | memory cs => cs.length ≤ listLimit
  | regions rs => rs.length ≤ listLimit
  | exception _ ps => ps.length ≤ 15
  | other tag _ => (StreamKind.ofTag? tag).isNone
  | _ => true

end Part

/-! ## Images -/

/-- The number of directory slots set aside, if any, and the parts in order. -/
structure Blueprint where
  reserved : Nat
  parts : List Part

namespace Blueprint
variable (b : Blueprint)

def start : Nat := 32 + 12 * b.reserved

def places : List (Nat × Part) := placesFrom Part.bytes b.start b.parts

def body : List UInt8 := bytesFrom Part.bytes b.start b.parts

def directory : List DirectoryEntry := b.places.filterMap fun y => y.2.listing? y.1

def directoryRva : Nat := if b.reserved = 0 then b.start + b.body.length else 32

def header : Header where
  signature := Header.magic
  version := 0xA793
  implementationVersion := 0
  streamCount := .ofNat b.directory.length
  directoryRva := .ofNat b.directoryRva
  checkSum := 0
  timeDateStamp := 1700000000
  flags := 2

def slots : List UInt8 :=
  if b.reserved = 0 then []
  else b.directory.flatMap Record.pack ++
    List.replicate (12 * (b.reserved - b.directory.length)) 0

def trailer : List UInt8 := if b.reserved = 0 then b.directory.flatMap Record.pack else []

def bytes : List UInt8 := Record.pack b.header ++ (b.slots ++ (b.body ++ b.trailer))

def image : Image := ⟨b.bytes.toArray⟩

/-- The dump that the blueprint describes. -/
def dump : Dump where
  toContents := .ofStreams (b.places.filterMap fun y => y.2.stream? y.1)
  header := b.header
  directory := b.directory

structure Writable : Prop where
  streams : b.directory ≠ []
  slots : b.reserved = 0 ∨ b.directory.length ≤ b.reserved
  size : b.bytes.length < 2 ^ 32
  parts : ∀ x ∈ b.parts, x.isWritable

end Blueprint

end CrashDump
