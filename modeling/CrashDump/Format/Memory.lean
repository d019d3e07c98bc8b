import CrashDump.Format.Header

/-! # Captured memory and memory regions

Two list streams place captured ranges in the image: one gives each range its own
location, the other stores all ranges back to back. A third describes the regions of the
address space, captured or not.
-/
namespace CrashDump

structure MemoryRange where
  start : UInt64
  memory : Location
deriving DecidableEq, Repr

instance : Record MemoryRange where
  layout := .seq [.u64, Record.layout Location]
  ofValue := fun (a, b, ()) => ⟨a, Record.ofValue b⟩
  toValue r := (r.start, Record.toValue r.memory, ())

structure MemoryRange64 where
  start : UInt64
  dataSize : UInt64
deriving DecidableEq, Repr

instance : Record MemoryRange64 where
  layout := .seq [.u64, .u64]
  ofValue := fun (a, b, ()) => ⟨a, b⟩
  toValue r := (r.start, r.dataSize, ())

structure Memory64Header where
  rangeCount : UInt64
  baseRva : UInt64
deriving DecidableEq, Repr

instance : Record Memory64Header where
  layout := .seq [.u64, .u64]
  ofValue := fun (a, b, ()) => ⟨a, b⟩
  toValue r := (r.rangeCount, r.baseRva, ())

structure Region where
  base : UInt64
  allocationBase : UInt64
  allocationProtect : UInt32
  size : UInt64
  state : UInt32
  protect : UInt32
  type : UInt32
deriving DecidableEq, Repr

namespace Region

instance : Record Region where
  layout := .seq [.u64, .u64, .u32, .gap 4, .u64, .u32, .u32, .u32, .gap 4]
  ofValue := fun (a, b, c, _, d, e, f, g, _, ()) => ⟨a, b, c, d, e, f, g⟩
  toValue r := (r.base, r.allocationBase, r.allocationProtect, (), r.size, r.state, r.protect,
    r.type, (), ())

def contains (r : Region) (address : Int) : Bool :=
  (r.base.toNat : Int) ≤ address && address < r.base.toNat + r.size.toNat

end Region

structure RegionListHeader where
  headerSize : UInt32
  entrySize : UInt32
  entryCount : UInt64
deriving DecidableEq, Repr

instance : Record RegionListHeader where
  layout := .seq [.u32, .u32, .u64]
  ofValue := fun (a, b, c, ()) => ⟨a, b, c⟩
  toValue r := (r.headerSize, r.entrySize, r.entryCount, ())

/-- A contiguous range of captured process memory and its place in the image. -/
structure Segment where
  start : Int
  size : Int
  file : Int
deriving DecidableEq, Repr

namespace Segment

def endAddress (s : Segment) : Int := s.start + s.size

def contains (s : Segment) (address : Int) : Bool :=
  s.start ≤ address && address < s.endAddress

def containsRange (s : Segment) (address size : Int) : Bool :=
  s.contains address && address + size ≤ s.endAddress

def fileOffset (s : Segment) (address : Int) : Int := s.file + (address - s.start)

/-- Ranges stored back to back from `rva`; empty ones hold no memory. -/
def packed (rva : Nat) : List MemoryRange64 → List Segment
  | [] => []
  | r :: rs =>
    if r.dataSize = 0 then packed rva rs
    else ⟨r.start.toNat, r.dataSize.toNat, rva⟩ :: packed (rva + r.dataSize.toNat) rs

/-- Ranges that each have a place of their own. -/
def placed (ranges : List MemoryRange) : List Segment :=
  (ranges.filter fun r => r.memory.dataSize ≠ 0).map fun r =>
    ⟨r.start.toNat, r.memory.dataSize.toNat, r.memory.rva.toNat⟩

end Segment

end CrashDump
