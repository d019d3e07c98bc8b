import CrashDump.Bytes.Record
import CrashDump.Format.Codes

/-! # Header and stream directory

The header opens the image and points at the directory; each directory entry tags a
stream and locates it. Nine tags name streams that are decoded.
-/
namespace CrashDump

/-- A span of the image. -/
structure Location where
  dataSize : UInt32
  rva : UInt32
deriving DecidableEq, Repr

instance : Record Location where
  layout := .seq [.u32, .u32]
  ofValue := fun (a, b, ()) => ⟨a, b⟩
  toValue r := (r.dataSize, r.rva, ())

structure Location64 where
  dataSize : UInt64
  rva : UInt64
deriving DecidableEq, Repr

instance : Record Location64 where
  layout := .seq [.u64, .u64]
  ofValue := fun (a, b, ()) => ⟨a, b⟩
  toValue r := (r.dataSize, r.rva, ())

structure Header where
  signature : UInt32
  version : UInt16
  implementationVersion : UInt16
  streamCount : UInt32
  directoryRva : UInt32
  checkSum : UInt32
  timeDateStamp : UInt32
  /-- Bits without a name are dropped on reading. -/
  flags : UInt64
deriving DecidableEq, Repr

namespace Header

instance : Record Header where
  layout := .seq [.u32, .u16, .u16, .u32, .u32, .u32, .u32, .bits (.ofNat Codes.contents.union)]
  ofValue := fun (a, b, c, d, e, f, g, h, ()) => ⟨a, b, c, d, e, f, g, h⟩
  toValue r := (r.signature, r.version, r.implementationVersion, r.streamCount, r.directoryRva,
    r.checkSum, r.timeDateStamp, r.flags, ())

/-- The letters MDMP. -/
def magic : UInt32 := 0x504D444D

/-- The names of the set flags, lowest bit first. -/
def flagNames (h : Header) : List String := (Codes.contents.setIn h.flags.toNat).map (·.1)

end Header

structure DirectoryEntry where
  tag : UInt32
  location : Location
deriving DecidableEq, Repr

instance : Record DirectoryEntry where
  layout := .seq [.u32, Record.layout Location]
  ofValue := fun (a, b, ()) => ⟨a, Record.ofValue b⟩
  toValue r := (r.tag, Record.toValue r.location, ())

/-- The streams that are decoded. -/
inductive StreamKind where
  | threadList
  | moduleList
  | memoryList
  | exception
  | systemInfo
  | memory64List
  | handleData
  | miscInfo
  | memoryInfoList
deriving DecidableEq, Repr

namespace StreamKind

def tag : StreamKind → UInt32
  | threadList => 3
  | moduleList => 4
  | memoryList => 5
  | exception => 6
  | systemInfo => 7
  | memory64List => 9
  | handleData => 12
  | miscInfo => 15
  | memoryInfoList => 16

def all : List StreamKind :=
  [threadList, moduleList, memoryList, exception, systemInfo, memory64List, handleData, miscInfo,
    memoryInfoList]

def ofTag? (tag : UInt32) : Option StreamKind := all.find? fun k => k.tag == tag

def name (k : StreamKind) : String := (Codes.streamTags.name? k.tag.toNat).getD ""

end StreamKind

namespace DirectoryEntry

def kind? (e : DirectoryEntry) : Option StreamKind := StreamKind.ofTag? e.tag

end DirectoryEntry

end CrashDump
