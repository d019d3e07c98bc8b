import CrashDump.Format.Exception
import CrashDump.Format.Handle
import CrashDump.Format.Memory
import CrashDump.Format.Module
import CrashDump.Format.System
import CrashDump.Format.Thread

/-! # Catalog of record kinds

Every fixed-size record of the format, so that one can be chosen at run time.
-/
namespace CrashDump

inductive RecordKind where
  | header
  | directoryEntry
  | location
  | location64
  | threadListHeader
  | thread
  | moduleListHeader
  | module
  | fileVersion
  | memoryListHeader
  | memoryRange
  | memory64Header
  | memoryRange64
  | regionListHeader
  | region
  | system
  | exceptionRecord
  | exceptionInfo
  | miscInfo
  | handleListHeader
  | handle
  | nameLength
deriving DecidableEq, Repr

namespace RecordKind

/-- A list header and the length of a name are bare counts. -/
@[reducible] def Carrier : RecordKind → Type
  | header => Header
  | directoryEntry => DirectoryEntry
  | location => Location
  | location64 => Location64
  | threadListHeader => UInt32
  | thread => Thread
  | moduleListHeader => UInt32
  | module => ModuleRecord
  | fileVersion => FileVersion
  | memoryListHeader => UInt32
  | memoryRange => MemoryRange
  | memory64Header => Memory64Header
  | memoryRange64 => MemoryRange64
  | regionListHeader => RegionListHeader
  | region => Region
  | system => SystemRecord
  | exceptionRecord => ExceptionRecord
  | exceptionInfo => ExceptionInfo
  | miscInfo => MiscInfo
  | handleListHeader => HandleListHeader
  | handle => HandleRecord
  | nameLength => UInt32

instance (k : RecordKind) : Record k.Carrier :=
  match k with
  | header => inferInstanceAs (Record Header)
  | directoryEntry => inferInstanceAs (Record DirectoryEntry)
  | location => inferInstanceAs (Record Location)
  | location64 => inferInstanceAs (Record Location64)
  | threadListHeader => inferInstanceAs (Record UInt32)
  | thread => inferInstanceAs (Record Thread)
  | moduleListHeader => inferInstanceAs (Record UInt32)
  | module => inferInstanceAs (Record ModuleRecord)
  | fileVersion => inferInstanceAs (Record FileVersion)
  | memoryListHeader => inferInstanceAs (Record UInt32)
  | memoryRange => inferInstanceAs (Record MemoryRange)
  | memory64Header => inferInstanceAs (Record Memory64Header)
  | memoryRange64 => inferInstanceAs (Record MemoryRange64)
  | regionListHeader => inferInstanceAs (Record RegionListHeader)
  | region => inferInstanceAs (Record Region)
  | system => inferInstanceAs (Record SystemRecord)
  | exceptionRecord => inferInstanceAs (Record ExceptionRecord)
  | exceptionInfo => inferInstanceAs (Record ExceptionInfo)
  | miscInfo => inferInstanceAs (Record MiscInfo)
  | handleListHeader => inferInstanceAs (Record HandleListHeader)
  | handle => inferInstanceAs (Record HandleRecord)
  | nameLength => inferInstanceAs (Record UInt32)

def size (k : RecordKind) : Nat := Record.size k.Carrier

end RecordKind

/-- A record together with its kind. -/
structure AnyRecord where
  kind : RecordKind
  record : kind.Carrier

end CrashDump
