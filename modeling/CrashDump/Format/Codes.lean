/-! # Code tables

The format writes enumerations and flags as plain numbers. A code table names the listed
ones, in the order of its entries; every other number stays legal and nameless.
-/
namespace CrashDump

structure Codes where
  entries : List (String × Nat)
deriving DecidableEq, Repr

namespace Codes

def find? (t : Codes) (code : Int) : Option (String × Nat) :=
  t.entries.find? fun e => (e.2 : Int) == code

def name? (t : Codes) (code : Int) : Option String := (t.find? code).map (·.1)

def streamTags : Codes where
  entries := [
    ("UnusedStream", 0), ("ReservedStream0", 1), ("ReservedStream1", 2),
    ("ThreadListStream", 3), ("ModuleListStream", 4), ("MemoryListStream", 5),
    ("ExceptionStream", 6), ("SystemInfoStream", 7), ("ThreadExListStream", 8),
    ("Memory64ListStream", 9), ("CommentStreamA", 10), ("CommentStreamW", 11),
    ("HandleDataStream", 12), ("FunctionTableStream", 13), ("UnloadedModuleListStream", 14),
    ("MiscInfoStream", 15), ("MemoryInfoListStream", 16), ("ThreadInfoListStream", 17),
    ("HandleOperationListStream", 18), ("TokenStream", 19), ("JavaScriptDataStream", 20),
    ("SystemMemoryInfoStream", 21), ("ProcessVmCountersStream", 22), ("IptTraceStream", 23),
    ("ThreadNamesStream", 24), ("ceStreamNull", 0x8000), ("ceStreamSystemInfo", 0x8001),
    ("ceStreamException", 0x8002), ("ceStreamModuleList", 0x8003),
    ("ceStreamProcessList", 0x8004), ("ceStreamThreadList", 0x8005),
    ("ceStreamThreadContextList", 0x8006), ("ceStreamThreadCallStackList", 0x8007),
    ("ceStreamMemoryVirtualList", 0x8008), ("ceStreamMemoryPhysicalList", 0x8009),
    ("ceStreamBucketParameters", 0x800A), ("ceStreamProcessModuleMap", 0x800B),
    ("ceStreamDiagnosisList", 0x800C), ("LastReservedStream", 0xFFFF)]

/-- The name of a dump that holds none of the optional contents comes first, with no bit. -/
def contents : Codes where
  entries := [
    ("MiniDumpNormal", 0x0), ("MiniDumpWithDataSegs", 0x1), ("MiniDumpWithFullMemory", 0x2),
    ("MiniDumpWithHandleData", 0x4), ("MiniDumpFilterMemory", 0x8),
    ("MiniDumpScanMemory", 0x10), ("MiniDumpWithUnloadedModules", 0x20),
    ("MiniDumpWithIndirectlyReferencedMemory", 0x40), ("MiniDumpFilterModulePaths", 0x80),
    ("MiniDumpWithProcessThreadData", 0x100), ("MiniDumpWithPrivateReadWriteMemory", 0x200),
    ("MiniDumpWithoutOptionalData", 0x400), ("MiniDumpWithFullMemoryInfo", 0x800),
    ("MiniDumpWithThreadInfo", 0x1000), ("MiniDumpWithCodeSegs", 0x2000),
    ("MiniDumpWithoutAuxiliaryState", 0x4000), ("MiniDumpWithFullAuxiliaryState", 0x8000),
    ("MiniDumpWithPrivateWriteCopyMemory", 0x10000),
    ("MiniDumpIgnoreInaccessibleMemory", 0x20000), ("MiniDumpWithTokenInformation", 0x40000),
    ("MiniDumpWithModuleHeaders", 0x80000), ("MiniDumpFilterTriage", 0x100000)]

def architectures : Codes where
  entries := [
    ("INTEL", 0), ("MIPS", 1), ("ALPHA", 2), ("PPC", 3), ("SHX", 4), ("ARM", 5), ("IA64", 6),
    ("ALPHA64", 7), ("MSIL", 8), ("AMD64", 9), ("IA32_ON_WIN64", 10), ("NEUTRAL", 11),
    ("ARM64", 12), ("ARM32_ON_WIN64", 13), ("IA32_ON_ARM64", 14), ("AARCH64", 15),
    ("UNKNOWN", 0xFFFF)]

def productTypes : Codes where
  entries := [
    ("VER_NT_WORKSTATION", 1), ("VER_NT_DOMAIN_CONTROLLER", 2), ("VER_NT_SERVER", 3)]

def platforms : Codes where
  entries := [
    ("VER_PLATFORM_WIN32s", 0), ("VER_PLATFORM_WIN32_WINDOWS", 1), ("VER_PLATFORM_WIN32_NT", 2)]

def regionStates : Codes where
  entries := [("MEM_COMMIT", 0x1000), ("MEM_RESERVE", 0x2000), ("MEM_FREE", 0x10000)]

def regionTypes : Codes where
  entries := [("MEM_PRIVATE", 0x20000), ("MEM_MAPPED", 0x40000), ("MEM_IMAGE", 0x1000000)]

def protections : Codes where
  entries := [
    ("PAGE_NOACCESS", 0x1), ("PAGE_READONLY", 0x2), ("PAGE_READWRITE", 0x4),
    ("PAGE_WRITECOPY", 0x8), ("PAGE_EXECUTE", 0x10), ("PAGE_EXECUTE_READ", 0x20),
    ("PAGE_EXECUTE_READWRITE", 0x40), ("PAGE_EXECUTE_WRITECOPY", 0x80), ("PAGE_GUARD", 0x100),
    ("PAGE_NOCACHE", 0x200), ("PAGE_WRITECOMBINE", 0x400)]

/-- The entries with a bit in common with `flags`, in table order. -/
def setIn (t : Codes) (flags : Nat) : List (String × Nat) :=
  t.entries.filter fun e => e.2 &&& flags != 0

/-- All bits that the table names. -/
def union (t : Codes) : Nat := t.entries.foldl (fun bits e => bits ||| e.2) 0

end Codes

/-- The architectures whose pointers are eight bytes wide. -/
def wideArchitectures : List Nat := [6, 9, 12, 15]

end CrashDump
