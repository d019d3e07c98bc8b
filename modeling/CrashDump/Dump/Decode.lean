import CrashDump.Dump.Basic
import CrashDump.Dump.Rejection
import CrashDump.Format.Name

/-! # Decoding a dump

Header, directory, then every stream in directory order. Thread and module lists must be
complete; memory lists, region lists and handle lists give what there is, with a notice.
The notices of the streams before a rejected one remain.
-/
namespace CrashDump

/-! ## Records with their names -/

def ModuleRecord.named (d : Image) (r : ModuleRecord) : Module := ⟨r, nameAt d r.nameRva.toNat⟩

def HandleRecord.named (d : Image) (r : HandleRecord) : Handle :=
  ⟨r, nameAt d r.typeNameRva.toNat, nameAt d r.objectNameRva.toNat⟩

def SystemRecord.named (d : Image) (r : SystemRecord) : SystemInfo :=
  ⟨r, nameAt d r.servicePackRva.toNat⟩

/-! ## Streams -/

/-- A stream with the notices it gave rise to. -/
structure Decoded where
  stream : Stream
  notices : List Notice

namespace Decoded

/-- The notice for a list of which only a part is read. -/
def capNotice (declared : Nat) : List Notice :=
  if listLimit < declared then [.memory64Capped declared] else []

/-- The notice for a run that was cut short. -/
def cutNotice {α : Type} (notice : Nat → Notice) : List α × Option ShortRead → List Notice
  | (_, none) => []
  | (rs, some _) => [notice rs.length]

end Decoded

namespace Stream
open Record Decoded

def decodeThreads (d : Image) (rva : Nat) : Except ShortRead Decoded := do
  let count : UInt32 ← readAt? d rva
  let ts ← readAll d (rva + size UInt32) count.toNat
  return ⟨.threads ts, []⟩

def decodeModules (d : Image) (rva : Nat) : Except ShortRead Decoded := do
  let count : UInt32 ← readAt? d rva
  let rs ← readAll d (rva + size UInt32) count.toNat
  return ⟨.modules (rs.map (ModuleRecord.named d)), []⟩

def decodeMemory64 (d : Image) (rva : Nat) : Except ShortRead Decoded := do
  let header : Memory64Header ← readAt? d rva
  let declared := header.rangeCount.toNat
  let run := readRun d (rva + size Memory64Header) (min declared listLimit)
  return ⟨.segments (Segment.packed header.baseRva.toNat run.1),
    capNotice declared ++ cutNotice .memory64Cut run⟩

def decodeMemory (d : Image) (rva : Nat) : Except ShortRead Decoded := do
  let count : UInt32 ← readAt? d rva
  let run := readRun d (rva + size UInt32) (min count.toNat listLimit)
  return ⟨.segments (Segment.placed run.1), cutNotice .memoryCut run⟩

def decodeHandles (d : Image) (rva : Nat) : Except ShortRead Decoded := do
  let header : HandleListHeader ← readAt? d rva
  let run := readRun d (rva + size HandleListHeader) header.descriptorCount.toNat
  return ⟨.handles (run.1.map (HandleRecord.named d)), cutNotice .handlesCut run⟩

def decodeSystem (d : Image) (rva : Nat) : Except ShortRead Decoded := do
  let r : SystemRecord ← readAt? d rva
  return ⟨.systemInfo (r.named d), []⟩

/-- Entries of another size than a region's are not understood. -/
def decodeRegions (d : Image) (rva : Nat) : Except ShortRead (Except Rejection Decoded) := do
  let header : RegionListHeader ← readAt? d rva
  if header.entrySize.toNat ≠ size Region then
    return .error (.foreignEntrySize header.entrySize)
  else
    let run := readRun d (rva + size RegionListHeader) (min header.entryCount.toNat listLimit)
    return .ok ⟨.regions run.1, cutNotice .regionsCut run⟩

def decodeKind (d : Image) (rva : Nat) :
    StreamKind → Except ShortRead (Except Rejection Decoded)
  | .threadList => .ok <$> decodeThreads d rva
  | .moduleList => .ok <$> decodeModules d rva
  | .memoryList => .ok <$> decodeMemory d rva
  | .exception => (fun e => .ok ⟨.exception e, []⟩) <$> readAt? d rva
  | .systemInfo => .ok <$> decodeSystem d rva
  | .memory64List => .ok <$> decodeMemory64 d rva
  | .handleData => .ok <$> decodeHandles d rva
  | .miscInfo => (fun m => .ok ⟨.miscInfo m, []⟩) <$> readAt? d rva
  | .memoryInfoList => decodeRegions d rva

def decode (d : Image) (e : DirectoryEntry) : Except Rejection Decoded :=
  match e.kind? with
  | none => .ok ⟨.unrecognised, []⟩
  | some kind => match decodeKind d e.location.rva.toNat kind with
    | .ok result => result
    | .error short => .error (.truncated kind e.location.rva short)

end Stream

/-! ## Dumps -/

/-- The outcome of decoding, with the notices in order. -/
structure Decoding (α : Type) where
  notices : List Notice
  result : Except Rejection α

namespace Decoding

def map {α β : Type} (f : α → β) (x : Decoding α) : Decoding β := ⟨x.notices, f <$> x.result⟩

end Decoding

namespace Contents

/-- Stops at the first rejected stream and keeps the notices of those before it. -/
def decodeStreams (d : Image) : List DirectoryEntry → Decoding (List Stream)
  | [] => ⟨[], .ok []⟩
  | e :: rest => match Stream.decode d e with
    | .error r => ⟨[], .error r⟩
    | .ok x =>
      let later := decodeStreams d rest
      ⟨x.notices ++ later.notices, (x.stream :: ·) <$> later.result⟩

def decode (d : Image) (directory : List DirectoryEntry) : Decoding Contents :=
  (decodeStreams d directory).map ofStreams

end Contents

namespace Header

def decode (d : Image) : Except Rejection Header :=
  match Record.readAt? d 0 with
  | .error short => .error (.short short)
  | .ok (h : Header) =>
    if h.signature ≠ magic then .error (.badSignature h.signature)
    else if h.streamCount = 0 then .error .noStreams
    else .ok h

def decodeDirectory (h : Header) (d : Image) : Except Rejection (List DirectoryEntry) :=
  (Record.readAll d h.directoryRva.toNat h.streamCount.toNat).mapError .short

end Header

namespace Dump

def decode (d : Image) : Decoding Dump :=
  match Header.decode d with
  | .error r => ⟨[], .error r⟩
  | .ok h => match h.decodeDirectory d with
    | .error r => ⟨[], .error r⟩
    | .ok directory => (Contents.decode d directory).map fun c => ⟨c, h, directory⟩

end Dump

end CrashDump
