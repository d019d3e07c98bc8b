import CrashDump.Format.Exception
import CrashDump.Format.Handle
import CrashDump.Format.Memory
import CrashDump.Format.Module
import CrashDump.Format.System
import CrashDump.Format.Thread
import CrashDump.Proofs.HeldBytes

/-! # Packed records

A record is packed as a list of numbers in file order, each of a width of its own, with zeros for
padding. The lists know nothing of the layouts that records are read by. Still what is packed is
what a layout writes, and so it is read back.
-/
namespace CrashDump

/-- A number of one, two, four or eight bytes. -/
inductive Packet where
  | b (n : UInt8)
  | h (n : UInt16)
  | i (n : UInt32)
  | q (n : UInt64)

namespace Packet

def bytes : Packet → List UInt8
  | b n => [n]
  | h n => bytesOfNat 2 n.toNat
  | i n => bytesOfNat 4 n.toNat
  | q n => bytesOfNat 8 n.toNat

end Packet

/-- The numbers that a record is packed as. A layout writes the same bytes. -/
class Packed (α : Type) [Record α] where
  packets : α → List Packet
  write_eq : ∀ r : α, Record.write r = (packets r).flatMap Packet.bytes

namespace Record
variable {α : Type} [Record α] [Packed α] {d : Image} {off : Nat}

def pack (r : α) : List UInt8 := (Packed.packets r).flatMap Packet.bytes

theorem pack_eq_write : (pack : α → List UInt8) = write := funext fun r => (Packed.write_eq r).symm

@[simp] theorem length_pack (r : α) : (pack r).length = size α := by
  rw [pack_eq_write, length_write]

theorem readAt_of_packed [Lossless α] {r : α} (h : d.Holds off (pack r)) : readAt d off = r := by
  rw [pack_eq_write] at h
  exact readAt_eq_of_holds h

theorem run_of_packed [Lossless α] {rs : List α} (h : d.Holds off (rs.flatMap pack)) :
    run α d off rs.length = rs := by
  rw [pack_eq_write] at h
  exact run_of_holds h

end Record

/-! ## Header and directory -/

instance : Packed UInt32 where
  packets n := [.i n]
  write_eq _ := rfl

instance : Packed Header where
  packets r := [.i r.signature, .h r.version, .h r.implementationVersion, .i r.streamCount,
    .i r.directoryRva, .i r.checkSum, .i r.timeDateStamp, .q r.flags]
  write_eq _ := rfl

instance : Packed DirectoryEntry where
  packets r := [.i r.tag, .i r.location.dataSize, .i r.location.rva]
  write_eq _ := rfl

theorem Header.readAt_of_packed {d : Image} {off : Nat} {x : Header}
    (h : d.Holds off (Record.pack x))
    (hf : x.flags &&& .ofNat Codes.contents.union = x.flags) : Record.readAt d off = x := by
  rw [Record.pack_eq_write] at h
  exact readAt_of_holds h hf

/-! ## Lists and their records -/

instance : Packed Thread where
  packets r := [.i r.threadId, .i r.suspendCount, .i r.priorityClass, .i r.priority, .q r.teb,
    .i r.stackRva, .i r.stackSize, .i r.contextRva, .i r.contextSize]
  write_eq _ := rfl

namespace FileVersion

def packets (r : FileVersion) : List Packet :=
  [.i r.signature, .i r.strucVersion, .i r.fileVersionMS, .i r.fileVersionLS,
    .i r.productVersionMS, .i r.productVersionLS, .i r.fileFlagsMask, .i r.fileFlags,
    .i r.fileOS, .i r.fileType, .i r.fileSubtype, .i r.fileDateMS, .i r.fileDateLS]

end FileVersion

instance : Packed ModuleRecord where
  packets r := [.q r.base, .i r.size, .i r.checkSum, .i r.timeDateStamp, .i r.nameRva] ++
    r.version.packets ++ [.i r.cvRecord.dataSize, .i r.cvRecord.rva, .i r.miscRecord.dataSize,
      .i r.miscRecord.rva] ++ [.q r.reserved0, .q r.reserved1]
  write_eq _ := rfl

instance : Packed MemoryRange where
  packets r := [.q r.start, .i r.memory.dataSize, .i r.memory.rva]
  write_eq _ := rfl

instance : Packed Memory64Header where
  packets r := [.q r.rangeCount, .q r.baseRva]
  write_eq _ := rfl

instance : Packed MemoryRange64 where
  packets r := [.q r.start, .q r.dataSize]
  write_eq _ := rfl

instance : Packed RegionListHeader where
  packets r := [.i r.headerSize, .i r.entrySize, .q r.entryCount]
  write_eq _ := rfl

instance : Packed Region where
  packets r := [.q r.base, .q r.allocationBase, .i r.allocationProtect, .i 0, .q r.size,
    .i r.state, .i r.protect, .i r.type, .i 0]
  write_eq _ := rfl

instance : Packed HandleListHeader where
  packets r := [.i r.headerSize, .i r.descriptorSize, .i r.descriptorCount, .i r.reserved]
  write_eq _ := rfl

instance : Packed HandleRecord where
  packets r := [.q r.handle, .i r.typeNameRva, .i r.objectNameRva, .i r.attributes,
    .i r.grantedAccess, .i r.handleCount, .i r.pointerCount]
  write_eq _ := rfl

/-! ## Single records -/

instance : Packed SystemRecord where
  packets r := [.h r.architecture, .h r.level, .h r.revision, .b r.processorCount,
    .b r.productType, .i r.majorVersion, .i r.minorVersion, .i r.buildNumber, .i r.platform,
    .i r.servicePackRva, .h r.suiteMask, .h r.reserved2] ++ r.features.toList.map .q
  write_eq r := by
    rw [List.flatMap_append, List.flatMap_map, ← List.append_nil (r.features.toList.flatMap _)]
    rfl

instance : Packed ExceptionRecord where
  packets r := [.i r.code, .i r.flags, .q r.nested, .q r.address, .i r.parameterCount, .i 0] ++
    r.parameters.toList.map .q
  write_eq r := by
    rw [List.flatMap_append, List.flatMap_map, ← List.append_nil (r.parameters.toList.flatMap _)]
    rfl

instance : Packed ExceptionInfo where
  packets r := [.i r.threadId, .i 0] ++ Packed.packets r.record ++
    [.i r.context.dataSize, .i r.context.rva]
  write_eq r := by
    have hw : Record.write r = bytesOfNat 4 r.threadId.toNat ++ (List.replicate 4 0 ++
        (Record.write r.record ++ (Record.write r.context ++ []))) := rfl
    rw [hw, Packed.write_eq r.record, List.flatMap_append, List.flatMap_append, List.append_assoc]
    rfl

instance : Packed MiscInfo where
  packets r := [.i r.infoSize, .i r.flags1, .i r.processId, .i r.createTime, .i r.userTime,
    .i r.kernelTime, .i r.maxMhz, .i r.currentMhz, .i r.mhzLimit, .i r.maxIdleState,
    .i r.currentIdleState]
  write_eq _ := rfl

end CrashDump
