import CrashDump.Dump.Basic
import CrashDump.Report.Wording
import CrashDump.Text.CivilDate

/-! # Tables

A dump is reported in tables of text cells: lists give one row a record, single records
one row a field. The exception is a single record in list form.
-/
namespace CrashDump

structure Table where
  title : String
  columns : List String
  rows : List (List String)
deriving DecidableEq, Repr

namespace Table

def ofFields (title : String) (fields : List (String × String)) : Table :=
  ⟨title, ["Field", "Value"], fields.map fun f => [f.1, f.2]⟩

def flags (h : Header) : String :=
  match h.flagNames with
  | [] => "MiniDumpNormal"
  | names => "|".intercalate names

def header (m : Dump) : Table :=
  let h := m.header
  ofFields "MinidumpHeader" [
    ("Signature", Hex.text h.signature.toNat),
    ("Version", toString h.version.toNat),
    ("ImplementationVersion", toString h.implementationVersion.toNat),
    ("NumberOfStreams", toString h.streamCount.toNat),
    ("StreamDirectoryRva", Hex.text h.directoryRva.toNat),
    ("CheckSum", Hex.text h.checkSum.toNat),
    ("TimeDateStamp", (CivilTime.ofSeconds h.timeDateStamp.toNat).text),
    ("Flags", flags h)]

def streams (m : Dump) : Table :=
  ⟨"Streams", ["StreamType", "Name", "Rva", "DataSize"], m.directory.map fun e => [
    Hex.text e.tag.toNat,
    Wording.streamTag e.tag.toNat,
    Hex.text e.location.rva.toNat,
    Hex.text e.location.dataSize.toNat]⟩

def threads (m : Dump) : Table :=
  ⟨"ThreadList", ["ThreadId", "SuspendCount", "PriorityClass", "Priority", "Teb"],
    m.threads.map fun t => [
      Hex.text t.threadId.toNat,
      toString t.suspendCount.toNat,
      toString t.priorityClass.toNat,
      toString t.priority.toNat,
      Hex.text t.teb.toNat]⟩

def modules (m : Dump) : Table :=
  ⟨"ModuleList", ["Module name", "BaseAddress", "Size", "EndAddress", "Timestamp", "Version"],
    m.modules.map fun x => [
      x.name.getD "",
      Hex.wide x.record.base.toNat 8,
      Hex.text x.record.size.toNat,
      Hex.wide x.record.endAddress 8,
      Hex.text x.record.timeDateStamp.toNat,
      Wording.fileVersion x.record.version.signature.toNat x.record.version.fileVersionMS.toNat
        x.record.version.fileVersionLS.toNat]⟩

def segments (m : Dump) : Table :=
  ⟨"MemorySegments", ["VA Start", "RVA", "Size"], m.segments.map fun s => [
    Hex.text s.start,
    Hex.text s.file,
    Hex.text s.size]⟩

def regions (m : Dump) : Table :=
  ⟨"MemoryInfoList", ["BaseAddress", "AllocationBase", "AllocationProtect", "RegionSize",
      "State", "Protect", "Type"],
    m.regions.map fun r => [
      Hex.text r.base.toNat,
      if r.allocationBase = 0 then "0" else Hex.text r.allocationBase.toNat,
      Wording.protection r.allocationProtect.toNat,
      Hex.text r.size.toNat,
      Wording.regionState r.state.toNat,
      Wording.protection r.protect.toNat,
      Wording.regionType r.type.toNat]⟩

def systemInfo (s : SystemInfo) : Table :=
  let r := s.record
  ofFields "SystemInfo" [
    ("ProcessorArchitecture", Wording.architecture r.architecture.toNat),
    ("OperatingSystem (guess)", Wording.operatingSystem r.majorVersion.toNat
      r.minorVersion.toNat r.productType.toNat),
    ("ProcessorLevel", toString r.level.toNat),
    ("ProcessorRevision", Hex.text r.revision.toNat),
    ("NumberOfProcessors", toString r.processorCount.toNat),
    ("ProductType", Wording.productType r.productType.toNat),
    ("MajorVersion", toString r.majorVersion.toNat),
    ("MinorVersion", toString r.minorVersion.toNat),
    ("BuildNumber", toString r.buildNumber.toNat),
    ("PlatformId", Wording.platform r.platform.toNat),
    ("CSDVersion", s.servicePack.getD ""),
    ("SuiteMask", Hex.text r.suiteMask.toNat),
    ("VendorId", " ".intercalate (r.vendorId.map fun (w : Nat) => Hex.text w)),
    ("VersionInformation", toString r.versionInformation),
    ("FeatureInformation", toString r.featureInformation),
    ("AMDExtendedCpuFeatures", toString r.amdFeatures)]

def exception (e : ExceptionInfo) : Table :=
  let r := e.record
  ⟨"Exception", ["ThreadId", "ExceptionCode", "ExceptionFlags", "ExceptionRecord",
      "ExceptionAddress", "ExceptionInformation"], [[
    Hex.text e.threadId.toNat,
    Hex.text r.code.toNat,
    Hex.text r.flags.toNat,
    Hex.text r.nested.toNat,
    Hex.text r.address.toNat,
    "[" ++ ", ".intercalate (r.information.map fun p => Hex.text p.toNat) ++ "]"]]⟩

def handles (m : Dump) : Table :=
  ⟨"HandleData", ["Handle", "TypeName", "ObjectName", "Attributes", "GrantedAccess",
      "HandleCount", "PointerCount"],
    m.handles.map fun h => [
      Hex.text h.record.handle.toNat,
      h.typeName.getD "",
      h.objectName.getD "",
      Hex.word h.record.attributes,
      Hex.text h.record.grantedAccess.toNat,
      toString h.record.handleCount.toNat,
      toString h.record.pointerCount.toNat]⟩

def miscInfo (r : MiscInfo) : Table :=
  ofFields "MiscInfo" [
    ("SizeOfInfo", toString r.infoSize.toNat),
    ("Flags1", Hex.word r.flags1),
    ("ProcessId", toString r.processId.toNat),
    ("ProcessCreateTime", toString r.createTime.toNat),
    ("ProcessUserTime", toString r.userTime.toNat),
    ("ProcessKernelTime", toString r.kernelTime.toNat),
    ("ProcessorMaxMhz", toString r.maxMhz.toNat),
    ("ProcessorCurrentMhz", toString r.currentMhz.toNat),
    ("ProcessorMhzLimit", toString r.mhzLimit.toNat),
    ("ProcessorMaxIdleState", toString r.maxIdleState.toNat),
    ("ProcessorCurrentIdleState", toString r.currentIdleState.toNat)]

end Table

/-- The parts of a report. -/
inductive Section where
  | header
  | streams
  | threads
  | modules
  | segments
  | regions
  | systemInfo
  | exception
  | handles
  | miscInfo
deriving DecidableEq, Repr

namespace Section

/-- In the order of a full report. -/
def all : List Section :=
  [header, streams, threads, modules, segments, regions, systemInfo, exception, handles, miscInfo]

/-- Absent for a single record that the dump lacks. -/
def table? (m : Dump) : Section → Option Table
  | header => some (Table.header m)
  | streams => some (Table.streams m)
  | threads => some (Table.threads m)
  | modules => some (Table.modules m)
  | segments => some (Table.segments m)
  | regions => some (Table.regions m)
  | systemInfo => m.systemInfo.map Table.systemInfo
  | exception => m.exception.map Table.exception
  | handles => some (Table.handles m)
  | miscInfo => m.miscInfo.map Table.miscInfo

end Section

end CrashDump
