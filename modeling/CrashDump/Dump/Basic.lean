import CrashDump.Format.Catalog

/-! # Dumps

What a well-formed image says: its header, its directory and, in directory order, what
each entry's stream holds.
-/
namespace CrashDump

/-- What one directory entry contributes. -/
inductive Stream where
  | threads (ts : List Thread)
  | modules (ms : List Module)
  | segments (ss : List Segment)
  | regions (rs : List Region)
  | handles (hs : List Handle)
  | systemInfo (s : SystemInfo)
  | exception (e : ExceptionInfo)
  | miscInfo (m : MiscInfo)
  | unrecognised
deriving DecidableEq, Repr

namespace Stream

@[simp] def threadList : Stream → List Thread
  | threads ts => ts
  | _ => []

@[simp] def moduleList : Stream → List Module
  | modules ms => ms
  | _ => []

@[simp] def segmentList : Stream → List Segment
  | segments ss => ss
  | _ => []

@[simp] def regionList : Stream → List Region
  | regions rs => rs
  | _ => []

@[simp] def handleList : Stream → List Handle
  | handles hs => hs
  | _ => []

@[simp] def systemInfo? : Stream → Option SystemInfo
  | systemInfo s => some s
  | _ => none

@[simp] def exception? : Stream → Option ExceptionInfo
  | exception e => some e
  | _ => none

@[simp] def miscInfo? : Stream → Option MiscInfo
  | miscInfo m => some m
  | _ => none

end Stream

/-- What the streams of a dump hold together. -/
structure Contents where
  threads : List Thread
  modules : List Module
  segments : List Segment
  regions : List Region
  handles : List Handle
  systemInfo : Option SystemInfo
  exception : Option ExceptionInfo
  miscInfo : Option MiscInfo
deriving DecidableEq, Repr

namespace Contents

/-- Lists are joined in stream order; of streams that hold one record the last counts. -/
def ofStreams (ss : List Stream) : Contents where
  threads := ss.flatMap (·.threadList)
  modules := ss.flatMap (·.moduleList)
  segments := ss.flatMap (·.segmentList)
  regions := ss.flatMap (·.regionList)
  handles := ss.flatMap (·.handleList)
  systemInfo := (ss.filterMap (·.systemInfo?)).getLast?
  exception := (ss.filterMap (·.exception?)).getLast?
  miscInfo := (ss.filterMap (·.miscInfo?)).getLast?

end Contents

structure Dump extends Contents where
  header : Header
  directory : List DirectoryEntry
deriving DecidableEq, Repr

namespace Dump

/-- The entries whose streams are not decoded. -/
def unknownStreams (m : Dump) : List DirectoryEntry := m.directory.filter (·.kind?.isNone)

/-- The first entry with a tag. -/
def stream? (m : Dump) (tag : Int) : Option DirectoryEntry :=
  m.directory.find? fun e => (e.tag.toNat : Int) == tag

end Dump

end CrashDump
