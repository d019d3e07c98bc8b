import CrashDump.Bytes.Record

/-! # Threads -/
namespace CrashDump

structure Thread where
  threadId : UInt32
  suspendCount : UInt32
  priorityClass : UInt32
  priority : UInt32
  teb : UInt64
  stackRva : UInt32
  stackSize : UInt32
  contextRva : UInt32
  contextSize : UInt32
deriving DecidableEq, Repr

namespace Thread

instance : Record Thread where
  layout := .seq [.u32, .u32, .u32, .u32, .u64, .u32, .u32, .u32, .u32]
  ofValue := fun (a, b, c, d, e, f, g, h, i, ()) => ⟨a, b, c, d, e, f, g, h, i⟩
  toValue r := (r.threadId, r.suspendCount, r.priorityClass, r.priority, r.teb, r.stackRva,
    r.stackSize, r.contextRva, r.contextSize, ())

end Thread

end CrashDump
