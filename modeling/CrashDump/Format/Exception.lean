import CrashDump.Format.Header

/-! # Exception -/
namespace CrashDump

structure ExceptionRecord where
  code : UInt32
  flags : UInt32
  nested : UInt64
  address : UInt64
  parameterCount : UInt32
  parameters : Vector UInt64 15
deriving DecidableEq, Repr

namespace ExceptionRecord

instance : Record ExceptionRecord where
  layout := .seq [.u32, .u32, .u64, .u64, .u32, .gap 4, .words 15]
  ofValue := fun (a, b, c, d, e, _, f, ()) => ⟨a, b, c, d, e, f⟩
  toValue r := (r.code, r.flags, r.nested, r.address, r.parameterCount, (), r.parameters, ())

/-- The parameters that count, at most all fifteen. -/
def information (r : ExceptionRecord) : List UInt64 :=
  r.parameters.toList.take r.parameterCount.toNat

end ExceptionRecord

structure ExceptionInfo where
  threadId : UInt32
  record : ExceptionRecord
  context : Location
deriving DecidableEq, Repr

instance : Record ExceptionInfo where
  layout := .seq [.u32, .gap 4, Record.layout ExceptionRecord, Record.layout Location]
  ofValue := fun (a, _, b, c, ()) => ⟨a, Record.ofValue b, Record.ofValue c⟩
  toValue r := (r.threadId, (), Record.toValue r.record, Record.toValue r.context, ())

end CrashDump
