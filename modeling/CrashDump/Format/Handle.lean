import CrashDump.Bytes.Record

/-! # Open handles -/
namespace CrashDump

structure HandleListHeader where
  headerSize : UInt32
  descriptorSize : UInt32
  descriptorCount : UInt32
  reserved : UInt32
deriving DecidableEq, Repr

instance : Record HandleListHeader where
  layout := .seq [.u32, .u32, .u32, .u32]
  ofValue := fun (a, b, c, d, ()) => ⟨a, b, c, d⟩
  toValue r := (r.headerSize, r.descriptorSize, r.descriptorCount, r.reserved, ())

structure HandleRecord where
  handle : UInt64
  typeNameRva : UInt32
  objectNameRva : UInt32
  attributes : UInt32
  grantedAccess : UInt32
  handleCount : UInt32
  pointerCount : UInt32
deriving DecidableEq, Repr

instance : Record HandleRecord where
  layout := .seq [.u64, .u32, .u32, .u32, .u32, .u32, .u32]
  ofValue := fun (a, b, c, d, e, f, g, ()) => ⟨a, b, c, d, e, f, g⟩
  toValue r := (r.handle, r.typeNameRva, r.objectNameRva, r.attributes, r.grantedAccess,
    r.handleCount, r.pointerCount, ())

structure Handle where
  record : HandleRecord
  typeName : Option String
  objectName : Option String
deriving DecidableEq, Repr

end CrashDump
