import CrashDump.Format.Header

/-! # Modules

A loaded image file of the captured process. Its name stands elsewhere in the dump and is
attached once read.
-/
namespace CrashDump

/-- Fixed part of a file's version resource. -/
structure FileVersion where
  signature : UInt32
  strucVersion : UInt32
  fileVersionMS : UInt32
  fileVersionLS : UInt32
  productVersionMS : UInt32
  productVersionLS : UInt32
  fileFlagsMask : UInt32
  fileFlags : UInt32
  fileOS : UInt32
  fileType : UInt32
  fileSubtype : UInt32
  fileDateMS : UInt32
  fileDateLS : UInt32
deriving DecidableEq, Repr

instance : Record FileVersion where
  layout := .seq [.u32, .u32, .u32, .u32, .u32, .u32, .u32, .u32, .u32, .u32, .u32, .u32, .u32]
  ofValue := fun (a, b, c, d, e, f, g, h, i, j, k, l, m, ()) =>
    ⟨a, b, c, d, e, f, g, h, i, j, k, l, m⟩
  toValue r := (r.signature, r.strucVersion, r.fileVersionMS, r.fileVersionLS,
    r.productVersionMS, r.productVersionLS, r.fileFlagsMask, r.fileFlags, r.fileOS, r.fileType,
    r.fileSubtype, r.fileDateMS, r.fileDateLS, ())

structure ModuleRecord where
  base : UInt64
  size : UInt32
  checkSum : UInt32
  timeDateStamp : UInt32
  nameRva : UInt32
  version : FileVersion
  cvRecord : Location
  miscRecord : Location
  reserved0 : UInt64
  reserved1 : UInt64
deriving DecidableEq, Repr

namespace ModuleRecord

instance : Record ModuleRecord where
  layout := .seq [.u64, .u32, .u32, .u32, .u32, Record.layout FileVersion,
    Record.layout Location, Record.layout Location, .u64, .u64]
  ofValue := fun (a, b, c, d, e, f, g, h, i, j, ()) =>
    ⟨a, b, c, d, e, Record.ofValue f, Record.ofValue g, Record.ofValue h, i, j⟩
  toValue r := (r.base, r.size, r.checkSum, r.timeDateStamp, r.nameRva,
    Record.toValue r.version, Record.toValue r.cvRecord, Record.toValue r.miscRecord,
    r.reserved0, r.reserved1, ())

/-- The first address after the module, which may lie past the 64-bit addresses. -/
def endAddress (r : ModuleRecord) : Nat := r.base.toNat + r.size.toNat

end ModuleRecord

structure Module where
  record : ModuleRecord
  name : Option String
deriving DecidableEq, Repr

end CrashDump
