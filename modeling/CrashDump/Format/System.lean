import CrashDump.Format.Header

/-! # Captured system and process -/
namespace CrashDump

structure SystemRecord where
  architecture : UInt16
  level : UInt16
  revision : UInt16
  processorCount : UInt8
  productType : UInt8
  majorVersion : UInt32
  minorVersion : UInt32
  buildNumber : UInt32
  platform : UInt32
  servicePackRva : UInt32
  suiteMask : UInt16
  reserved2 : UInt16
  features : Vector UInt64 2
deriving DecidableEq, Repr

namespace SystemRecord

instance : Record SystemRecord where
  layout := .seq [.u16, .u16, .u16, .u8, .u8, .u32, .u32, .u32, .u32, .u32, .u16, .u16, .words 2]
  ofValue := fun (a, b, c, d, e, f, g, h, i, j, k, l, m, ()) =>
    ⟨a, b, c, d, e, f, g, h, i, j, k, l, m⟩
  toValue r := (r.architecture, r.level, r.revision, r.processorCount, r.productType,
    r.majorVersion, r.minorVersion, r.buildNumber, r.platform, r.servicePackRva, r.suiteMask,
    r.reserved2, r.features, ())

def lowHalf (word : UInt64) : Nat := word.toNat % 0x100000000

def highHalf (word : UInt64) : Nat := word.toNat / 0x100000000

/-- The three vendor words, packed into the feature words. -/
def vendorId (r : SystemRecord) : List Nat :=
  [lowHalf r.features[0], highHalf r.features[0], lowHalf r.features[1]]

def versionInformation (r : SystemRecord) : Nat := highHalf r.features[1]

def featureInformation (r : SystemRecord) : Nat := lowHalf r.features[0]

def amdFeatures (r : SystemRecord) : Nat := highHalf r.features[0]

end SystemRecord

structure SystemInfo where
  record : SystemRecord
  servicePack : Option String
deriving DecidableEq, Repr

structure MiscInfo where
  infoSize : UInt32
  flags1 : UInt32
  processId : UInt32
  createTime : UInt32
  userTime : UInt32
  kernelTime : UInt32
  maxMhz : UInt32
  currentMhz : UInt32
  mhzLimit : UInt32
  maxIdleState : UInt32
  currentIdleState : UInt32
deriving DecidableEq, Repr

instance : Record MiscInfo where
  layout := .seq [.u32, .u32, .u32, .u32, .u32, .u32, .u32, .u32, .u32, .u32, .u32]
  ofValue := fun (a, b, c, d, e, f, g, h, i, j, k, ()) => ⟨a, b, c, d, e, f, g, h, i, j, k⟩
  toValue r := (r.infoSize, r.flags1, r.processId, r.createTime, r.userTime, r.kernelTime,
    r.maxMhz, r.currentMhz, r.mhzLimit, r.maxIdleState, r.currentIdleState, ())

end CrashDump
