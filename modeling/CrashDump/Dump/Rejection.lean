import CrashDump.Cursor.Fault
import CrashDump.Format.Header

/-! # Rejections and notices

A rejection is the one reason why an image is no dump. A notice tells that a list was
taken up only in part.
-/
namespace CrashDump

inductive Rejection where
  /-- The header or the directory is not all there. -/
  | short (read : ShortRead)
  | badSignature (found : UInt32)
  | noStreams
  | truncated (kind : StreamKind) (rva : UInt32) (read : ShortRead)
  | foreignEntrySize (found : UInt32)
deriving DecidableEq, Repr

namespace Rejection

def message : Rejection → String
  | short read => read.message
  | badSignature found => s!"Bad minidump signature {Hex.signed found.toNat}"
  | noStreams => "Minidump declares no streams"
  | truncated kind rva read => s!"Truncated {kind.name} at {Hex.signed rva.toNat}: {read.message}"
  | foreignEntrySize found => s!"Unexpected memory info entry size {found}"

end Rejection

/-- At most this many records are taken from a list of memory ranges or regions. -/
def listLimit : Nat := 10000

inductive Notice where
  | memory64Capped (declared : Nat)
  | memory64Cut (taken : Nat)
  | memoryCut (taken : Nat)
  | regionsCut (taken : Nat)
  | handlesCut (taken : Nat)
deriving DecidableEq, Repr

namespace Notice

def message : Notice → String
  | memory64Capped declared =>
    s!"Memory64 list declares {declared} ranges, reading the first {listLimit}"
  | memory64Cut taken => s!"Memory64 list truncated after {taken} ranges"
  | memoryCut taken => s!"Memory list truncated after {taken} ranges"
  | regionsCut taken => s!"Memory info list truncated after {taken} entries"
  | handlesCut taken => s!"Handle data truncated after {taken} descriptors"

end Notice

end CrashDump
