/-! # Byte images

A dump file is an image: bytes addressed from zero. Words are little-endian. Reading a
word is total, a byte past the end counts as zero, so that every bounds decision is made
once, by whoever asks whether a span `fits`.
-/
namespace CrashDump

abbrev Image := ByteArray

namespace Image

def byteAt (d : Image) (i : Nat) : UInt8 := if h : i < d.size then d[i] else 0

/-- The span of `n` bytes from `off` lies inside the image. -/
abbrev Fits (d : Image) (off n : Nat) : Prop := off + n ≤ d.size

def slice (d : Image) (off n : Nat) : Image := d.extract off (off + n)

/-- The unsigned number whose least significant byte stands at `off`. -/
def natAt (d : Image) (off : Nat) : (width : Nat) → Nat
  | 0 => 0
  | width + 1 => (d.byteAt off).toNat + 256 * natAt d (off + 1) width

def bytes (d : Image) : List UInt8 := d.data.toList

end Image

/-- The number that a list of bytes writes, least significant byte first. -/
def natOfBytes : List UInt8 → Nat
  | [] => 0
  | b :: bs => b.toNat + 256 * natOfBytes bs

/-- The low `width` bytes of a number, least significant first. -/
def bytesOfNat : (width : Nat) → Nat → List UInt8
  | 0, _ => []
  | width + 1, n => UInt8.ofNat n :: bytesOfNat width (n / 256)

end CrashDump
