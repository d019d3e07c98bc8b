import CrashDump.Bytes.Image

/-! # Record layouts

A layout lists the pieces of a fixed-size record in file order. It determines the type of
the stored values, how they are read at an offset and how they are written back. Gaps
carry nothing and are written as zeros; a bit set keeps its known bits only.
-/
namespace CrashDump

inductive Layout where
  | u8
  | u16
  | u32
  | u64
  | bits (known : UInt64)
  | words (count : Nat)
  | gap (size : Nat)
  | pair (first rest : Layout)
deriving DecidableEq, Repr

namespace Layout

def seq : List Layout → Layout
  | [] => gap 0
  | l :: ls => pair l (seq ls)

def size : Layout → Nat
  | u8 => 1
  | u16 => 2
  | u32 => 4
  | u64 => 8
  | bits _ => 8
  | words count => 8 * count
  | gap size => size
  | pair a b => a.size + b.size

/-- The type of what a layout stores. -/
@[reducible] def Value : Layout → Type
  | u8 => UInt8
  | u16 => UInt16
  | u32 => UInt32
  | u64 => UInt64
  | bits _ => UInt64
  | words count => Vector UInt64 count
  | gap _ => Unit
  | pair a b => a.Value × b.Value

def read (d : Image) (off : Nat) : (l : Layout) → l.Value
  | u8 => d.byteAt off
  | u16 => UInt16.ofNat (d.natAt off 2)
  | u32 => UInt32.ofNat (d.natAt off 4)
  | u64 => UInt64.ofNat (d.natAt off 8)
  | bits known => UInt64.ofNat (d.natAt off 8) &&& known
  | words count => Vector.ofFn (n := count) fun i => UInt64.ofNat (d.natAt (off + 8 * i.val) 8)
  | gap _ => ()
  | pair a b => (read d off a, read d (off + a.size) b)

def write : (l : Layout) → l.Value → List UInt8
  | u8, v => [v]
  | u16, v => bytesOfNat 2 v.toNat
  | u32, v => bytesOfNat 4 v.toNat
  | u64, v => bytesOfNat 8 v.toNat
  | bits _, v => bytesOfNat 8 v.toNat
  | words _, v => v.toList.flatMap fun w => bytesOfNat 8 w.toNat
  | gap size, _ => List.replicate size 0
  | pair a b, v => write a v.1 ++ write b v.2

/-- Which bits of a record's bytes are kept by reading and writing it. -/
def mask : Layout → List UInt8
  | u8 => [255]
  | u16 => List.replicate 2 255
  | u32 => List.replicate 4 255
  | u64 => List.replicate 8 255
  | bits known => bytesOfNat 8 known.toNat
  | words count => List.replicate (8 * count) 255
  | gap size => List.replicate size 0
  | pair a b => mask a ++ mask b

end Layout

end CrashDump
