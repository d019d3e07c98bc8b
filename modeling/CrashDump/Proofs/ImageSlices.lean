import CrashDump.Bytes.Record
import Mathlib.Algebra.Ring.Nat

/-! # Records in slices of an image

A word or a record depends on nothing but the bytes it takes up. So what is read within a slice is
what stands there in the image, and decoding the bytes of a read and decoding in place agree.
-/
namespace CrashDump

namespace Image
variable {d e : Image} {off off' n : Nat}

@[simp] theorem size_slice (h : d.Fits off n) : (d.slice off n).size = n := by
  rw [slice, ByteArray.size_extract]
  omega

theorem byteAt_slice (h : d.Fits off n) {i : Nat} (hi : i < n) :
    (d.slice off n).byteAt i = d.byteAt (off + i) := by
  have hs : i < (d.slice off n).size := by rw [size_slice h]; exact hi
  have hd : off + i < d.size := by omega
  rw [byteAt, dif_pos hs, byteAt, dif_pos hd]
  exact ByteArray.getElem_extract hs

theorem slice_slice {i k : Nat} (h : i + k ≤ n) :
    (d.slice off n).slice i k = d.slice (off + i) k := by
  rw [slice, slice, slice, ByteArray.extract_extract]
  congr 1
  omega

theorem ext_byteAt (hs : d.size = e.size) (h : ∀ i < d.size, d.byteAt i = e.byteAt i) : d = e := by
  apply ByteArray.ext_getElem hs
  intro i hd he
  have hi := h i hd
  rwa [byteAt, dif_pos hd, byteAt, dif_pos he] at hi

/-- The `n` bytes at an offset of one image are those at an offset of another. -/
def Same (d : Image) (off : Nat) (e : Image) (off' n : Nat) : Prop :=
  ∀ i < n, d.byteAt (off + i) = e.byteAt (off' + i)

namespace Same

theorem part (h : Same d off e off' n) {i k : Nat} (hi : i + k ≤ n) :
    Same d (off + i) e (off' + i) k := by
  intro j hj
  rw [Nat.add_assoc, Nat.add_assoc]
  exact h (i + j) (by omega)

theorem natAt {width : Nat} (h : Same d off e off' width) :
    d.natAt off width = e.natAt off' width := by
  induction width generalizing off off' with
  | zero => rfl
  | succ width ih =>
    have hb : d.byteAt off = e.byteAt off' := h 0 (by omega)
    rw [Image.natAt, Image.natAt, hb, ih (h.part (by omega))]

theorem slice (h : Same d off e off' n) (hd : d.Fits off n) (he : e.Fits off' n) :
    d.slice off n = e.slice off' n := by
  apply ext_byteAt
  · rw [size_slice hd, size_slice he]
  · intro i hi
    rw [size_slice hd] at hi
    rw [byteAt_slice hd hi, byteAt_slice he hi, h i hi]

end Same

theorem same_slice (h : d.Fits off n) : Same (d.slice off n) 0 d off n := by
  intro i hi
  rw [Nat.zero_add, byteAt_slice h hi]

theorem natAt_lt (d : Image) (off width : Nat) : d.natAt off width < 256 ^ width := by
  induction width generalizing off with
  | zero => simp [natAt]
  | succ width ih =>
    have hb := (d.byteAt off).toNat_lt
    have hr := ih (off + 1)
    rw [natAt, Nat.pow_succ]
    omega

theorem toNat_ofNat_natAt4 (d : Image) (off : Nat) :
    (UInt32.ofNat (d.natAt off 4)).toNat = d.natAt off 4 :=
  UInt32.toNat_ofNat_of_lt' (d.natAt_lt off 4)

theorem toNat_ofNat_natAt8 (d : Image) (off : Nat) :
    (UInt64.ofNat (d.natAt off 8)).toNat = d.natAt off 8 :=
  UInt64.toNat_ofNat_of_lt' (d.natAt_lt off 8)

end Image

namespace Layout

theorem read_same (l : Layout) {d e : Image} {off off' : Nat} (h : d.Same off e off' l.size) :
    l.read d off = l.read e off' := by
  induction l generalizing off off' with
  | u8 => exact h 0 (show 0 < 1 by decide)
  | u16 => exact congrArg UInt16.ofNat h.natAt
  | u32 => exact congrArg UInt32.ofNat h.natAt
  | u64 => exact congrArg UInt64.ofNat h.natAt
  | bits known => exact congrArg (fun n => UInt64.ofNat n &&& known) h.natAt
  | words count =>
    refine Vector.ext ?_
    intro j hj
    simp only [read, Vector.getElem_ofFn]
    have hw : d.Same (off + 8 * j) e (off' + 8 * j) 8 := h.part (by rw [size]; omega)
    rw [hw.natAt]
  | gap size => rfl
  | pair a b iha ihb =>
    rw [size] at h
    have ha : d.Same off e off' a.size := h.part (i := 0) (by omega)
    rw [read, read, iha ha, ihb (h.part (by omega))]

end Layout

namespace Record
variable {α : Type} [Record α] {d e : Image} {off off' : Nat}

theorem readAt_same (h : d.Same off e off' (size α)) : readAt d off = (readAt e off' : α) := by
  rw [readAt, readAt, Layout.read_same _ h]

theorem readAt_slice (h : d.Fits off (size α)) :
    readAt (d.slice off (size α)) 0 = (readAt d off : α) := readAt_same (Image.same_slice h)

theorem readAt?_of_fits (h : d.Fits off (size α)) : readAt? d off = .ok (readAt d off : α) :=
  if_pos h

theorem readAt?_of_not_fits (h : ¬ d.Fits off (size α)) :
    (readAt? d off : Except ShortRead α) = .error ⟨off, size α, d.size - off⟩ := if_neg h

end Record

end CrashDump
