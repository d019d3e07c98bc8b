import CrashDump.Proofs.RecordRuns

/-! # Bytes held by an image

What is written into an image is found there again: a word, a record, a run of records. Bytes
that stand next to each other are held part by part, so nothing written elsewhere matters.
-/
namespace CrashDump

theorem uint32_toNat_ofNat {n : Nat} (h : n < 2 ^ 32) : (UInt32.ofNat n).toNat = n :=
  UInt32.toNat_ofNat_of_lt' h

theorem uint64_toNat_ofNat {n : Nat} (h : n < 2 ^ 64) : (UInt64.ofNat n).toNat = n :=
  UInt64.toNat_ofNat_of_lt' h

/-- Numbers below the surrogates are all characters. -/
theorem char_toNat_ofNat {n : Nat} (h : n < 0xD800) : (Char.ofNat n).toNat = n := by
  rw [Char.ofNat, dif_pos (Or.inl h)]
  rfl

@[simp] theorem length_bytesOfNat (width n : Nat) : (bytesOfNat width n).length = width := by
  induction width generalizing n with
  | zero => rfl
  | succ width ih => rw [bytesOfNat, List.length_cons, ih]

theorem bytesOfNat_cons (b : UInt8) (width n : Nat) :
    bytesOfNat (width + 1) (b.toNat + 256 * n) = b :: bytesOfNat width n := by
  have hb := b.toNat_lt
  have hq : (b.toNat + 256 * n) / 256 = n := by omega
  have hr : UInt8.ofNat (b.toNat + 256 * n) = b := by
    rw [← UInt8.toNat_inj, UInt8.toNat_ofNat']
    omega
  rw [bytesOfNat, hq, hr]

theorem length_flatMap_of_length {ι : Type} {f : ι → List UInt8} {n : Nat}
    (hn : ∀ x, (f x).length = n) (zs : List ι) : (zs.flatMap f).length = n * zs.length := by
  induction zs with
  | nil => rfl
  | cons z zs ih =>
    rw [List.flatMap_cons, List.length_append, hn, ih, List.length_cons, Nat.mul_succ,
      Nat.add_comm]

namespace Image

/-- The bytes stand in the image from an offset on. -/
def Holds (d : Image) (off : Nat) (bs : List UInt8) : Prop :=
  ∃ before after, d.bytes = before ++ (bs ++ after) ∧ before.length = off

theorem holds_toArray (bs : List UInt8) : Holds ⟨bs.toArray⟩ 0 bs :=
  ⟨[], [], by rw [bytes, List.append_nil, List.nil_append], rfl⟩

theorem length_bytes (d : Image) : d.bytes.length = d.size := rfl

theorem byteAt_of_lt {d : Image} {i : Nat} (h : i < d.bytes.length) : d.byteAt i = d.bytes[i] :=
  dif_pos (c := i < d.size) h

theorem bytes_slice (d : Image) (off n : Nat) :
    (d.slice off n).bytes = (d.bytes.drop off).take n := by
  rw [slice, bytes, ByteArray.data_extract, Array.toList_extract, List.extract_eq_take_drop,
    Nat.add_sub_cancel_left]
  rfl

theorem getD_bytes (d : Image) (i : Nat) : d.bytes.getD i 0 = d.byteAt i := by
  rw [List.getD_eq_getElem?_getD]
  by_cases h : i < d.bytes.length
  · rw [byteAt_of_lt h, List.getElem?_eq_getElem h, Option.getD_some]
  · have hz : d.byteAt i = 0 := dif_neg h
    rw [hz, List.getElem?_eq_none (Nat.le_of_not_lt h), Option.getD_none]

namespace Holds
variable {d : Image} {off : Nat} {bs xs ys : List UInt8}

theorem left (h : d.Holds off (xs ++ ys)) : d.Holds off xs := by
  obtain ⟨before, after, hd, hb⟩ := h
  exact ⟨before, ys ++ after, by rw [hd, List.append_assoc], hb⟩

theorem right (h : d.Holds off (xs ++ ys)) : d.Holds (off + xs.length) ys := by
  obtain ⟨before, after, hd, hb⟩ := h
  exact ⟨before ++ xs, after, by rw [hd, List.append_assoc, List.append_assoc],
    by rw [List.length_append, hb]⟩

theorem fits (h : d.Holds off bs) : d.Fits off bs.length := by
  obtain ⟨before, after, hd, rfl⟩ := h
  have hl := congrArg List.length hd
  simp only [length_bytes, List.length_append] at hl
  omega

theorem byteAt {b : UInt8} (h : d.Holds off (b :: bs)) : d.byteAt off = b := by
  obtain ⟨before, after, hd, rfl⟩ := h
  have hl : before.length < d.bytes.length := by simp [hd]
  rw [byteAt_of_lt hl]
  simp [hd]

theorem slice (h : d.Holds off bs) : (d.slice off bs.length).bytes = bs := by
  obtain ⟨before, after, hd, rfl⟩ := h
  rw [bytes_slice, hd, List.drop_left, List.take_left]

theorem natAt {width n : Nat} (h : d.Holds off (bytesOfNat width n)) (hn : n < 256 ^ width) :
    d.natAt off width = n := by
  induction width generalizing off n with
  | zero =>
    rw [Nat.pow_zero] at hn
    rw [Image.natAt]
    omega
  | succ width ih =>
    have hr : d.Holds (off + 1) (bytesOfNat width (n / 256)) := by
      rw [bytesOfNat, ← List.singleton_append] at h
      exact h.right
    have hn' : n / 256 < 256 ^ width := by
      rw [Nat.pow_succ] at hn
      omega
    rw [Image.natAt, byteAt h, UInt8.toNat_ofNat', ih hr hn']
    exact Nat.mod_add_div n 256

/-- Of parts of one size, each is held at its multiple of that size. -/
theorem getElem_flatMap {ι : Type} {f : ι → List UInt8} {n : Nat} (hn : ∀ x, (f x).length = n)
    {zs : List ι} (h : d.Holds off (zs.flatMap f)) {i : Nat} (hi : i < zs.length) :
    d.Holds (off + n * i) (f zs[i]) := by
  induction zs generalizing off i with
  | nil => exact absurd hi (Nat.not_lt_zero i)
  | cons z zs ih =>
    rw [List.flatMap_cons] at h
    cases i with
    | zero => exact h.left
    | succ i =>
      have hr := ih h.right (Nat.lt_of_succ_lt_succ hi)
      rw [hn, Nat.add_assoc, Nat.add_comm n, ← Nat.mul_succ] at hr
      exact hr

end Holds

end Image

namespace Layout

@[simp] theorem length_write (l : Layout) (v : l.Value) : (l.write v).length = l.size := by
  induction l with
  | words count =>
    rw [write, length_flatMap_of_length fun w : UInt64 => length_bytesOfNat 8 w.toNat,
      Vector.length_toList, size]
  | pair a b iha ihb => rw [write, List.length_append, iha, ihb, size]
  | _ => simp [write, size]

/-- What remains of a value in a layout: a bit set loses its unknown bits. -/
def keep : (l : Layout) → l.Value → l.Value
  | bits known, v => v &&& known
  | pair a b, v => (keep a v.1, keep b v.2)
  | u8, v | u16, v | u32, v | u64, v | words _, v | gap _, v => v

theorem read_of_holds {d : Image} {off : Nat} (l : Layout) {v : l.Value}
    (h : d.Holds off (l.write v)) : l.read d off = l.keep v := by
  induction l generalizing off with
  | u8 => exact h.byteAt
  | u16 =>
    rw [read, keep, Image.Holds.natAt h (UInt16.toNat_lt v), UInt16.ofNat_toNat]
  | u32 =>
    rw [read, keep, Image.Holds.natAt h (UInt32.toNat_lt v), UInt32.ofNat_toNat]
  | u64 =>
    rw [read, keep, Image.Holds.natAt h (UInt64.toNat_lt v), UInt64.ofNat_toNat]
  | bits known =>
    rw [read, keep, Image.Holds.natAt h (UInt64.toNat_lt v), UInt64.ofNat_toNat]
  | words count =>
    refine Vector.ext ?_
    intro i hi
    have hl : i < v.toList.length := by simpa using hi
    have hw := h.getElem_flatMap (fun w : UInt64 => length_bytesOfNat 8 w.toNat) hl
    rw [read, keep, Vector.getElem_ofFn, hw.natAt (UInt64.toNat_lt _), UInt64.ofNat_toNat,
      Vector.getElem_toList]
  | gap size => rfl
  | pair a b iha ihb =>
    rw [write] at h
    have hb := h.right
    rw [length_write] at hb
    rw [read, keep, iha h.left, ihb hb]

end Layout

namespace Record
variable {α : Type} [Record α] {d : Image} {off : Nat}

@[simp] theorem length_write (r : α) : (write r).length = size α := Layout.length_write _ _

/-- A record all of which is written and read back. -/
class Lossless (α : Type) [Record α] : Prop where
  ofValue_keep : ∀ r : α, ofValue ((layout α).keep (toValue r)) = r

instance : Lossless DirectoryEntry := ⟨fun _ => rfl⟩
instance : Lossless Thread := ⟨fun _ => rfl⟩
instance : Lossless ModuleRecord := ⟨fun _ => rfl⟩
instance : Lossless MemoryRange := ⟨fun _ => rfl⟩
instance : Lossless MemoryRange64 := ⟨fun _ => rfl⟩
instance : Lossless Memory64Header := ⟨fun _ => rfl⟩
instance : Lossless RegionListHeader := ⟨fun _ => rfl⟩
instance : Lossless Region := ⟨fun _ => rfl⟩
instance : Lossless HandleListHeader := ⟨fun _ => rfl⟩
instance : Lossless HandleRecord := ⟨fun _ => rfl⟩
instance : Lossless SystemRecord := ⟨fun _ => rfl⟩
instance : Lossless ExceptionInfo := ⟨fun _ => rfl⟩
instance : Lossless MiscInfo := ⟨fun _ => rfl⟩

theorem readAt_of_holds {r : α} (h : d.Holds off (write r)) :
    readAt d off = ofValue ((layout α).keep (toValue r)) := by
  rw [readAt, Layout.read_of_holds _ h]

theorem readAt_eq_of_holds [Lossless α] {r : α} (h : d.Holds off (write r)) :
    readAt d off = r := by
  rw [readAt_of_holds h, Lossless.ofValue_keep]

theorem run_of_holds [Lossless α] {rs : List α} (h : d.Holds off (rs.flatMap write)) :
    run α d off rs.length = rs := by
  refine List.ext_getElem (by rw [length_run]) ?_
  intro i _ hi
  simp only [run, List.getElem_map, List.getElem_range]
  exact readAt_eq_of_holds (h.getElem_flatMap length_write hi)

end Record

/-- A header that is held is read back if it has no flags but known ones. -/
theorem Header.readAt_of_holds {d : Image} {off : Nat} {x : Header}
    (h : d.Holds off (Record.write x))
    (hf : x.flags &&& .ofNat Codes.contents.union = x.flags) : Record.readAt d off = x := by
  have hk : Record.ofValue ((Record.layout Header).keep (Record.toValue x)) =
      { x with flags := x.flags &&& .ofNat Codes.contents.union } := rfl
  rw [Record.readAt_of_holds h, hk, hf]

end CrashDump
