import CrashDump.Format.Catalog
import CrashDump.Proofs.CursorAccess
import CrashDump.Proofs.HeldBytes

/-! # Records and their bytes

A record that is read and written back gives the bytes it was read from, but for the gaps of its
layout, which come out as zeros, and the bits of a flag set that no flag stands for. So these are
all that reading loses, and images with the same kept bits hold the same record.
-/
namespace CrashDump

/-! ## Kept bits -/

namespace Image
variable {d e : Image} {off off' : Nat}

theorem and_ones (b : UInt8) : b &&& 255 = b := UInt8.and_neg_one

/-- The bytes from an offset on, each with only those bits that its mask keeps. -/
def masked (d : Image) (off : Nat) (mask : List UInt8) : List UInt8 :=
  mask.mapIdx fun i bits => d.byteAt (off + i) &&& bits

theorem masked_cons (d : Image) (off : Nat) (bits : UInt8) (mask : List UInt8) :
    d.masked off (bits :: mask) = (d.byteAt off &&& bits) :: d.masked (off + 1) mask := by
  rw [masked, List.mapIdx_cons, masked, Nat.add_zero]
  congr 2
  funext i
  rw [Nat.add_assoc, Nat.add_comm 1]

theorem masked_append (d : Image) (off : Nat) (xs ys : List UInt8) :
    d.masked off (xs ++ ys) = d.masked off xs ++ d.masked (off + xs.length) ys := by
  rw [masked, List.mapIdx_append, masked, masked]
  congr 2
  funext i
  rw [Nat.add_assoc, Nat.add_comm xs.length]

theorem masked_map_range (d : Image) (off n : Nat) (kept : Nat → UInt8) :
    d.masked off ((List.range n).map kept) =
      (List.range n).map fun i => d.byteAt (off + i) &&& kept i := by
  refine List.ext_getElem (by simp [masked]) ?_
  intro i hi hi'
  simp [masked]

theorem masked_zeros (d : Image) (off n : Nat) :
    d.masked off (List.replicate n 0) = List.replicate n 0 := by
  induction n generalizing off with
  | zero => rfl
  | succ n ih => rw [List.replicate_succ, masked_cons, ih, UInt8.and_zero]

theorem natAt_succ_div (d : Image) (off width : Nat) :
    d.natAt off (width + 1) / 256 = d.natAt (off + 1) width := by
  have hb := (d.byteAt off).toNat_lt
  rw [natAt]
  omega

theorem ofNat_natAt_succ (d : Image) (off width : Nat) :
    UInt8.ofNat (d.natAt off (width + 1)) = d.byteAt off := by
  have hb := (d.byteAt off).toNat_lt
  rw [← UInt8.toNat_inj, UInt8.toNat_ofNat', natAt]
  omega

/-- A word keeps what a mask of the same width keeps of its bytes. -/
theorem masked_bytesOfNat (d : Image) (off width known : Nat) :
    d.masked off (bytesOfNat width known) = bytesOfNat width (d.natAt off width &&& known) := by
  induction width generalizing off known with
  | zero => rfl
  | succ width ih =>
    have hq : (d.natAt off (width + 1) &&& known) / 256 =
        d.natAt (off + 1) width &&& known / 256 := by
      rw [← natAt_succ_div]
      exact Nat.and_div_two_pow (n := 8)
    rw [bytesOfNat, masked_cons, ih, bytesOfNat, hq, UInt8.ofNat_and, ofNat_natAt_succ]

theorem masked_ones (d : Image) (off width : Nat) :
    d.masked off (List.replicate width 255) = bytesOfNat width (d.natAt off width) := by
  induction width generalizing off with
  | zero => rfl
  | succ width ih =>
    rw [List.replicate_succ, masked_cons, ih, bytesOfNat, natAt_succ_div, ofNat_natAt_succ,
      and_ones]

theorem masked_words (d : Image) (off count : Nat) :
    d.masked off (List.replicate (8 * count) 255) =
      (List.range count).flatMap fun i => bytesOfNat 8 (d.natAt (off + 8 * i) 8) := by
  induction count with
  | zero => rfl
  | succ count ih =>
    rw [Nat.mul_succ, ← List.replicate_append_replicate, masked_append, ih, List.length_replicate,
      masked_ones, List.range_succ, List.flatMap_append, List.flatMap_singleton]

/-- Where all bits are kept, the bytes are the same. -/
theorem masked_ones_eq_iff (n : Nat) :
    d.masked off (List.replicate n 255) = e.masked off' (List.replicate n 255) ↔
      d.Same off e off' n := by
  have hr : List.replicate n (255 : UInt8) = (List.range n).map fun _ => 255 := by
    rw [List.map_const', List.length_range]
  rw [hr, masked_map_range, masked_map_range, List.map_inj_left]
  simp only [List.mem_range, and_ones]
  exact Iff.rfl

end Image

namespace Layout
variable {d e : Image} {off off' : Nat}

@[simp] theorem length_mask (l : Layout) : l.mask.length = l.size := by
  induction l with
  | pair a b iha ihb => rw [mask, List.length_append, iha, ihb, size]
  | _ => simp [mask, size]

/-- What was read is written back as the bytes that stood there, as far as the layout keeps them. -/
theorem write_read (l : Layout) (d : Image) (off : Nat) :
    l.write (l.read d off) = d.masked off l.mask := by
  induction l generalizing off with
  | u8 =>
    rw [mask, Image.masked_cons, Image.and_ones]
    rfl
  | u16 =>
    rw [write, read, mask, Image.masked_ones, UInt16.toNat_ofNat_of_lt' (d.natAt_lt off 2)]
  | u32 => rw [write, read, mask, Image.masked_ones, d.toNat_ofNat_natAt4]
  | u64 => rw [write, read, mask, Image.masked_ones, d.toNat_ofNat_natAt8]
  | bits known =>
    rw [write, read, mask, Image.masked_bytesOfNat, UInt64.toNat_and, d.toNat_ofNat_natAt8]
  | words count =>
    have hl : (Layout.read d off (words count)).toList =
        (List.range count).map fun i => UInt64.ofNat (d.natAt (off + 8 * i) 8) := by
      refine List.ext_getElem (by simp) ?_
      intro i _ _
      simp [read]
    simp only [write, hl, mask, Image.masked_words, List.flatMap_map, Image.toNat_ofNat_natAt8]
  | gap size => rw [write, mask, Image.masked_zeros]
  | pair a b iha ihb => rw [write, read, mask, Image.masked_append, iha, ihb, length_mask]

/-- What was read has nothing that its layout does not keep. -/
theorem keep_read (l : Layout) (d : Image) (off : Nat) : l.keep (l.read d off) = l.read d off := by
  induction l generalizing off with
  | bits known => rw [keep, read, UInt64.and_assoc, UInt64.and_self]
  | pair a b iha ihb => rw [read, keep, iha, ihb]
  | _ => rfl

/-- Where nothing but bits that are not kept differs, the same is read, and only there. -/
theorem read_eq_iff_masked (l : Layout) :
    l.read d off = l.read e off' ↔ d.masked off l.mask = e.masked off' l.mask := by
  rw [← write_read, ← write_read]
  constructor
  · intro h
    rw [h]
  · intro h
    have hd := read_of_holds l (Image.holds_toArray (l.write (l.read d off)))
    have he := read_of_holds l (Image.holds_toArray (l.write (l.read e off')))
    rw [keep_read] at hd he
    rw [← hd, ← he, h]

end Layout

/-! ## Kinds of records -/

namespace RecordKind

instance (k : RecordKind) : Record.Readable k.Carrier := by
  cases k <;> exact ⟨by decide, by decide⟩

/-- Where a record has bytes that stand for nothing: their offset and how many they are. -/
def gaps : RecordKind → List (Nat × Nat)
  | exceptionRecord => [(28, 4)]
  | exceptionInfo => [(4, 4), (36, 4)]
  | region => [(20, 4), (44, 4)]
  | _ => []

/-- The bits that are kept of the byte at an offset of a record: none in a gap, those of named flags
in the flags of a header, and all elsewhere. -/
def kept (k : RecordKind) (i : Nat) : UInt8 :=
  if k.gaps.any fun g => g.1 ≤ i ∧ i < g.1 + g.2 then 0
  else if k = header ∧ 24 ≤ i then .ofNat (Codes.contents.union / 256 ^ (i - 24))
  else 255

theorem mask_eq (k : RecordKind) :
    (Record.layout k.Carrier).mask = (List.range k.size).map k.kept := by
  cases k <;> rfl

theorem toValue_ofValue (k : RecordKind) (v : (Record.layout k.Carrier).Value) :
    Record.toValue (Record.ofValue v : k.Carrier) = v := by
  cases k <;> rfl

variable {k : RecordKind} {b e : Image}

theorem write_readAt (k : RecordKind) (b : Image) :
    Record.write (Record.readAt b 0 : k.Carrier) =
      (List.range k.size).map fun i => b.byteAt i &&& k.kept i := by
  rw [Record.write, Record.readAt, toValue_ofValue, Layout.write_read, mask_eq,
    Image.masked_map_range]
  simp only [Nat.zero_add]

theorem readAt_eq_iff (k : RecordKind) (e b : Image) :
    (Record.readAt e 0 : k.Carrier) = Record.readAt b 0 ↔
      ∀ i < k.size, e.byteAt i &&& k.kept i = b.byteAt i &&& k.kept i := by
  have hv : (Record.readAt e 0 : k.Carrier) = Record.readAt b 0 ↔
      (Record.layout k.Carrier).read e 0 = (Record.layout k.Carrier).read b 0 := by
    constructor
    · intro h
      have ht := congrArg Record.toValue h
      rwa [Record.readAt, Record.readAt, toValue_ofValue, toValue_ofValue] at ht
    · exact congrArg Record.ofValue
  rw [hv, Layout.read_eq_iff_masked, mask_eq, Image.masked_map_range, Image.masked_map_range]
  simp only [Nat.zero_add, List.map_inj_left, List.mem_range]

theorem readRecord_start (k : RecordKind) (s : Source) (h : k.size ≤ b.size) :
    Cursor.readRecord k.Carrier (Cursor.start b s) =
      .ok (Record.readAt b 0) ⟨b, some k.size, s⟩ := by
  have hf : b.Fits 0 (Record.size k.Carrier) := by
    rw [Image.Fits, Nat.zero_add]
    exact h
  have hr := Cursor.readRecord_of_fits (s := s) hf
  rwa [Nat.zero_add] at hr

end RecordKind

/-- The vendor words and the words beside them make up the two feature words. -/
theorem SystemRecord.words_of_features (r : SystemRecord) : ∃ v₀ v₁ v₂, r.vendorId = [v₀, v₁, v₂] ∧
    v₀ + 2 ^ 32 * v₁ = (r.features.get 0).toNat ∧
    v₂ + 2 ^ 32 * r.versionInformation = (r.features.get 1).toNat ∧
    r.featureInformation = v₀ ∧ r.amdFeatures = v₁ :=
  ⟨_, _, _, rfl, Nat.mod_add_div _ _, Nat.mod_add_div _ _, rfl, rfl⟩

/-- A record of any kind is read from the start of an image that is long enough. Written back it
gives the bytes it took up, as far as they are kept, and it is read from another image just if that
has the same kept bits. -/
theorem Record.read_lossless (k : RecordKind) (s : Source) {b : Image} (h : k.size ≤ b.size) :
    (∃ r : k.Carrier,
      Cursor.readRecord k.Carrier (Cursor.start b s) = .ok r ⟨b, some k.size, s⟩ ∧
      Record.write r = ((List.range k.size).map fun i => b.byteAt i &&& k.kept i) ∧
      ∀ e : Image, k.size ≤ e.size →
        (Cursor.readRecord k.Carrier (Cursor.start e s) = .ok r ⟨e, some k.size, s⟩ ↔
          ∀ i < k.size, e.byteAt i &&& k.kept i = b.byteAt i &&& k.kept i)) ∧
      ∀ x : SystemRecord, ∃ v₀ v₁ v₂, x.vendorId = [v₀, v₁, v₂] ∧
        v₀ + 2 ^ 32 * v₁ = (x.features.get 0).toNat ∧
        v₂ + 2 ^ 32 * x.versionInformation = (x.features.get 1).toNat ∧
        x.featureInformation = v₀ ∧ x.amdFeatures = v₁ := by
  refine ⟨⟨Record.readAt b 0, k.readRecord_start s h, k.write_readAt b, ?_⟩,
    SystemRecord.words_of_features⟩
  intro e he
  rw [k.readRecord_start s he, EStateM.Result.ok.injEq, and_iff_left rfl]
  exact k.readAt_eq_iff e b

/-- Of a region whose bytes are all set, the two gaps come out as zeros. -/
theorem Record.setRegion_lossless :
    RecordKind.region.size ≤ (⟨(List.replicate 50 255).toArray⟩ : Image).size ∧
    ∃ r : Region, Cursor.readRecord Region
          (Cursor.start ⟨(List.replicate 50 255).toArray⟩ .memory) =
        .ok r ⟨⟨(List.replicate 50 255).toArray⟩, some 48, .memory⟩ ∧
      Record.write r = List.replicate 20 255 ++ List.replicate 4 0 ++ List.replicate 20 255 ++
        List.replicate 4 0 := by
  have h : RecordKind.region.size ≤ (⟨(List.replicate 50 255).toArray⟩ : Image).size := by decide
  obtain ⟨⟨r, hr, hw, -⟩, -⟩ := Record.read_lossless .region .memory h
  refine ⟨h, r, hr, hw.trans ?_⟩
  decide

end CrashDump
