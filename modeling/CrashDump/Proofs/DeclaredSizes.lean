import CrashDump.Proofs.ListCounts
import CrashDump.Proofs.RecordBytes
import CrashDump.Proofs.SlicedRecords

/-! # Declared sizes

A stream of open handles declares how far in its descriptors begin and how far they are apart. Both
numbers are read and neither is looked at: descriptors are taken sixteen bytes in and thirty-two
bytes apart. So they are those that the stream means if it declares just that. For any other sizes
there is a dump that parses all the same, and whose handles are taken from elsewhere.
-/
namespace CrashDump

/-! ## Bytes told by a record -/

namespace Image
variable {d e : Image} {off off' : Nat}

/-- Bytes that an image ends with are followed by zeros. -/
theorem Holds.byteAt_of_size {bs : List UInt8} (h : d.Holds off bs) (hs : d.size = off + bs.length)
    (i : Nat) : d.byteAt (off + i) = bs.getD i 0 := by
  by_cases hi : i < bs.length
  · obtain ⟨before, after, hd, rfl⟩ := h
    have hl : before.length + i < d.bytes.length := by rw [length_bytes]; omega
    rw [byteAt_of_lt hl, List.getD_eq_getElem?_getD, List.getElem?_eq_getElem hi, Option.getD_some]
    simp only [hd, List.getElem_append_right (Nat.le_add_right _ _), Nat.add_sub_cancel_left,
      List.getElem_append_left hi]
  · have hl : ¬ off + i < d.size := by omega
    rw [Image.byteAt, dif_neg hl, List.getD_eq_getElem?_getD,
      List.getElem?_eq_none (Nat.le_of_not_lt hi), Option.getD_none]

end Image

theorem HandleRecord.same_of_readAt {d e : Image} {off off' : Nat}
    (h : (Record.readAt d off : HandleRecord) = Record.readAt e off') :
    d.Same off e off' 32 := by
  have hm : (Record.layout HandleRecord).mask = List.replicate 32 255 := rfl
  have hv : (Record.layout HandleRecord).read d off = (Record.layout HandleRecord).read e off' :=
    congrArg Record.toValue h
  rw [Layout.read_eq_iff_masked, hm, Image.masked_ones_eq_iff] at hv
  exact hv

namespace Dump
variable {d : Image} {r : Nat}

/-! ## Places of handles -/

/-- The handles of the stream at an offset. -/
def handlesAt (d : Image) (r : Nat) : List Handle :=
  (List.range (min (d.natAt (r + 8) 4) ((d.size - r - 16) / 32))).map fun i =>
    (Record.ofSlice HandleRecord d (r + 16 + 32 * i)).named d

/-- How long the header of a stream of handles is said to be. -/
def declaredHead (d : Image) (r : Nat) : Nat := d.natAt r 4

/-- How long each of its descriptors is said to be. -/
def declaredEach (d : Image) (r : Nat) : Nat := d.natAt (r + 4) 4

/-- Each handle of the stream at an offset stands where it does if descriptors of `each` bytes
follow a header of `head` bytes. -/
def TakenFrom (d : Image) (r head each : Nat) : Prop :=
  ∀ i (hi : i < (handlesAt d r).length), d.Fits (r + head + each * i) 32 ∧
    (handlesAt d r)[i] = (Record.ofSlice HandleRecord d (r + head + each * i)).named d

theorem length_handlesAt (d : Image) (r : Nat) :
    (handlesAt d r).length = min (d.natAt (r + 8) 4) ((d.size - r - 16) / 32) := by
  rw [handlesAt, List.length_map, List.length_range]

theorem getElem_handlesAt {i : Nat} (hi : i < (handlesAt d r).length) :
    (handlesAt d r)[i] = (Record.ofSlice HandleRecord d (r + 16 + 32 * i)).named d := by
  simp only [handlesAt, List.getElem_map, List.getElem_range]

theorem takenFrom_fixed (d : Image) (r : Nat) : TakenFrom d r 16 32 := by
  intro i hi
  refine ⟨?_, getElem_handlesAt hi⟩
  rw [length_handlesAt] at hi
  rw [Image.Fits]
  omega

/-- A single descriptor stands right behind the header, whatever its size is said to be. -/
theorem takenFrom_of_length_le (h : (handlesAt d r).length ≤ 1) (each : Nat) :
    TakenFrom d r 16 each := by
  intro i hi
  obtain rfl : i = 0 := by omega
  exact takenFrom_fixed d r 0 hi

theorem named_eq_iff_same {p q : Nat} (hp : d.Fits p 32) (hq : d.Fits q 32) :
    (Record.ofSlice HandleRecord d p).named d = (Record.ofSlice HandleRecord d q).named d ↔
      d.Same p d q 32 := by
  rw [Record.ofSlice_eq hp, Record.ofSlice_eq hq]
  constructor
  · intro h
    have hr := congrArg Handle.record h
    rw [HandleRecord.named, HandleRecord.named] at hr
    exact HandleRecord.same_of_readAt hr
  · intro h
    rw [Record.readAt_same (α := HandleRecord) h]

/-- Handles stand at other places too just if the same bytes are there. -/
theorem takenFrom_iff_same {head each : Nat} : TakenFrom d r head each ↔
    ∀ i < (handlesAt d r).length, d.Fits (r + head + each * i) 32 ∧
      d.Same (r + 16 + 32 * i) d (r + head + each * i) 32 := by
  refine forall_congr' fun i => forall_congr' fun hi => and_congr_right fun hf => ?_
  rw [getElem_handlesAt hi]
  exact named_eq_iff_same (takenFrom_fixed d r i hi).1 hf

/-! ## Dumps of one stream of handles -/

theorem fits_handleList {e : DirectoryEntry} {payload : List UInt8} (h : 16 ≤ payload.length) :
    StreamKind.Fits (loneStream e payload) 44 .handleData := by
  rw [StreamKind.Fits, Image.Fits, size_loneStream]
  omega

theorem mem_tagged_loneStream {e : DirectoryEntry} {tag : Nat} (h : e.tag.toNat = tag)
    (payload : List UInt8) : e ∈ (inPlace (loneStream e payload)).tagged tag := by
  rw [tagged, directory_inPlace, directoryIn_loneStream, List.mem_filter]
  exact ⟨List.mem_singleton_self e, decide_eq_true h⟩

/-- A word of zeros and then `n` descriptors, of zeros too but for the `k`-th, all of whose bits are
set. -/
def markedBytes (n k : Nat) : List UInt8 :=
  (List.range (4 + 32 * max n (k + 1))).map fun i =>
    if 4 + 32 * k ≤ i ∧ i < 36 + 32 * k then 255 else 0

def markedEntry (n : Nat) : DirectoryEntry := ⟨12, ⟨.ofNat (16 + 32 * n), 44⟩⟩

/-- A dump that declares `n` descriptors, of some sizes. -/
def markedHandles (head each n k : Nat) : Image :=
  loneStream (markedEntry n) (bytesOfNat 4 head ++
    (bytesOfNat 4 each ++ (bytesOfNat 4 n ++ markedBytes n k)))

theorem length_markedBytes (n k : Nat) :
    (markedBytes n k).length = 4 + 32 * max n (k + 1) := by
  rw [markedBytes, List.length_map, List.length_range]

theorem getD_markedBytes (n k i : Nat) :
    (markedBytes n k).getD i 0 = if 4 + 32 * k ≤ i ∧ i < 36 + 32 * k then 255 else 0 := by
  unfold markedBytes
  rw [List.getD_eq_getElem?_getD, List.getElem?_map]
  by_cases hi : i < 4 + 32 * max n (k + 1)
  · rw [List.getElem?_range hi]
    rfl
  · have hl : (List.range (4 + 32 * max n (k + 1))).length ≤ i := by
      rw [List.length_range]
      exact Nat.le_of_not_lt hi
    rw [List.getElem?_eq_none hl, if_neg (by omega)]
    rfl

section MarkedHandles
variable (head each n k : Nat)

theorem holds_markedHandles : (markedHandles head each n k).Holds 44 (bytesOfNat 4 head ++
    (bytesOfNat 4 each ++ (bytesOfNat 4 n ++ markedBytes n k))) := holds_payload _ _

theorem size_markedHandles :
    (markedHandles head each n k).size = 60 + 32 * max n (k + 1) := by
  rw [markedHandles, size_loneStream]
  simp only [List.length_append, length_bytesOfNat, length_markedBytes]
  omega

/-- Beyond the sizes and the count, only the bytes of the marked descriptor are not zero. -/
theorem byteAt_markedHandles (i : Nat) : (markedHandles head each n k).byteAt (56 + i) =
    if 4 + 32 * k ≤ i ∧ i < 36 + 32 * k then 255 else 0 := by
  have hr := (holds_markedHandles head each n k).right.right.right
  simp only [length_bytesOfNat] at hr
  have hs : (markedHandles head each n k).size = 56 + (markedBytes n k).length := by
    rw [size_markedHandles, length_markedBytes]
    omega
  rw [hr.byteAt_of_size hs, getD_markedBytes]

/-- No sizes are turned down. -/
theorem parse_markedHandles (source : Source) :
    (parse source (markedHandles head each n k)).result =
      .ok (inPlace (markedHandles head each n k)) := by
  refine parse_eq_ok_iff.mpr ⟨wellFormed_loneStream (fits_handleList ?_), rfl⟩
  simp only [List.length_append, length_bytesOfNat, length_markedBytes]
  omega

theorem mem_tagged_markedHandles :
    markedEntry n ∈ (inPlace (markedHandles head each n k)).tagged 12 :=
  mem_tagged_loneStream rfl _

variable {head each n k}

theorem declaredHead_markedHandles (h : head < 2 ^ 32) :
    declaredHead (markedHandles head each n k) 44 = head :=
  (holds_markedHandles head each n k).left.natAt h

theorem declaredEach_markedHandles (h : each < 2 ^ 32) :
    declaredEach (markedHandles head each n k) 44 = each := by
  have hr := (holds_markedHandles head each n k).right.left
  rw [length_bytesOfNat] at hr
  exact hr.natAt h

theorem length_markedHandles (hn : n < 2 ^ 32) :
    (handlesAt (markedHandles head each n k) 44).length = n := by
  have hr := (holds_markedHandles head each n k).right.right.left
  simp only [length_bytesOfNat] at hr
  have hc : (markedHandles head each n k).natAt 52 4 = n := hr.natAt hn
  rw [length_handlesAt, hc, size_markedHandles]
  omega

/-- No other descriptor behind the start of the stream reads like the marked one. -/
theorem place_of_readAt_eq {p : Nat} (hp : 44 ≤ p)
    (h : (Record.readAt (markedHandles head each n k) p : HandleRecord) =
      Record.readAt (markedHandles head each n k) (60 + 32 * k)) : p = 60 + 32 * k := by
  -- All bytes of such a descriptor are set, so its first and its last one are the marked one's.
  have hbyte : ∀ i, p ≤ 56 + i → 56 + i < p + 32 → 4 + 32 * k ≤ i ∧ i < 36 + 32 * k := by
    intro i hl hu
    have hs := HandleRecord.same_of_readAt h (56 + i - p) (by omega)
    have hm : 60 + 32 * k + (56 + i - p) = 56 + (4 + 32 * k + (56 + i - p)) := by omega
    have hmark : 4 + 32 * k ≤ 4 + 32 * k + (56 + i - p) ∧
        4 + 32 * k + (56 + i - p) < 36 + 32 * k := by omega
    rw [Nat.add_sub_cancel' hl, hm, byteAt_markedHandles, byteAt_markedHandles, if_pos hmark] at hs
    by_contra hn
    rw [if_neg hn] at hs
    exact absurd hs (by decide)
  have hlast := hbyte (p + 31 - 56) (by omega) (by omega)
  have hfirst := hbyte (p - 56) (by omega) (by omega)
  omega

theorem eq_of_takenFrom_markedHandles {a b : Nat} (hn : n < 2 ^ 32) (hk : k < n)
    (h : TakenFrom (markedHandles head each n k) 44 a b) : a + b * k = 16 + 32 * k := by
  have hi : k < (handlesAt (markedHandles head each n k) 44).length := by
    rw [length_markedHandles hn]
    exact hk
  obtain ⟨hf, he⟩ := h k hi
  have hm := (takenFrom_fixed (markedHandles head each n k) 44 k hi).1
  rw [getElem_handlesAt hi] at he
  have hr := congrArg Handle.record he
  rw [HandleRecord.named, HandleRecord.named, Record.ofSlice_eq hm, Record.ofSlice_eq hf] at hr
  have hp := place_of_readAt_eq (by omega) hr.symm
  omega

end MarkedHandles

/-! ## What is declared and what is read -/

/-- In every dump, a stream that declares these sizes, and of which `n` handles are taken, has them
from where it says. -/
def SizesSuffice (head each n : Nat) : Prop :=
  ∀ source d m, (parse source d).result = .ok m → ∀ e ∈ m.tagged 12,
    declaredHead d e.offset = head → declaredEach d e.offset = each →
      (handlesAt d e.offset).length = n → TakenFrom d e.offset head each

theorem sizesSuffice_iff {head each n : Nat} (hh : head < 2 ^ 32) (he : each < 2 ^ 32)
    (hn : n < 2 ^ 32) : SizesSuffice head each n ↔ n = 0 ∨ head = 16 ∧ (n = 1 ∨ each = 32) := by
  constructor
  · intro h
    -- The marks in front and behind it settle both sizes.
    have hmark : ∀ k < n, head + each * k = 16 + 32 * k := by
      intro k hk
      exact eq_of_takenFrom_markedHandles hn hk (h .memory _ _
        (parse_markedHandles head each n k _) (markedEntry n) (mem_tagged_markedHandles head each n k)
        (declaredHead_markedHandles hh) (declaredEach_markedHandles he) (length_markedHandles hn))
    rcases Nat.eq_zero_or_pos n with h0 | hpos
    · exact .inl h0
    · have hhead := hmark 0 hpos
      rcases Nat.eq_or_lt_of_le hpos with h1 | h1
      · exact .inr ⟨by omega, .inl h1.symm⟩
      · have heach := hmark 1 h1
        exact .inr ⟨by omega, .inr (by omega)⟩
  · rintro h source d m - e - - - hl
    rcases h with rfl | ⟨rfl, rfl | rfl⟩
    · exact fun i hi => absurd hi (by omega)
    · exact takenFrom_of_length_le (Nat.le_of_eq hl) _
    · exact takenFrom_fixed d e.offset

/-- Where the handles of a dump are taken from, and when it is from where their stream says: if the
same bytes are there, and whatever the bytes if there are no handles, a single one behind a header of
the fixed size, or descriptors and a header of the fixed sizes. -/
structure HandlesTold (d : Image) (m : Dump) : Prop where
  handles : m.handles = (m.tagged 12).flatMap fun e => handlesAt d e.offset
  fixed : ∀ e ∈ m.tagged 12, TakenFrom d e.offset 16 32
  declared : ∀ e ∈ m.tagged 12,
    (TakenFrom d e.offset (declaredHead d e.offset) (declaredEach d e.offset) ↔
      ∀ i < (handlesAt d e.offset).length,
        d.Fits (e.offset + declaredHead d e.offset + declaredEach d e.offset * i) 32 ∧
          d.Same (e.offset + 16 + 32 * i) d
            (e.offset + declaredHead d e.offset + declaredEach d e.offset * i) 32)
  sizes : ∀ e ∈ m.tagged 12,
    (SizesSuffice (declaredHead d e.offset) (declaredEach d e.offset)
        (handlesAt d e.offset).length ↔
      (handlesAt d e.offset).length = 0 ∨ declaredHead d e.offset = 16 ∧
        ((handlesAt d e.offset).length = 1 ∨ declaredEach d e.offset = 32))

theorem parse_handlesTold {source : Source} {m : Dump} (h : (parse source d).result = .ok m) :
    m.HandlesTold d := by
  obtain ⟨hw, rfl⟩ := parse_eq_ok_iff.mp h
  constructor
  case handles => exact handles_sliced hw
  case fixed => exact fun e _ => takenFrom_fixed d e.offset
  case declared => exact fun e _ => takenFrom_iff_same
  case sizes =>
    intro e _
    have hn : (handlesAt d e.offset).length ≤ d.natAt (e.offset + 8) 4 := by
      rw [length_handlesAt]
      exact Nat.min_le_left _ _
    exact sizesSuffice_iff (d.natAt_lt _ 4) (d.natAt_lt _ 4)
      (Nat.lt_of_le_of_lt hn (d.natAt_lt _ 4))

def twoHandlesEntry : DirectoryEntry := ⟨12, ⟨96, 44⟩⟩

/-- Two descriptors, of the handles 4 and 8, with something behind each. -/
def twoHandles (each : UInt32) (behind : List UInt8) : Image :=
  loneStream twoHandlesEntry (Record.pack (⟨16, each, 2, 0⟩ : HandleListHeader) ++
    Record.pack (⟨4, 0, 0, 0, 0x1F0003, 2, 3⟩ : HandleRecord) ++ behind ++
    Record.pack (⟨8, 0, 0, 0, 0x1F0003, 2, 3⟩ : HandleRecord) ++ behind)

/-- Descriptors of forty bytes, the last eight of them more than is known of. -/
def wideHandles : Image := twoHandles 40 (.replicate 8 0)

theorem twoHandles_layout :
    (inPlace (twoHandles 32 [])).handles.map (·.record.handle) = [4, 8] ∧
      (inPlace wideHandles).handles.map (·.record.handle) = [4, 0] ∧
      noticesIn wideHandles = [] ∧ declaredHead wideHandles 44 = 16 ∧
      declaredEach wideHandles 44 = 40 ∧ (handlesAt wideHandles 44).length = 2 ∧
      (Record.ofSlice HandleRecord wideHandles 92).handle = 0 ∧
      (Record.ofSlice HandleRecord wideHandles 100).handle = 8 := by decide +kernel

theorem wellFormed_twoHandles (each : UInt32) (behind : List UInt8) :
    WellFormed (twoHandles each behind) := by
  refine wellFormed_loneStream (fits_handleList ?_)
  simp only [List.length_append, Record.length_pack, Record.size_handleListHeader]
  omega

theorem twoHandles_handlesTold : ∃ m, (parse .memory (twoHandles 32 [])).result = .ok m ∧
    m.handles.map (·.record.handle) = [4, 8] ∧ m.HandlesTold (twoHandles 32 []) := by
  have hm : (parse .memory (twoHandles 32 [])).result = .ok (inPlace (twoHandles 32 [])) :=
    parse_eq_ok_iff.mpr ⟨wellFormed_twoHandles 32 [], rfl⟩
  exact ⟨_, hm, twoHandles_layout.1, parse_handlesTold hm⟩

/-- The second handle is read from the last bytes of the first descriptor on, and nothing is said
of it. -/
theorem wideHandles_not_takenFrom : ∃ m, parse .memory wideHandles = ⟨[], .ok m⟩ ∧
    m.handles.map (·.record.handle) = [4, 0] ∧
    ∃ e ∈ m.tagged 12, declaredHead wideHandles e.offset = 16 ∧
      declaredEach wideHandles e.offset = 40 ∧ ¬ TakenFrom wideHandles e.offset 16 40 := by
  obtain ⟨-, hhandles, hquiet, hhead, heach, hlength, hread, hmeant⟩ := twoHandles_layout
  have hp := parse_of_wellFormed .memory (wellFormed_twoHandles 40 (.replicate 8 0))
  refine ⟨inPlace wideHandles, ?_, hhandles, twoHandlesEntry, mem_tagged_loneStream rfl _, hhead,
    heach, ?_⟩
  · rw [← hquiet]
    exact hp
  · intro h
    have hi : 1 < (handlesAt wideHandles 44).length := by
      rw [hlength]
      exact Nat.one_lt_two
    have he := congrArg Handle.record ((getElem_handlesAt hi).symm.trans (h 1 hi).2)
    have hx : (Record.ofSlice HandleRecord wideHandles 92).handle =
        (Record.ofSlice HandleRecord wideHandles 100).handle := congrArg HandleRecord.handle he
    rw [hread, hmeant] at hx
    exact absurd hx (by decide)

end Dump

end CrashDump
