import CrashDump.Proofs.Acceptance
import CrashDump.Proofs.PackedRecords

/-! # The address space

The segments of a dump are those of its memory streams in directory order. A stream gives one
segment for each descriptor that lies in the image and is not empty; where descriptors have no
place of their own, sizes add up to it, over all natural numbers and without wrapping around.
-/
namespace CrashDump

namespace Segment

/-- Each segment begins in the image where the one before it ends. -/
def BackToBack (ss : List Segment) : Prop := ∀ s t, [s, t] <:+: ss → t.file = s.file + s.size

theorem file_of_head?_packed {rva : Nat} {rs : List MemoryRange64} {s : Segment}
    (h : (packed rva rs).head? = some s) : s.file = rva := by
  induction rs with
  | nil => nomatch h
  | cons r rs ih =>
    rw [packed] at h
    split at h
    · exact ih h
    · cases h
      rfl

theorem packed_backToBack (rva : Nat) (rs : List MemoryRange64) : BackToBack (packed rva rs) := by
  induction rs generalizing rva with
  | nil =>
    intro s t h
    simp [packed] at h
  | cons r rs ih =>
    rw [packed]
    split
    · exact ih rva
    · intro s t h
      rcases List.infix_cons_iff.mp h with hp | hi
      · obtain ⟨rfl, ht⟩ := List.cons_prefix_cons.mp hp
        exact file_of_head?_packed (List.singleton_prefix_iff_head?_eq_some.mp ht)
      · exact ih _ s t hi

theorem packed_append (rva : Nat) (rs ss : List MemoryRange64) :
    packed rva (rs ++ ss) =
      packed rva rs ++ packed (rva + (rs.map (·.dataSize.toNat)).sum) ss := by
  induction rs generalizing rva with
  | nil => rfl
  | cons r rs ih =>
    rw [List.cons_append, packed, packed, List.map_cons, List.sum_cons, ← Nat.add_assoc]
    split
    · next h =>
      rw [ih, h]
      rfl
    · rw [ih, List.cons_append]

/-- A range stands where the sizes of all ranges before it, the empty ones too, add up to. -/
theorem packed_map_range (rva : Nat) (g : Nat → MemoryRange64) (count : Nat) :
    packed rva ((List.range count).map g) =
      ((List.range count).filter fun j => (g j).dataSize.toNat ≠ 0).map fun j =>
        ⟨(g j).start.toNat, (g j).dataSize.toNat,
          (rva + ((List.range j).map fun i => (g i).dataSize.toNat).sum : Nat)⟩ := by
  -- From the right, since the place of a range sums the sizes of those before it.
  induction count with
  | zero => rfl
  | succ count ih =>
    have hz : (g count).dataSize = 0 ↔ (g count).dataSize.toNat = 0 := by
      rw [← UInt64.toNat_inj]
      rfl
    rw [List.range_succ, List.map_append, packed_append, ih, List.filter_append, List.map_append,
      List.map_map]
    congr 1
    by_cases h : (g count).dataSize.toNat = 0
    · simp [packed, hz.mpr h]
    · simp [packed, h, mt hz.mp h, Function.comp_def]

theorem placed_map_range (g : Nat → MemoryRange) (count : Nat) :
    placed ((List.range count).map g) =
      ((List.range count).filter fun j => (g j).memory.dataSize.toNat ≠ 0).map fun j =>
        ⟨(g j).start.toNat, (g j).memory.dataSize.toNat, (g j).memory.rva.toNat⟩ := by
  have hz : ∀ j, (g j).memory.dataSize = 0 ↔ (g j).memory.dataSize.toNat = 0 := by
    intro j
    rw [← UInt32.toNat_inj]
    rfl
  rw [placed, List.filter_map, List.map_map]
  simp [Function.comp_def, hz]

end Segment

namespace Dump

/-- The segments of the stream at an offset whose ranges are stored back to back. -/
def packedAt (d : Image) (r : Nat) : List Segment :=
  let count := min (min (d.natAt r 8) 10000) ((d.size - r - 16) / 16)
  let start j := d.natAt (r + 16 + 16 * j) 8
  let size j := d.natAt (r + 16 + 16 * j + 8) 8
  ((List.range count).filter fun j => size j ≠ 0).map fun j =>
    ⟨start j, size j, (d.natAt (r + 8) 8 + ((List.range j).map size).sum : Nat)⟩

/-- The segments of the stream at an offset whose ranges each have a place. -/
def placedAt (d : Image) (r : Nat) : List Segment :=
  let count := min (min (d.natAt r 4) 10000) ((d.size - r - 4) / 16)
  let start j := d.natAt (r + 4 + 16 * j) 8
  let size j := d.natAt (r + 4 + 16 * j + 8) 4
  let rva j := d.natAt (r + 4 + 16 * j + 12) 4
  ((List.range count).filter fun j => size j ≠ 0).map fun j => ⟨start j, size j, rva j⟩

def segmentsOf (d : Image) (e : DirectoryEntry) : List Segment :=
  match e.tag.toNat with
  | 9 => packedAt d e.offset
  | 5 => placedAt d e.offset
  | _ => []

variable {d : Image} {r : Nat}

theorem memory64List_inPlace :
    (Decoded.inPlace d r .memory64List).stream = .segments (packedAt d r) := by
  simp only [Decoded.inPlace, Decoded.ofRun, Record.run, Segment.packed_map_range,
    MemoryRange64.toNat_start, MemoryRange64.toNat_dataSize, Record.runLength,
    Record.size_memoryRange64, packedAt, listLimit, Nat.sub_add_eq]

theorem memoryList_inPlace :
    (Decoded.inPlace d r .memoryList).stream = .segments (placedAt d r) := by
  simp only [Decoded.inPlace, Decoded.ofRun, Record.run, Segment.placed_map_range,
    MemoryRange.toNat_start, MemoryRange.toNat_dataSize, MemoryRange.toNat_rva, Record.runLength,
    Record.size_memoryRange, placedAt, listLimit, Nat.sub_add_eq, Nat.add_assoc]

theorem segmentsOf_memory64 {e : DirectoryEntry} (h : e.tag.toNat = 9) :
    segmentsOf d e = packedAt d e.offset := by
  simp only [segmentsOf, h]

theorem segmentsOf_memory {e : DirectoryEntry} (h : e.tag.toNat = 5) :
    segmentsOf d e = placedAt d e.offset := by
  simp only [segmentsOf, h]

theorem segmentsOf_other {e : DirectoryEntry} (h : e.tag.toNat ≠ 9) (h' : e.tag.toNat ≠ 5) :
    segmentsOf d e = [] := by
  rw [segmentsOf]
  split
  · contradiction
  · contradiction
  · rfl

theorem segmentList_inPlace (d : Image) (e : DirectoryEntry) :
    (e.inPlace d).stream.segmentList = segmentsOf d e := by
  cases hk : e.kind? with
  | none =>
    have hne := DirectoryEntry.kind?_eq_none_iff.mp hk
    rw [segmentsOf_other (hne .memory64List) (hne .memoryList), DirectoryEntry.inPlace, hk]
    rfl
  | some k =>
    have ht := DirectoryEntry.kind?_eq_some_iff.mp hk
    rw [DirectoryEntry.inPlace_of_tag ht]
    cases k with
    | memory64List =>
      simp only [memory64List_inPlace, Stream.segmentList, segmentsOf_memory64 ht]
    | memoryList => simp only [memoryList_inPlace, Stream.segmentList, segmentsOf_memory ht]
    | _ =>
      rw [segmentsOf_other (by rw [ht]; decide) (by rw [ht]; decide)]
      rfl

theorem segments_inPlace (d : Image) :
    (inPlace d).segments = (directoryIn d).flatMap (segmentsOf d) := by
  simp only [inPlace, Contents.ofStreams, List.flatMap_map, segmentList_inPlace]

/-- The address and the size of a segment are words of the image, and the size is not zero. -/
theorem words_of_mem_segmentsOf {e : DirectoryEntry} {s : Segment} (h : s ∈ segmentsOf d e) :
    ∃ start size file : Nat, s = ⟨start, size, file⟩ ∧ start < 2 ^ 64 ∧ size < 2 ^ 64 ∧
      size ≠ 0 := by
  rw [segmentsOf] at h
  split at h
  · simp only [packedAt, List.mem_map, List.mem_filter] at h
    obtain ⟨j, ⟨-, hj⟩, rfl⟩ := h
    exact ⟨_, _, _, rfl, d.natAt_lt _ 8, d.natAt_lt _ 8, of_decide_eq_true hj⟩
  · simp only [placedAt, List.mem_map, List.mem_filter] at h
    obtain ⟨j, ⟨-, hj⟩, rfl⟩ := h
    have hl := d.natAt_lt (e.offset + 4 + 16 * j + 8) 4
    exact ⟨_, _, _, rfl, d.natAt_lt _ 8, by omega, of_decide_eq_true hj⟩
  · cases h

theorem packedAt_backToBack (d : Image) (r : Nat) : Segment.BackToBack (packedAt d r) := by
  have h := memory64List_inPlace (d := d) (r := r)
  simp only [Decoded.inPlace, Decoded.ofRun, Stream.segments.injEq] at h
  rw [← h]
  exact Segment.packed_backToBack _ _

/-- The segments of a dump, stream by stream. -/
theorem parse_segments {source : Source} {m : Dump} (h : (parse source d).result = .ok m) :
    m.segments = m.directory.flatMap (segmentsOf d) ∧
      ∀ e ∈ m.directory, e.tag.toNat = 9 → Segment.BackToBack (segmentsOf d e) := by
  obtain ⟨hw, rfl⟩ := parse_eq_ok_iff.mp h
  constructor
  · simp only [inPlace, Contents.ofStreams, List.flatMap_map, segmentList_inPlace]
  · intro e he ht
    rw [segmentsOf_memory64 ht]
    exact packedAt_backToBack d e.offset

/-- A dump of two memory streams, with an empty range in the first and the second cut short. -/
def twoMemories : Image :=
  ⟨(Record.pack (⟨Header.magic, 0xA793, 0, 2, 32, 0, 0, 0⟩ : Header) ++
    Record.pack (⟨9, 64, 56⟩ : DirectoryEntry) ++
    Record.pack (⟨5, 24, 120⟩ : DirectoryEntry) ++
    Record.pack (⟨3, 0x2000⟩ : Memory64Header) ++
    Record.pack (⟨0x1000, 4⟩ : MemoryRange64) ++
    Record.pack (⟨0x3000, 0⟩ : MemoryRange64) ++
    Record.pack (⟨0x5000, 8⟩ : MemoryRange64) ++
    Record.pack (2 : UInt32) ++
    Record.pack (⟨0x9000, ⟨6, 0x30⟩⟩ : MemoryRange) ++ [0, 0, 0, 0]).toArray⟩

theorem twoMemories_segments : ∃ m, (parse (.file .usual) twoMemories).result = .ok m ∧
    m.segments = [⟨0x1000, 4, 0x2000⟩, ⟨0x5000, 8, 0x2004⟩, ⟨0x9000, 6, 0x30⟩] ∧
    m.segments = m.directory.flatMap (segmentsOf twoMemories) ∧
    ∀ e ∈ m.directory, e.tag.toNat = 9 → Segment.BackToBack (segmentsOf twoMemories e) := by
  have hw := (wellFormed_iff_acceptable twoMemories).mpr (by decide +kernel)
  have hm : (parse (.file .usual) twoMemories).result = .ok (inPlace twoMemories) :=
    parse_eq_ok_iff.mpr ⟨hw, rfl⟩
  exact ⟨_, hm, by decide +kernel, parse_segments hm⟩

end Dump

end CrashDump
