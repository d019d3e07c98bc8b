import CrashDump.Proofs.PackedRecords
import CrashDump.Proofs.SpanReads

/-! # Overlapping segments

A read commits to the first segment that holds its address, and so does the reading of a whole
segment. Segments that are disjoint are all read as they are stored. Where they overlap, a
segment stored earlier may end too early for the span of a later one, or store other bytes.
-/
namespace CrashDump

def Segment.held (d : Image) (s : Segment) : Image := d.slice s.file.toNat s.size.toNat

namespace Dump
variable {d : Image} {m : Dump} {c : Cursor} {s t : Segment} {a n : Int}

def Disjoint (m : Dump) : Prop :=
  m.segments.Pairwise fun s t => s.endAddress ≤ t.start ∨ t.endAddress ≤ s.start

theorem exists_findSegment (hs : s ∈ m.segments) (ha : s.contains a = true) :
    ∃ t, m.findSegment a = some t :=
  Option.isSome_iff_exists.mp (List.find?_isSome.mpr ⟨s, hs, ha⟩)

theorem findSegment_of_disjoint (hd : m.Disjoint) (hs : s ∈ m.segments)
    (ha : s.contains a = true) : m.findSegment a = some s := by
  rw [Disjoint] at hd
  rw [findSegment]
  generalize m.segments = ss at hd hs
  induction ss with
  | nil => cases hs
  | cons t rest ih =>
    obtain ⟨hfirst, hrest⟩ := List.pairwise_cons.mp hd
    rcases List.mem_cons.mp hs with rfl | hs
    · rw [List.find?_cons, ha]
    · have hout : t.contains a = false := by
        have hst := hfirst s hs
        have hin := Segment.contains_iff.mp ha
        apply Bool.eq_false_iff.mpr
        intro ht
        have ht := Segment.contains_iff.mp ht
        omega
      rw [List.find?_cons, hout]
      exact ih hrest hs

/-! ## Two dumps with overlaps -/

/-- A dump of three segments. The second begins where the first does, the third within it. -/
def shadowed : Image :=
  ⟨(Record.pack (⟨Header.magic, 0xA793, 0, 1, 32, 0, 0, 0⟩ : Header) ++
    Record.pack (⟨9, 64, 44⟩ : DirectoryEntry) ++
    Record.pack (⟨3, 108⟩ : Memory64Header) ++
    Record.pack (⟨0x1000, 4⟩ : MemoryRange64) ++
    Record.pack (⟨0x1000, 4⟩ : MemoryRange64) ++
    Record.pack (⟨0x1002, 4⟩ : MemoryRange64) ++
    [65, 65, 65, 65, 66, 66, 66, 66, 67, 67, 67, 67]).toArray⟩

theorem shadowed_layout : Acceptable shadowed ∧ (inPlace shadowed).segments =
      [⟨0x1000, 4, 108⟩, ⟨0x1000, 4, 112⟩, ⟨0x1002, 4, 116⟩] ∧
    shadowed.slice 108 4 ≠ shadowed.slice 112 4 := by
  decide +kernel

theorem size_shadowed : shadowed.size = 120 := by decide

theorem shadowed_parses : (parse .memory shadowed).result = .ok (inPlace shadowed) :=
  parse_of_acceptable shadowed_layout.1

theorem shadowed_spans : (inPlace shadowed).spanIn shadowed 0x1000 4 = .ok (shadowed.slice 108 4) ∧
    (inPlace shadowed).spanIn shadowed 0x1002 4 = .error (.unmapped 0x1002 4) := by
  simp [spanIn, shadowed_layout.2.1, size_shadowed, Cursor.reach]

def nested : Image :=
  ⟨(Record.pack (⟨Header.magic, 0xA793, 0, 1, 32, 0, 0, 0⟩ : Header) ++
    Record.pack (⟨5, 36, 44⟩ : DirectoryEntry) ++
    Record.pack (2 : UInt32) ++
    Record.pack (⟨0x1000, ⟨8, 80⟩⟩ : MemoryRange) ++
    Record.pack (⟨0x1002, ⟨4, 82⟩⟩ : MemoryRange) ++
    [65, 66, 67, 68, 69, 70, 71, 72]).toArray⟩

theorem nested_layout : Acceptable nested ∧
    (inPlace nested).segments = [⟨0x1000, 8, 80⟩, ⟨0x1002, 4, 82⟩] := by
  decide +kernel

theorem nested_parses : (parse .memory nested).result = .ok (inPlace nested) :=
  parse_of_acceptable nested_layout.1

/-! ## Whole segments -/

/-- The first segment that holds the start of a segment goes as far as that and stores the same
bytes for it. -/
def Answers (m : Dump) (d : Image) (s : Segment) : Prop :=
  ∃ t, m.findSegment s.start = some t ∧ s.endAddress ≤ t.endAddress ∧
    d.slice (t.fileOffset s.start).toNat s.size.toNat = s.held d

theorem answers_of_disjoint (hs : ∀ s ∈ m.segments, s.Stored) (hd : m.Disjoint)
    (hmem : s ∈ m.segments) : m.Answers d s := by
  refine ⟨s, findSegment_of_disjoint hd hmem (hs s hmem).contains_start, Int.le_refl _, ?_⟩
  rw [Segment.fileOffset, Int.sub_self, Int.add_zero]
  rfl

section Complete
variable (hc : c.OpenOn d .memory) (hs : ∀ s ∈ m.segments, s.Stored)
  (hin : ∀ s ∈ m.segments, s.file + s.size ≤ d.size) (hd : d.size < Cursor.reach)
include hc hs hin hd

/-- In a dump that has all its captured bytes, only the end of the first segment matters. -/
theorem readSegment_eq (ht : m.findSegment s.start = some t) (hz : 0 ≤ s.size) :
    m.readSegment s c = c.result
      (if t.endAddress < s.endAddress then .error (.unmapped s.start s.size)
      else .ok (d.slice (t.fileOffset s.start).toNat s.size.toNat)) := by
  obtain ⟨hmem, hta⟩ := mem_of_findSegment ht
  rw [readSegment, readMemory_eq hc hs, spanIn_of_some hz ht, ← Segment.endAddress]
  by_cases he : t.endAddress < s.endAddress
  · rw [if_pos he, if_pos he]
  · have hlen : t.fileOffset s.start + s.size ≤ d.size := by
      have hl := hin t hmem
      rw [Segment.endAddress, Segment.endAddress] at he
      rw [Segment.fileOffset]
      omega
    have hoff := (hs t hmem).fileOffset_nonneg hta
    rw [if_neg he, if_neg he, if_neg (by omega), if_neg (by omega), if_pos (.inr hlen)]

theorem readSegment_eq_ok_iff (hmem : s ∈ m.segments) :
    m.readSegment s c = .ok (s.held d) c ↔ m.Answers d s := by
  have hst := hs s hmem
  obtain ⟨t, ht⟩ := exists_findSegment hmem hst.contains_start
  rw [readSegment_eq hc hs hin hd ht (Int.le_of_lt hst.size), Cursor.result_eq_ok_iff]
  constructor
  · intro h
    split at h
    · cases h
    · next he => exact ⟨t, ht, Int.not_lt.mp he, Except.ok.inj h⟩
  · rintro ⟨t', ht', he, hb⟩
    obtain rfl := Option.some.inj (ht.symm.trans ht')
    rw [if_neg (Int.not_lt.mpr he), hb]

end Complete

theorem readSegments_cons_of_ok {b : Image} {rest : List Segment}
    (h : m.readSegment s c = .ok b c) : m.readSegments (s :: rest) c =
      ((s, b) :: (m.readSegments rest c).1, (m.readSegments rest c).2) := by
  simp only [readSegments, h]

theorem readSegments_cons_of_error {f : Fault} {rest : List Segment}
    (h : m.readSegment s c = .error f c) : m.readSegments (s :: rest) c = ([], some f, c) := by
  simp only [readSegments, h]

/-- Reading segments in order gives them all, each with its bytes, just if each of them can be
read for itself. -/
theorem readSegments_eq_iff (hc : c.InReach) (ss : List Segment) :
    m.readSegments ss c = (ss.map fun s => (s, s.held d), none, c) ↔
      ∀ s ∈ ss, m.readSegment s c = .ok (s.held d) c := by
  induction ss with
  | nil => simp [readSegments]
  | cons s rest ih =>
    rw [List.forall_mem_cons, ← ih, List.map_cons]
    obtain ⟨r, hr, -⟩ := readMemory_rests (m := m) hc.alike s.start s.size
    cases r with
    | error f =>
      have hf : m.readSegment s c = .error f c := hr
      rw [readSegments_cons_of_error hf, hf]
      simp
    | ok b =>
      have hb : m.readSegment s c = .ok b c := hr
      rw [readSegments_cons_of_ok hb, hb]
      simp [Prod.ext_iff, and_assoc]

/-- In a dump that has all its captured bytes, every segment is read as it is stored, by itself
and in the reading of all, just if the first segment at its start answers for it. So it is where
no segments overlap. -/
theorem readSegments_iff_answers (hm : (parse .memory d).result = .ok m)
    (hc : c.OpenOn d .memory) (hin : ∀ s ∈ m.segments, s.file + s.size ≤ d.size)
    (hd : d.size < Cursor.reach) :
    ((∀ s ∈ m.segments, m.readSegment s c = .ok (s.held d) c) ∧
      m.readSegments m.segments c = (m.segments.map fun s => (s, s.held d), none, c) ↔
        ∀ s ∈ m.segments, m.Answers d s) ∧
      (m.Disjoint → ∀ s ∈ m.segments, m.Answers d s) := by
  have hs := stored_of_parse hm
  constructor
  · rw [readSegments_eq_iff hc.inReach, and_self]
    exact forall₂_congr fun s hmem => readSegment_eq_ok_iff hc hs hin hd hmem
  · exact fun hj s hmem => answers_of_disjoint hs hj hmem

theorem nested_readSegments : ∃ m c, (parse .memory nested).result = .ok m ∧
    c.OpenOn nested .memory ∧ (∀ s ∈ m.segments, s.file + s.size ≤ nested.size) ∧
    nested.size < Cursor.reach ∧ (∀ s ∈ m.segments, m.Answers nested s) ∧
    ((∀ s ∈ m.segments, m.readSegment s c = .ok (s.held nested) c) ∧
      m.readSegments m.segments c = (m.segments.map fun s => (s, s.held nested), none, c) ↔
        ∀ s ∈ m.segments, m.Answers nested s) ∧
    (m.Disjoint → ∀ s ∈ m.segments, m.Answers nested s) := by
  have hc := Cursor.openOn_start nested .memory
  have hin : ∀ s ∈ (inPlace nested).segments, s.file + s.size ≤ nested.size := by
    rw [nested_layout.2]
    decide
  have hd : nested.size < Cursor.reach := by decide
  have hans : ∀ s ∈ (inPlace nested).segments, (inPlace nested).Answers nested s := by
    intro s hs
    rw [nested_layout.2] at hs
    rw [Answers, findSegment, nested_layout.2]
    rcases List.mem_cons.mp hs with rfl | hs
    · exact ⟨⟨0x1000, 8, 80⟩, rfl, by decide, rfl⟩
    · obtain rfl := List.mem_singleton.mp hs
      exact ⟨⟨0x1000, 8, 80⟩, rfl, by decide, rfl⟩
  exact ⟨_, _, nested_parses, hc, hin, hd, hans,
    readSegments_iff_answers nested_parses hc hin hd⟩

/-- The second segment is given the bytes of the first, and the third is not reached. -/
theorem shadowed_readSegments : ∃ m c, (parse .memory shadowed).result = .ok m ∧
    c.OpenOn shadowed .memory ∧ (∀ s ∈ m.segments, s.file + s.size ≤ shadowed.size) ∧
    m.readSegments m.segments c = ([(⟨0x1000, 4, 108⟩, shadowed.slice 108 4),
      (⟨0x1000, 4, 112⟩, shadowed.slice 108 4)], some (.unmapped 0x1002 4), c) ∧
    shadowed.slice 108 4 ≠ shadowed.slice 112 4 ∧
    m.readSegments m.segments c ≠ (m.segments.map fun s => (s, s.held shadowed), none, c) := by
  have hc := Cursor.openOn_start shadowed .memory
  have hread := readMemory_eq hc (stored_of_parse shadowed_parses)
  obtain ⟨-, hsegs, hother⟩ := shadowed_layout
  obtain ⟨hfirst, hthird⟩ := shadowed_spans
  have hall : (inPlace shadowed).readSegments (inPlace shadowed).segments
      (Cursor.start shadowed .memory) = ([(⟨0x1000, 4, 108⟩, shadowed.slice 108 4),
        (⟨0x1000, 4, 112⟩, shadowed.slice 108 4)], some (.unmapped 0x1002 4),
        Cursor.start shadowed .memory) := by
    rw [hsegs]
    simp only [readSegments, readSegment, hread, hfirst, hthird, Cursor.result]
  have hin : ∀ s ∈ (inPlace shadowed).segments, s.file + s.size ≤ shadowed.size := by
    rw [hsegs, size_shadowed]
    decide
  refine ⟨_, _, shadowed_parses, hc, hin, hall, hother, ?_⟩
  rw [hall]
  intro h
  cases congrArg (fun x => x.2.1) h

/-! ## Spans -/

/-- A span that some segment holds is called unmapped just if the first segment at its address
ends within it, or has not all its bytes in the image. If no segments overlap it is not, so long
as the image has its bytes. -/
theorem readMemory_unmapped_iff (hm : (parse .memory d).result = .ok m)
    (hc : c.OpenOn d .memory) (hmem : s ∈ m.segments) (hn : 0 < n) (ha : s.start ≤ a)
    (he : a + n ≤ s.start + s.size) (hf : s.file + (a - s.start) + n ≤ d.size) :
    (m.readMemory a n c = .error (.unmapped a n) c ↔ ∃ t, m.findSegment a = some t ∧
      (t.endAddress < a + n ∨
        d.size < t.fileOffset a + n ∧ t.fileOffset a < Cursor.reach ∧ n < Cursor.reach)) ∧
      (m.Disjoint → m.readMemory a n c ≠ .error (.unmapped a n) c) := by
  have hs := stored_of_parse hm
  have hsa : s.contains a = true :=
    Segment.contains_iff.mpr ⟨ha, by rw [Segment.endAddress]; omega⟩
  obtain ⟨t, ht⟩ := exists_findSegment hmem hsa
  have hiff : m.readMemory a n c = .error (.unmapped a n) c ↔ (t.endAddress < a + n ∨
      d.size < t.fileOffset a + n ∧ t.fileOffset a < Cursor.reach ∧ n < Cursor.reach) := by
    rw [readMemory_eq hc hs, Cursor.result_eq_error_iff, spanIn_of_some (Int.le_of_lt hn) ht]
    split_ifs with h1 h2 h3 h4
    · exact iff_of_true rfl (.inl h1)
    · exact iff_of_false (by simp) (by omega)
    · exact iff_of_false (by simp) (by omega)
    · exact iff_of_false (by simp) (by omega)
    · exact iff_of_true rfl (.inr (by omega))
  constructor
  · rw [hiff, ht]
    simp
  · intro hj
    obtain rfl := Option.some.inj (ht.symm.trans (findSegment_of_disjoint hj hmem hsa))
    rw [Ne, hiff, Segment.endAddress, Segment.fileOffset]
    omega

theorem nested_mapped : ∃ m c, (parse .memory nested).result = .ok m ∧
    c.OpenOn nested .memory ∧ ∃ s ∈ m.segments, s.start ≤ 0x1003 ∧
      0x1003 + 2 ≤ s.start + s.size ∧ s.file + (0x1003 - s.start) + 2 ≤ nested.size ∧
      (m.readMemory 0x1003 2 c = .error (.unmapped 0x1003 2) c ↔
        ∃ t, m.findSegment 0x1003 = some t ∧ (t.endAddress < 0x1003 + 2 ∨
          nested.size < t.fileOffset 0x1003 + 2 ∧ t.fileOffset 0x1003 < Cursor.reach ∧
            (2 : Int) < Cursor.reach)) ∧
      (m.Disjoint → m.readMemory 0x1003 2 c ≠ .error (.unmapped 0x1003 2) c) := by
  have hc := Cursor.openOn_start nested .memory
  have hmem : (⟨0x1002, 4, 82⟩ : Segment) ∈ (inPlace nested).segments := by
    rw [nested_layout.2]
    decide
  have hf : (82 : Int) + (0x1003 - 0x1002) + 2 ≤ nested.size := by decide
  exact ⟨_, _, nested_parses, hc, _, hmem, by decide, by decide, hf,
    readMemory_unmapped_iff nested_parses hc hmem (by decide) (by decide) (by decide) hf⟩

/-- The third segment holds a span, bytes and all, that is called unmapped. -/
theorem shadowed_unmapped : ∃ m c, (parse .memory shadowed).result = .ok m ∧
    c.OpenOn shadowed .memory ∧ ∃ s ∈ m.segments, s.start ≤ 0x1002 ∧
      0x1002 + 4 ≤ s.start + s.size ∧ s.file + (0x1002 - s.start) + 4 ≤ shadowed.size ∧
      m.readMemory 0x1002 4 c = .error (.unmapped 0x1002 4) c := by
  have hc := Cursor.openOn_start shadowed .memory
  have hread := readMemory_eq hc (stored_of_parse shadowed_parses)
  have hmem : (⟨0x1002, 4, 116⟩ : Segment) ∈ (inPlace shadowed).segments := by
    rw [shadowed_layout.2.1]
    decide
  refine ⟨_, _, shadowed_parses, hc, _, hmem, by decide, by decide,
    by rw [size_shadowed]; decide, ?_⟩
  rw [hread, shadowed_spans.2]
  rfl

end Dump

end CrashDump
