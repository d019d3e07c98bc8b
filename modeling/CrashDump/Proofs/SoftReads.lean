import CrashDump.Proofs.PackedRecords
import CrashDump.Proofs.SpanReads

/-! # Soft failure of reads

A read of a span gives its bytes or finds it unmapped, a pointer is a number or absent, and a
text is a text. That all reads end so soft depends on one thing, that every captured address is
stored, and every segment goes on from it, within the reach of a byte source. A dump may place
its captured memory farther off: then a read breaks off with another fault.
-/
namespace CrashDump

namespace Dump
variable {d : Image} {m : Dump} {c : Cursor} {a n : Int}

/-- No read at a cursor fails otherwise than softly. -/
structure SoftReads (m : Dump) (c : Cursor) : Prop where
  memory : ∀ a n, 0 ≤ n → (∃ b, m.readMemory a n c = .ok b c ∧ (b.size : Int) = n) ∨
    m.readMemory a n c = .error (.unmapped a n) c
  pointer : ∀ a, ∃ v, m.readPointer a c = .ok v c
  text : ∀ a n, ∃ t, m.readText a n c = .ok t c

/-- The first segment that holds an address stores it within reach, and what is left of the
segment from there on can be counted. -/
def Addressable (m : Dump) : Prop :=
  ∀ a t, m.findSegment a = some t → t.fileOffset a < Cursor.reach ∧ t.endAddress - a < Cursor.reach

theorem addressable_of_lt (hs : ∀ s ∈ m.segments, s.Stored)
    (h : ∀ s ∈ m.segments, s.file + s.size < Cursor.reach) : m.Addressable := by
  intro a t ht
  obtain ⟨hmem, hta⟩ := mem_of_findSegment ht
  have hf := (hs t hmem).file
  have hl := h t hmem
  have ha := Segment.contains_iff.mp hta
  rw [Segment.endAddress] at ha
  rw [Segment.fileOffset, Segment.endAddress]
  omega

/-! ## Pointers and texts -/

theorem readPointer_of_ok {b : Image} (h : m.readMemory a m.pointerSize c = .ok b c) :
    m.readPointer a c = .ok (some (natOfBytes b.bytes)) c := by
  simp only [readPointer, h]

theorem readPointer_of_unmapped {x y : Int}
    (h : m.readMemory a m.pointerSize c = .error (.unmapped x y) c) :
    m.readPointer a c = .ok none c := by
  simp only [readPointer, h]

theorem readText_of_ok {b : Image} (h : m.readMemory a n c = .ok b c) :
    m.readText a n c = .ok (textOf b.bytes) c := by
  simp only [readText, h]

theorem readText_of_error {f : Fault} (hf : f.isFatal c.source = false)
    (h : m.readMemory a n c = .error f c) : m.readText a n c = .ok "" c := by
  simp only [readText, h, hf, Bool.false_eq_true, if_false]

theorem readText_of_fatal {f : Fault} (hf : f.isFatal c.source = true)
    (h : m.readMemory a n c = .error f c) : m.readText a n c = .error f c := by
  simp only [readText, h, hf, if_true]

/-! ## Addressable dumps -/

theorem spanIn_of_addressable (ha : m.Addressable) (hn : 0 ≤ n) :
    (∃ b, m.spanIn d a n = .ok b) ∨ m.spanIn d a n = .error (.unmapped a n) := by
  cases ht : m.findSegment a with
  | none => exact .inr (spanIn_of_none hn ht)
  | some t =>
    obtain ⟨hoff, hleft⟩ := ha a t ht
    rw [spanIn_of_some hn ht]
    by_cases he : t.endAddress < a + n
    · exact .inr (if_pos he)
    · rw [if_neg he, if_neg (by omega), if_neg (by omega)]
      split
      · exact .inl ⟨_, rfl⟩
      · exact .inr rfl

/-- The rest of a segment from an address on is the longest span there. Read in full, it shows
whether the address is within reach. -/
theorem spanIn_rest {t : Segment} (ht : m.findSegment a = some t)
    (hout : ¬ (t.fileOffset a < Cursor.reach ∧ t.endAddress - a < Cursor.reach)) :
    ∃ f, m.spanIn d a (t.endAddress - a) = .error f ∧ (f = .tooFar ∨ f = .tooMany) := by
  have ha := Segment.contains_iff.mp (mem_of_findSegment ht).2
  rw [spanIn_of_some (by omega) ht, if_neg (by omega)]
  by_cases hoff : Cursor.reach ≤ t.fileOffset a
  · exact ⟨.tooFar, if_pos hoff, .inl rfl⟩
  · rw [if_neg hoff, if_pos (by omega)]
    exact ⟨.tooMany, rfl, .inr rfl⟩

theorem softReads_of_addressable (hc : c.OpenOn d .memory) (hs : ∀ s ∈ m.segments, s.Stored)
    (ha : m.Addressable) : m.SoftReads c := by
  have hmem : ∀ a n, 0 ≤ n → (∃ b, m.readMemory a n c = .ok b c ∧ (b.size : Int) = n) ∨
      m.readMemory a n c = .error (.unmapped a n) c := by
    intro a n hn
    have hr := readMemory_eq hc hs a n
    rcases spanIn_of_addressable (d := d) ha hn with ⟨b, hb⟩ | hb
    · exact .inl ⟨b, by rw [hr, hb]; rfl, size_of_spanIn hs hb⟩
    · exact .inr (by rw [hr, hb]; rfl)
  constructor
  · exact hmem
  · intro a
    rcases hmem a m.pointerSize (Int.natCast_nonneg _) with ⟨b, hb, -⟩ | hb
    · exact ⟨_, readPointer_of_ok hb⟩
    · exact ⟨_, readPointer_of_unmapped hb⟩
  · intro a n
    by_cases hn : n < 0
    · have hb : m.readMemory a n c = .error (.negativeCount n) c := by
        rw [readMemory_eq hc hs, spanIn_of_negative hn]
        rfl
      exact ⟨_, readText_of_error rfl hb⟩
    · rcases hmem a n (Int.not_lt.mp hn) with ⟨b, hb, -⟩ | hb
      · exact ⟨_, readText_of_ok hb⟩
      · exact ⟨_, readText_of_error rfl hb⟩

/-- All reads at an open reader fail softly just if the dump is addressable. -/
theorem softReads_iff (hm : (parse .memory d).result = .ok m) (hc : c.OpenOn d .memory) :
    m.SoftReads c ↔ m.Addressable := by
  have hs := stored_of_parse hm
  constructor
  · intro h a t ht
    by_contra hout
    have ha := Segment.contains_iff.mp (mem_of_findSegment ht).2
    obtain ⟨f, hf, hk⟩ := spanIn_rest (d := d) ht hout
    rcases h.memory a (t.endAddress - a) (by omega) with ⟨b, hb, -⟩ | hb
    · rw [readMemory_eq hc hs, hf, Cursor.result_eq_ok_iff] at hb
      cases hb
    · rw [readMemory_eq hc hs, hf, Cursor.result_eq_error_iff] at hb
      cases hb
      rcases hk with hk | hk
      · cases hk
      · cases hk
  · exact softReads_of_addressable hc hs

theorem twoMemories_softReads : ∃ m c, (parse .memory twoMemories).result = .ok m ∧
    c.OpenOn twoMemories .memory ∧ m.Addressable ∧ (m.SoftReads c ↔ m.Addressable) := by
  have hc := Cursor.openOn_start twoMemories .memory
  have hs := stored_of_parse twoMemories_parses
  refine ⟨_, _, twoMemories_parses, hc, addressable_of_lt hs ?_,
    softReads_iff twoMemories_parses hc⟩
  rw [twoMemories_layout.2.1]
  decide

/-- A dump whose captured memory is said to stand farther off than a source reaches. -/
def farMemory : Image :=
  ⟨(Record.pack (⟨Header.magic, 0xA793, 0, 1, 32, 0, 0, 0⟩ : Header) ++
    Record.pack (⟨9, 32, 44⟩ : DirectoryEntry) ++
    Record.pack (⟨1, 0x8000000000000000⟩ : Memory64Header) ++
    Record.pack (⟨0x1000, 16⟩ : MemoryRange64)).toArray⟩

/-- The fault of a place out of reach leaves a read of its memory, of a pointer and of a text. -/
theorem farMemory_not_softReads : ∃ m c, (parse .memory farMemory).result = .ok m ∧
    c.OpenOn farMemory .memory ∧ m.readMemory 0x1000 1 c = .error .tooFar c ∧
    m.readPointer 0x1000 c = .error .tooFar c ∧ m.readText 0x1000 1 c = .error .tooFar c ∧
    ¬ m.SoftReads c := by
  have hm : (parse .memory farMemory).result = .ok (inPlace farMemory) :=
    parse_of_acceptable (by decide +kernel)
  have hc := Cursor.openOn_start farMemory .memory
  have hs := stored_of_parse hm
  have ht : (inPlace farMemory).findSegment 0x1000 = some ⟨0x1000, 16, 0x8000000000000000⟩ := by
    decide +kernel
  have hfar : ∀ n : Int, 0 ≤ n → n ≤ 16 →
      (inPlace farMemory).readMemory 0x1000 n (Cursor.start farMemory .memory) =
        .error .tooFar (Cursor.start farMemory .memory) := by
    intro n hn hle
    rw [readMemory_eq hc hs, spanIn_of_some hn ht, if_neg (by simp [Segment.endAddress]; omega),
      if_pos (by decide)]
    rfl
  have h1 := hfar 1 (by decide) (by decide)
  refine ⟨_, _, hm, hc, h1, ?_, readText_of_fatal rfl h1, ?_⟩
  · have hp : (inPlace farMemory).pointerSize ≤ 8 := by
      rw [pointerSize]
      split <;> decide
    have hw := hfar (inPlace farMemory).pointerSize (Int.natCast_nonneg _) (by omega)
    simp only [readPointer, hw]
  · intro h
    rcases h.memory 0x1000 1 (by decide) with ⟨b, hb, -⟩ | hb
    · cases h1.symm.trans hb
    · cases h1.symm.trans hb

end Dump

end CrashDump
