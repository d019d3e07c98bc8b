import CrashDump.Proofs.AddressSpace
import CrashDump.Proofs.LongNumbers
import CrashDump.Proofs.RestingReads

/-! # Reads of a span

A read of captured memory is determined by the image and the first segment that holds the
address: it gives the bytes of the image at the span's place, all of them, or the one fault that
keeps it from them. Where the reader stands has no part in it.
-/
namespace CrashDump

namespace Segment
variable {s : Segment} {a n : Int}

theorem contains_iff : s.contains a = true ↔ s.start ≤ a ∧ a < s.endAddress := by
  simp [contains]

theorem containsRange_iff :
    s.containsRange a n = true ↔ s.contains a = true ∧ a + n ≤ s.endAddress := by
  simp [containsRange]

/-- What holds of every segment that a parse gives. -/
structure Stored (s : Segment) : Prop where
  start : 0 ≤ s.start
  size : 0 < s.size
  file : 0 ≤ s.file

theorem Stored.of_nat {start size file : Nat} (hz : size ≠ 0) :
    (⟨start, size, file⟩ : Segment).Stored :=
  ⟨Int.natCast_nonneg _, Int.natCast_pos.mpr (Nat.pos_of_ne_zero hz), Int.natCast_nonneg _⟩

theorem Stored.contains_start (h : s.Stored) : s.contains s.start = true := by
  have hs := h.size
  exact contains_iff.mpr ⟨Int.le_refl _, by rw [endAddress]; omega⟩

theorem Stored.fileOffset_nonneg (h : s.Stored) (ha : s.contains a = true) :
    0 ≤ s.fileOffset a := by
  have hf := h.file
  have hs := (contains_iff.mp ha).1
  rw [fileOffset]
  omega

end Segment

namespace Dump
variable {d : Image} {m : Dump} {s : Segment} {a n : Int}

theorem stored_of_parse {source : Source} (hm : (parse source d).result = .ok m) :
    ∀ s ∈ m.segments, s.Stored := by
  obtain ⟨-, rfl⟩ := parse_eq_ok_iff.mp hm
  intro s hs
  rw [segments_inPlace] at hs
  obtain ⟨e, -, hs⟩ := List.mem_flatMap.mp hs
  obtain ⟨_, _, _, rfl, -, -, hz⟩ := words_of_mem_segmentsOf hs
  exact Segment.Stored.of_nat hz

theorem mem_of_findSegment (h : m.findSegment a = some s) :
    s ∈ m.segments ∧ s.contains a = true := by
  rw [findSegment] at h
  exact ⟨List.mem_of_find?_eq_some h, List.find?_some (p := fun t : Segment => t.contains a) h⟩

/-- The bytes of a span, read off the image without a cursor. -/
def spanIn (m : Dump) (d : Image) (a n : Int) : Except Fault Image :=
  if n < 0 then .error (.negativeCount n)
  else match m.segments.find? fun s => s.start ≤ a ∧ a < s.start + s.size with
    | none => .error (.unmapped a n)
    | some s =>
      let off := s.file + (a - s.start)
      if s.start + s.size < a + n then .error (.unmapped a n)
      else if Cursor.reach ≤ off then .error .tooFar
      else if Cursor.reach ≤ n then .error .tooMany
      else if n = 0 ∨ off + n ≤ d.size then .ok (d.slice off.toNat n.toNat)
      else .error (.unmapped a n)

theorem find?_holds_eq (m : Dump) (a : Int) :
    (m.segments.find? fun s => s.start ≤ a ∧ a < s.start + s.size) = m.findSegment a := by
  rw [findSegment]
  apply congrArg (fun p => m.segments.find? p)
  funext s
  apply Bool.eq_iff_iff.mpr
  rw [Segment.contains_iff, decide_eq_true_iff]
  exact Iff.rfl

section Spans
variable {t : Segment}

theorem spanIn_of_negative (hn : n < 0) : m.spanIn d a n = .error (.negativeCount n) := by
  rw [spanIn, if_pos hn]

theorem spanIn_of_none (hn : 0 ≤ n) (h : m.findSegment a = none) :
    m.spanIn d a n = .error (.unmapped a n) := by
  rw [spanIn, if_neg (by omega), find?_holds_eq, h]

/-- What is left to say of a span that begins in a segment. -/
theorem spanIn_of_some (hn : 0 ≤ n) (h : m.findSegment a = some t) :
    m.spanIn d a n =
      if t.endAddress < a + n then .error (.unmapped a n)
      else if Cursor.reach ≤ t.fileOffset a then .error .tooFar
      else if Cursor.reach ≤ n then .error .tooMany
      else if n = 0 ∨ t.fileOffset a + n ≤ d.size then
        .ok (d.slice (t.fileOffset a).toNat n.toNat)
      else .error (.unmapped a n) := by
  rw [spanIn, if_neg (by omega), find?_holds_eq, h]
  rfl

end Spans

/-- What a source gives of a span that begins at a place of an image. A source may refuse a count
that is no more than memory gives. -/
def blockFrom (source : Source) (d : Image) (off a n : Int) : Except Fault Image :=
  match source.refusal? n.toNat with
  | some f => .error f
  | none =>
    if n = 0 ∨ off + n ≤ d.size then .ok (d.slice off.toNat n.toNat) else .error (.unmapped a n)

/-- What a source gives of a span. -/
def spanFrom (m : Dump) (source : Source) (d : Image) (a n : Int) : Except Fault Image :=
  if n < 0 then .error (.negativeCount n)
  else match m.findSegment a with
    | none => .error (.unmapped a n)
    | some s =>
      if s.endAddress < a + n then .error (.unmapped a n)
      else if Cursor.reach ≤ s.fileOffset a then .error .tooFar
      else blockFrom source d (s.fileOffset a) a n

section Spans
variable {t : Segment} {source : Source}

theorem blockFrom_of_refusal {off : Int} {f : Fault} (h : source.refusal? n.toNat = some f) :
    blockFrom source d off a n = .error f := by
  rw [blockFrom, h]

theorem blockFrom_of_room {off : Int} (h : source.refusal? n.toNat = none) :
    blockFrom source d off a n = if n = 0 ∨ off + n ≤ d.size then .ok (d.slice off.toNat n.toNat)
      else .error (.unmapped a n) := by
  rw [blockFrom, h]

theorem spanFrom_of_negative (hn : n < 0) :
    m.spanFrom source d a n = .error (.negativeCount n) := by
  rw [spanFrom, if_pos hn]

theorem spanFrom_of_none (hn : 0 ≤ n) (h : m.findSegment a = none) :
    m.spanFrom source d a n = .error (.unmapped a n) := by
  rw [spanFrom, if_neg (by omega), h]

theorem spanFrom_of_some (hn : 0 ≤ n) (h : m.findSegment a = some t) :
    m.spanFrom source d a n =
      if t.endAddress < a + n then .error (.unmapped a n)
      else if Cursor.reach ≤ t.fileOffset a then .error .tooFar
      else blockFrom source d (t.fileOffset a) a n := by
  rw [spanFrom, if_neg (by omega), h]

/-- Memory refuses just the counts that are out of reach. -/
theorem spanFrom_memory (m : Dump) (d : Image) (a n : Int) :
    m.spanFrom .memory d a n = m.spanIn d a n := by
  by_cases hn : n < 0
  · rw [spanFrom_of_negative hn, spanIn_of_negative hn]
  · have hn := Int.not_lt.mp hn
    cases ht : m.findSegment a with
    | none => rw [spanFrom_of_none hn ht, spanIn_of_none hn ht]
    | some t =>
      rw [spanFrom_of_some hn ht, spanIn_of_some hn ht]
      by_cases hr : Cursor.reach ≤ n
      · rw [blockFrom_of_refusal (Source.refusal?_memory_of_le (by omega)), if_pos hr]
      · rw [blockFrom_of_room (Source.refusal?_memory_of_lt (by omega)), if_neg hr]

end Spans

/-- Reading at a place of an image, with a lack of bytes put down to the span. -/
theorem readExact_orUnmapped (source : Source) (q : Nat) (hn : 0 ≤ n) :
    ∃ q', (match Cursor.readExact n ⟨d, some q, source⟩ with
      | .error (.short _) c' => .error (.unmapped a n) c'
      | r => r) = Cursor.result ⟨d, some q', source⟩ (blockFrom source d q a n) := by
  obtain ⟨k, rfl⟩ := Int.eq_ofNat_of_zero_le hn
  cases hs : source.refusal? k with
  | some f =>
    refine ⟨q, ?_⟩
    rw [Cursor.readExact_of_refusal hs, blockFrom_of_refusal hs]
    rcases Source.refusal?_eq_some hs with rfl | rfl
    · rfl
    · rfl
  | none =>
    by_cases hk : k ≤ d.size - q
    · refine ⟨q + k, ?_⟩
      rw [Cursor.readExact_of_le hs hk, blockFrom_of_room hs, if_pos (by omega)]
      rfl
    · refine ⟨q + (d.size - q), ?_⟩
      rw [Cursor.readExact_of_lt hs (Nat.lt_of_not_le hk), blockFrom_of_room hs,
        if_neg (by omega)]
      rfl

/-- A read at an open reader gives what the source gives of the span. -/
theorem readMemory_eq_spanFrom {source : Source} {c : Cursor} (hc : c.OpenOn d source)
    (hs : ∀ s ∈ m.segments, s.Stored) (a n : Int) :
    m.readMemory a n c = c.result (m.spanFrom source d a n) := by
  obtain ⟨p, hp, rfl⟩ := hc.eq
  by_cases hn : n < 0
  · rw [readMemory, if_pos hn, spanFrom_of_negative hn]
    rfl
  · have hn := Int.not_lt.mp hn
    rw [readMemory, if_neg (Int.not_lt.mpr hn)]
    cases ht : m.findSegment a with
    | none =>
      rw [spanFrom_of_none hn ht]
      rfl
    | some t =>
      obtain ⟨hmem, hta⟩ := mem_of_findSegment ht
      rw [spanFrom_of_some hn ht]
      by_cases he : t.endAddress < a + n
      · have hf : ¬ t.containsRange a n = true := by
          rw [Segment.containsRange_iff]
          omega
        simp only [if_neg hf, if_pos he]
        rfl
      · have hf : t.containsRange a n = true :=
          Segment.containsRange_iff.mpr ⟨hta, by omega⟩
        obtain ⟨off, hoff⟩ :=
          Int.eq_ofNat_of_zero_le ((hs t hmem).fileOffset_nonneg hta)
        simp only [if_pos hf, if_neg he, hoff]
        by_cases hr : Cursor.reach ≤ off
        · rw [if_pos (by omega)]
          refine Cursor.saved_eq (q := p) (r := .error .tooFar) hp ?_
          simp only [bind, EStateM.bind, Cursor.seek_of_le hr, Cursor.result]
        · rw [if_neg (by omega)]
          obtain ⟨q, hq⟩ := readExact_orUnmapped (d := d) (a := a) source off hn
          refine Cursor.saved_eq (q := q) hp ?_
          simp only [bind, EStateM.bind, Cursor.seek_eq (Nat.lt_of_not_le hr)]
          exact hq

theorem readMemory_eq {c : Cursor} (hc : c.OpenOn d .memory)
    (hs : ∀ s ∈ m.segments, s.Stored) (a n : Int) :
    m.readMemory a n c = c.result (m.spanIn d a n) := by
  rw [readMemory_eq_spanFrom hc hs, spanFrom_memory]

section Outcomes
variable {source : Source} {f : Fault} {b : Image}

theorem fault_of_blockFrom {off : Int} (h : blockFrom source d off a n = .error f) :
    f = .unmapped a n ∨ f = .tooMany ∨ f = .noRoom := by
  cases hr : source.refusal? n.toNat with
  | some g =>
    rw [blockFrom_of_refusal hr] at h
    obtain rfl := Except.error.inj h
    exact .inr (Source.refusal?_eq_some hr)
  | none =>
    rw [blockFrom_of_room hr] at h
    split_ifs at h
    exact .inl (Except.error.inj h).symm

/-- What can keep a source from giving a span. -/
theorem fault_of_spanFrom (h : m.spanFrom source d a n = .error f) :
    f = .negativeCount n ∨ f = .unmapped a n ∨ f = .tooFar ∨ f = .tooMany ∨ f = .noRoom := by
  by_cases hn : n < 0
  · rw [spanFrom_of_negative hn] at h
    exact .inl (Except.error.inj h).symm
  · right
    have hn := Int.not_lt.mp hn
    cases ht : m.findSegment a with
    | none =>
      rw [spanFrom_of_none hn ht] at h
      exact .inl (Except.error.inj h).symm
    | some t =>
      rw [spanFrom_of_some hn ht] at h
      split_ifs at h
      · exact .inl (Except.error.inj h).symm
      · exact .inr (.inl (Except.error.inj h).symm)
      · rcases fault_of_blockFrom h with hf | hf
        · exact .inl hf
        · exact .inr (.inr hf)

/-- What can keep an image from giving a span. -/
theorem fault_of_spanIn (h : m.spanIn d a n = .error f) :
    (f = .unmapped a n ∨ f = .negativeCount n) ∨ f = .tooFar ∨ f = .tooMany := by
  rw [spanIn] at h
  split at h
  · exact .inl (.inr (Except.error.inj h).symm)
  · split at h
    · exact .inl (.inl (Except.error.inj h).symm)
    · dsimp only at h
      split_ifs at h
      · exact .inl (.inl (Except.error.inj h).symm)
      · exact .inr (.inl (Except.error.inj h).symm)
      · exact .inr (.inr (Except.error.inj h).symm)
      · exact .inl (.inl (Except.error.inj h).symm)

theorem size_of_blockFrom {off : Int} (hoff : 0 ≤ off) (hn : 0 ≤ n)
    (h : blockFrom source d off a n = .ok b) : (b.size : Int) = n := by
  cases hr : source.refusal? n.toNat with
  | some g =>
    rw [blockFrom_of_refusal hr] at h
    cases h
  | none =>
    rw [blockFrom_of_room hr] at h
    split_ifs at h with hf
    cases h
    rw [Image.slice, ByteArray.size_extract]
    omega

theorem size_of_spanFrom (hs : ∀ s ∈ m.segments, s.Stored)
    (h : m.spanFrom source d a n = .ok b) : (b.size : Int) = n := by
  by_cases hn : n < 0
  · rw [spanFrom_of_negative hn] at h
    cases h
  · have hn := Int.not_lt.mp hn
    cases ht : m.findSegment a with
    | none =>
      rw [spanFrom_of_none hn ht] at h
      cases h
    | some t =>
      obtain ⟨hmem, hta⟩ := mem_of_findSegment ht
      rw [spanFrom_of_some hn ht] at h
      split_ifs at h
      exact size_of_blockFrom ((hs t hmem).fileOffset_nonneg hta) hn h

theorem size_of_spanIn (hs : ∀ s ∈ m.segments, s.Stored)
    (h : m.spanIn d a n = .ok b) : (b.size : Int) = n := by
  rw [← spanFrom_memory] at h
  exact size_of_spanFrom hs h

end Outcomes

/-- A read gives the bytes of its span or the fault that keeps it from them, and as many bytes
as were asked for. -/
theorem readMemory_outcome {c : Cursor} (hm : (parse .memory d).result = .ok m)
    (hc : c.OpenOn d .memory) (a n : Int) :
    m.readMemory a n c = c.result (m.spanIn d a n) ∧
      (∀ b, m.spanIn d a n = .ok b → (b.size : Int) = n) ∧
      (n < 0 → (Fault.negativeCount n).message =
        if n.natAbs < Decimal.limit then "Negative read size: " ++ toString n
        else Decimal.tooLong) := by
  have hs := stored_of_parse hm
  exact ⟨readMemory_eq hc hs a n, fun b hb => size_of_spanIn hs hb,
    fun _ => Fault.message_negativeCount n⟩

theorem twoMemories_layout : Acceptable twoMemories ∧ (inPlace twoMemories).segments =
      [⟨0x1000, 4, 0x2000⟩, ⟨0x5000, 8, 0x2004⟩, ⟨0x9000, 6, 0x30⟩] ∧
    (inPlace twoMemories).spanIn twoMemories 0x9001 5 = .ok (twoMemories.slice 0x31 5) := by
  decide +kernel

theorem twoMemories_parses : (parse .memory twoMemories).result = .ok (inPlace twoMemories) :=
  parse_of_acceptable twoMemories_layout.1

/-- A span up to the end of its segment, read from the middle of the image. -/
theorem twoMemories_reads :
    ∃ m c, (parse .memory twoMemories).result = .ok m ∧ c.OpenOn twoMemories .memory ∧
      m.spanIn twoMemories 0x9001 5 = .ok (twoMemories.slice 0x31 5) ∧
      m.readMemory 0x9001 5 c = c.result (m.spanIn twoMemories 0x9001 5) ∧
      (∀ b, m.spanIn twoMemories 0x9001 5 = .ok b → (b.size : Int) = 5) ∧
      ((5 : Int) < 0 → (Fault.negativeCount 5).message =
        if (5 : Int).natAbs < Decimal.limit then "Negative read size: " ++ toString (5 : Int)
        else Decimal.tooLong) := by
  have hc : (⟨twoMemories, some 50, .memory⟩ : Cursor).OpenOn twoMemories .memory :=
    { image := rfl
      source := rfl
      inReach := by
        intro p hp
        cases hp
        decide
      isOpen := by
        intro hp
        cases hp }
  exact ⟨_, _, twoMemories_parses, hc, twoMemories_layout.2.2,
    readMemory_outcome twoMemories_parses hc 0x9001 5⟩

/-- A count of more digits than a decimal text may have is refused with another message. -/
theorem readMemory_longCount :
    ∃ m c, (parse .memory twoMemories).result = .ok m ∧ c.OpenOn twoMemories .memory ∧
      ∃ f, m.readMemory 0 (-Decimal.limit) c = .error f c ∧
        f.message ≠ "Negative read size: " ++ toString (-Decimal.limit : Int) := by
  have hpos := Decimal.limit_pos
  have hneg : (-Decimal.limit : Int) < 0 := by omega
  have hlong : ¬ (-Decimal.limit : Int).natAbs < Decimal.limit := by omega
  refine ⟨_, _, twoMemories_parses, Cursor.openOn_start twoMemories .memory,
    .negativeCount (-Decimal.limit), ?_, ?_⟩
  · rw [readMemory, if_pos hneg]
    rfl
  · rw [Fault.message_negativeCount, if_neg hlong]
    exact Fault.tooLong_ne_negative _

end Dump

end CrashDump
