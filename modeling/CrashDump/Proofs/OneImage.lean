import CrashDump.Proofs.Overlaps

/-! # One image of memory

Where no segments overlap, all reads of captured memory look into one image of it. A part of what
was read can be read by itself, reads that meet agree, and two reads of neighbouring spans make up
a third just where one segment answers for both.
-/
namespace CrashDump

namespace Image

theorem slice_append_slice (d : Image) (off n k : Nat) :
    d.slice off n ++ d.slice (off + n) k = d.slice off (n + k) := by
  rw [slice, slice, slice, ByteArray.extract_append_extract]
  congr 1
  · omega
  · omega

end Image

namespace Segment
variable {d : Image} {t : Segment} {a n i j k x : Int} {b b' : Image}

/-- A segment holds a span, and these are its bytes, all in the image. -/
structure Serves (d : Image) (t : Segment) (a n : Int) (b : Image) : Prop where
  start : t.start ≤ a
  stop : a + n ≤ t.endAddress
  fits : t.fileOffset a + n ≤ d.size
  bytes : b = d.slice (t.fileOffset a).toNat n.toNat

theorem Serves.contains (h : t.Serves d a n b) (ha : a ≤ x) (hx : x < a + n) :
    t.contains x = true := by
  have h1 := h.start
  have h2 := h.stop
  exact contains_iff.mpr ⟨by omega, by omega⟩

theorem Serves.part (ht : t.Stored) (h : t.Serves d a n b) (hi : 0 ≤ i) (hj : 0 ≤ j)
    (hij : i + j ≤ n) : t.Serves d (a + i) j (b.slice i.toNat j.toNat) := by
  have hf := ht.file
  obtain ⟨h1, h2, h3, rfl⟩ := h
  have ho : (t.fileOffset (a + i)).toNat = (t.fileOffset a).toNat + i.toNat := by
    rw [fileOffset, fileOffset]
    omega
  constructor
  case start => omega
  case stop => omega
  case fits =>
    rw [fileOffset] at h3 ⊢
    omega
  case bytes => rw [Image.slice_slice (by omega), ho]

theorem Serves.byteAt (ht : t.Stored) (h : t.Serves d a n b) (ha : a ≤ x) (hx : x < a + n) :
    b.byteAt (x - a).toNat = d.byteAt (t.fileOffset x).toNat := by
  have hf := ht.file
  obtain ⟨h1, h2, h3, rfl⟩ := h
  rw [fileOffset] at h3
  have ho : (t.fileOffset x).toNat = (t.fileOffset a).toNat + (x - a).toNat := by
    rw [fileOffset, fileOffset]
    omega
  have hfits : d.Fits (t.fileOffset a).toNat n.toNat := by
    rw [fileOffset]
    omega
  rw [Image.byteAt_slice hfits (by omega), ho]

theorem Serves.join (ht : t.Stored) (hn : 0 ≤ n) (hk : 0 ≤ k) (h : t.Serves d a n b)
    (h' : t.Serves d (a + n) k b') : t.Serves d a (n + k) (b ++ b') := by
  have hf := ht.file
  obtain ⟨h1, h2, h3, rfl⟩ := h
  obtain ⟨h1', h2', h3', rfl⟩ := h'
  have ho : (t.fileOffset (a + n)).toNat = (t.fileOffset a).toNat + n.toNat := by
    rw [fileOffset, fileOffset]
    omega
  constructor
  case start => exact h1
  case stop => omega
  case fits =>
    rw [fileOffset] at h3' ⊢
    omega
  case bytes => rw [ho, Image.slice_append_slice, Int.toNat_add hn hk]

end Segment

namespace Dump
variable {d : Image} {m : Dump} {c c' : Cursor} {a n x : Int} {b b' : Image}

def Gives (m : Dump) (c : Cursor) (a n : Int) (b : Image) : Prop := m.readMemory a n c = .ok b c

theorem gives_iff_serves (hc : c.OpenOn d .memory) (hs : ∀ s ∈ m.segments, s.Stored)
    (hd : d.size < Cursor.reach) (hn : 0 < n) :
    m.Gives c a n b ↔ ∃ t, m.findSegment a = some t ∧ t.Serves d a n b := by
  rw [Gives, readMemory_eq hc hs, Cursor.result_eq_ok_iff]
  cases ht : m.findSegment a with
  | none =>
    rw [spanIn_of_none (Int.le_of_lt hn) ht]
    simp
  | some t =>
    obtain ⟨hmem, hta⟩ := mem_of_findSegment ht
    have hoff := (hs t hmem).fileOffset_nonneg hta
    have hstart := (Segment.contains_iff.mp hta).1
    rw [spanIn_of_some (Int.le_of_lt hn) ht]
    constructor
    · intro h
      -- All other branches are faults.
      split_ifs at h with h1 h2 h3 h4
      cases h
      exact ⟨t, rfl, hstart, by omega, by omega, rfl⟩
    · rintro ⟨t', ht', hserves⟩
      obtain rfl := Option.some.inj ht'
      have h1 := hserves.stop
      have h2 := hserves.fits
      rw [if_neg (by omega), if_neg (by omega), if_neg (by omega), if_pos (.inr h2),
        hserves.bytes]

structure OneImage (m : Dump) (d : Image) : Prop where
  part : ∀ c c' : Cursor, c.OpenOn d .memory → c'.OpenOn d .memory →
    ∀ a n b, m.Gives c a n b → ∀ i j, 0 ≤ i → 0 < j → i + j ≤ n →
      m.Gives c' (a + i) j (b.slice i.toNat j.toNat)
  meet : ∀ c c' : Cursor, c.OpenOn d .memory → c'.OpenOn d .memory →
    ∀ a n b a' n' b', m.Gives c a n b → m.Gives c' a' n' b' →
      ∀ x, a ≤ x → x < a + n → a' ≤ x → x < a' + n' →
        b.byteAt (x - a).toNat = b'.byteAt (x - a').toNat
  join : ∀ c c' c'' : Cursor, c.OpenOn d .memory → c'.OpenOn d .memory → c''.OpenOn d .memory →
    ∀ a n b k b', 0 < n → 0 < k → m.Gives c a n b → m.Gives c' (a + n) k b' →
      ((∃ x, m.Gives c'' a (n + k) x) ↔ m.findSegment a = m.findSegment (a + n)) ∧
        ∀ x, m.Gives c'' a (n + k) x → x = b ++ b'

section Disjoint
variable (hs : ∀ s ∈ m.segments, s.Stored) (hd : d.size < Cursor.reach) (hj : m.Disjoint)
include hs hd hj

theorem gives_of_serves {t : Segment} (hc : c.OpenOn d .memory) (hn : 0 < n)
    (hmem : t ∈ m.segments) (h : t.Serves d a n b) : m.Gives c a n b := by
  have hta := h.contains (Int.le_refl a) (by omega)
  exact (gives_iff_serves hc hs hd hn).mpr ⟨t, findSegment_of_disjoint hj hmem hta, h⟩

/-- The segment that serves a span is the one that any of its addresses is found in. -/
theorem exists_serves (hc : c.OpenOn d .memory) (hn : 0 < n) (h : m.Gives c a n b) :
    ∃ t ∈ m.segments, t.Serves d a n b ∧
      ∀ x, a ≤ x → x < a + n → m.findSegment x = some t := by
  obtain ⟨t, ht, hserves⟩ := (gives_iff_serves hc hs hd hn).mp h
  obtain ⟨hmem, -⟩ := mem_of_findSegment ht
  refine ⟨t, hmem, hserves, ?_⟩
  intro x ha hx
  exact findSegment_of_disjoint hj hmem (hserves.contains ha hx)

end Disjoint

/-- A dump without overlaps presents one image of memory. -/
theorem oneImage_of_disjoint (hm : (parse .memory d).result = .ok m) (hd : d.size < Cursor.reach)
    (hj : m.Disjoint) : m.OneImage d := by
  have hs := stored_of_parse hm
  constructor
  case part =>
    intro c c' hc hc' a n b h i j hi hj' hij
    obtain ⟨t, hmem, ht, -⟩ := exists_serves hs hd hj hc (by omega) h
    have hpart := ht.part (hs t hmem) hi (Int.le_of_lt hj') hij
    exact gives_of_serves hs hd hj hc' hj' hmem hpart
  case meet =>
    intro c c' hc hc' a n b a' n' b' h h' x ha hx ha' hx'
    obtain ⟨t, hmem, ht, hfind⟩ := exists_serves hs hd hj hc (by omega) h
    obtain ⟨t', -, ht', hfind'⟩ := exists_serves hs hd hj hc' (by omega) h'
    obtain rfl := Option.some.inj ((hfind x ha hx).symm.trans (hfind' x ha' hx'))
    rw [ht.byteAt (hs t hmem) ha hx, ht'.byteAt (hs t hmem) ha' hx']
  case join =>
    intro c c' c'' hc hc' hc'' a n b k b' hn hk h h'
    obtain ⟨t, hmem, ht, hfind⟩ := exists_serves hs hd hj hc hn h
    obtain ⟨t', -, ht', hfind'⟩ := exists_serves hs hd hj hc' hk h'
    have ha := hfind a (Int.le_refl a) (by omega)
    have ha' := hfind' (a + n) (Int.le_refl _) (by omega)
    have hwhole : t = t' → m.Gives c'' a (n + k) (b ++ b') := by
      rintro rfl
      have hjoin := ht.join (hs t hmem) (Int.le_of_lt hn) (Int.le_of_lt hk) ht'
      exact gives_of_serves hs hd hj hc'' (by omega) hmem hjoin
    -- A read across both spans finds one segment at `a` and at `a + n`.
    have hsame : ∀ x, m.Gives c'' a (n + k) x → t = t' := by
      intro x hx
      obtain ⟨u, -, -, hfind''⟩ := exists_serves hs hd hj hc'' (by omega) hx
      have hu := hfind'' a (Int.le_refl a) (by omega)
      have hu' := hfind'' (a + n) (by omega) (by omega)
      exact (Option.some.inj (ha.symm.trans hu)).trans (Option.some.inj (hu'.symm.trans ha'))
    rw [ha, ha', Option.some_inj]
    constructor
    · constructor
      · rintro ⟨x, hx⟩
        exact hsame x hx
      · intro he
        exact ⟨b ++ b', hwhole he⟩
    · intro x hx
      have heq := hwhole (hsame x hx)
      rw [Gives, hx] at heq
      cases heq
      rfl

/-- A dump of two segments, one right after the other in memory but not in the image. -/
def neighbours : Image :=
  ⟨(Record.pack (⟨Header.magic, 0xA793, 0, 1, 32, 0, 0, 0⟩ : Header) ++
    Record.pack (⟨5, 36, 44⟩ : DirectoryEntry) ++
    Record.pack (2 : UInt32) ++
    Record.pack (⟨0x1000, ⟨4, 84⟩⟩ : MemoryRange) ++
    Record.pack (⟨0x1004, ⟨4, 80⟩⟩ : MemoryRange) ++
    [69, 70, 71, 72, 65, 66, 67, 68]).toArray⟩

theorem neighbours_layout : Acceptable neighbours ∧
    (inPlace neighbours).segments = [⟨0x1000, 4, 84⟩, ⟨0x1004, 4, 80⟩] ∧
    neighbours.size = 88 := by
  decide +kernel

/-- Both segments are read, halves of one are joined, and no read crosses into the other. -/
theorem neighbours_oneImage : ∃ m c, (parse .memory neighbours).result = .ok m ∧
    neighbours.size < Cursor.reach ∧ m.Disjoint ∧ m.OneImage neighbours ∧
    c.OpenOn neighbours .memory ∧
    m.Gives c 0x1000 2 (neighbours.slice 84 2) ∧ m.Gives c 0x1002 2 (neighbours.slice 86 2) ∧
    m.Gives c 0x1004 4 (neighbours.slice 80 4) ∧
    m.Gives c 0x1000 4 (neighbours.slice 84 2 ++ neighbours.slice 86 2) ∧
    ¬ ∃ x, m.Gives c 0x1002 6 x := by
  obtain ⟨hacc, hsegs, hsize⟩ := neighbours_layout
  have hm : (parse .memory neighbours).result = .ok (inPlace neighbours) := parse_of_acceptable hacc
  have hs := stored_of_parse hm
  have hd : neighbours.size < Cursor.reach := by
    rw [hsize]
    decide
  have hj : (inPlace neighbours).Disjoint := by
    rw [Disjoint, hsegs]
    decide
  have hc := Cursor.openOn_start neighbours .memory
  have hone := oneImage_of_disjoint hm hd hj
  have hfirst : (⟨0x1000, 4, 84⟩ : Segment) ∈ (inPlace neighbours).segments := by
    rw [hsegs]
    decide
  have hsecond : (⟨0x1004, 4, 80⟩ : Segment) ∈ (inPlace neighbours).segments := by
    rw [hsegs]
    decide
  have hlow : (inPlace neighbours).Gives (Cursor.start neighbours .memory) 0x1000 2
      (neighbours.slice 84 2) :=
    gives_of_serves hs hd hj hc (by decide) hfirst
      ⟨by decide, by decide, by rw [hsize]; decide, rfl⟩
  have hhigh : (inPlace neighbours).Gives (Cursor.start neighbours .memory) 0x1002 2
      (neighbours.slice 86 2) :=
    gives_of_serves hs hd hj hc (by decide) hfirst
      ⟨by decide, by decide, by rw [hsize]; decide, rfl⟩
  have hnext : (inPlace neighbours).Gives (Cursor.start neighbours .memory) 0x1004 4
      (neighbours.slice 80 4) :=
    gives_of_serves hs hd hj hc (by decide) hsecond
      ⟨by decide, by decide, by rw [hsize]; decide, rfl⟩
  have hsame : (inPlace neighbours).findSegment 0x1000 =
      (inPlace neighbours).findSegment (0x1000 + 2) := by
    rw [findSegment, findSegment, hsegs]
    decide
  have hother : (inPlace neighbours).findSegment 0x1002 ≠
      (inPlace neighbours).findSegment (0x1002 + 2) := by
    rw [findSegment, findSegment, hsegs]
    decide
  obtain ⟨hjoin, hwhole⟩ :=
    hone.join _ _ _ hc hc hc 0x1000 2 _ 2 _ (by decide) (by decide) hlow hhigh
  obtain ⟨hcross, -⟩ := hone.join _ _ _ hc hc hc 0x1002 2 _ 4 _ (by decide) (by decide) hhigh hnext
  obtain ⟨x, hx⟩ := hjoin.mpr hsame
  obtain rfl := hwhole x hx
  exact ⟨_, _, hm, hd, hj, hone, hc, hlow, hhigh, hnext, hx, mt hcross.mp hother⟩

end Dump

end CrashDump
