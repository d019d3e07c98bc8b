import CrashDump.Proofs.Footprint
import CrashDump.Proofs.SlicedRecords
import CrashDump.Proofs.SpanReads
import Mathlib.Algebra.Ring.Int.Defs

/-! # Bounds of a parsed dump

However hostile an image is, the dump parsed from it keeps within the widths of its fields, the
limits on its lists and the form of its names. So a search always comes upon what the dump holds,
if not upon something that stands before it.
-/
namespace CrashDump

/-! ## Names -/

/-- A text as names are: short, and of ASCII characters other than NUL. -/
structure IsName (s : String) : Prop where
  length : s.length ≤ 1023
  chars : ∀ c ∈ s.toList, 1 ≤ c.toNat ∧ c.toNat ≤ 127

theorem length_utf16Units (bytes : List UInt8) :
    (utf16Units bytes).length = bytes.length / 2 := by
  fun_induction utf16Units bytes with
  | case1 low high rest ih =>
    rw [List.length_cons, ih, List.length_cons, List.length_cons]
    omega
  | case2 bytes h =>
    rcases bytes with _ | ⟨b, _ | ⟨c, rest⟩⟩
    · rfl
    · simp
    · exact absurd rfl (h b c rest)

theorem length_asciiOfUtf16_le (bytes : List UInt8) :
    (asciiOfUtf16 bytes).length ≤ bytes.length / 2 := by
  rw [asciiOfUtf16, String.length_ofList, List.length_map, ← length_utf16Units]
  exact List.length_filter_le _ _

theorem isAscii_of_mem_asciiOfUtf16 {bytes : List UInt8} {c : Char}
    (h : c ∈ (asciiOfUtf16 bytes).toList) : 1 ≤ c.toNat ∧ c.toNat ≤ 127 := by
  rw [asciiOfUtf16, String.toList_ofList] at h
  obtain ⟨u, hu, rfl⟩ := List.mem_map.mp h
  have hb : 0 < u ∧ u < 128 := by simpa using (List.mem_filter.mp hu).2
  rw [char_toNat_ofNat (by omega)]
  omega

theorem isName_of_nameAt {d : Image} {rva : Nat} {s : String} (h : nameAt d rva = some s) :
    IsName s := by
  simp only [nameAt] at h
  split_ifs at h with _ hn
  obtain rfl := Option.some.inj h
  constructor
  case length =>
    have hl : d.natAt rva 4 < 2048 := by
      have hb : 0 < d.natAt rva 4 ∧ d.natAt rva 4 < nameLimit := by
        simpa [isNameLength] using hn.1
      exact hb.2
    have hs : (d.slice (rva + 4) (d.natAt rva 4)).bytes.length = d.natAt rva 4 :=
      Image.size_slice hn.2
    have hc := length_asciiOfUtf16_le (d.slice (rva + 4) (d.natAt rva 4)).bytes
    omega
  case chars => exact fun c => isAscii_of_mem_asciiOfUtf16

/-! ## Segments and lists -/

/-- A segment as it can be stored: its address and size are 64-bit words, its place in the image
is not negative, and it is not empty. -/
structure Segment.InBounds (s : Segment) : Prop where
  start : 0 ≤ s.start ∧ s.start < 2 ^ 64
  size : 0 < s.size ∧ s.size < 2 ^ 64
  file : 0 ≤ s.file

theorem Segment.InBounds.of_nat {start size file : Nat} (hs : start < 2 ^ 64)
    (hz : size ≠ 0) (hl : size < 2 ^ 64) : (⟨start, size, file⟩ : Segment).InBounds where
  start := ⟨Int.natCast_nonneg start, show (start : Int) < 2 ^ 64 by exact_mod_cast hs⟩
  size := ⟨Int.natCast_pos.mpr (Nat.pos_of_ne_zero hz),
    show (size : Int) < 2 ^ 64 by exact_mod_cast hl⟩
  file := Int.natCast_nonneg _

theorem Segment.contains_of_le {s : Segment} {a : Int} (ha : s.start ≤ a)
    (hb : a ≤ s.start + s.size - 1) : s.contains a = true :=
  contains_iff.mpr ⟨ha, by rw [endAddress]; omega⟩

namespace Dump
variable {d : Image}

theorem inBounds_of_mem_segmentsOf {e : DirectoryEntry} {s : Segment} (h : s ∈ segmentsOf d e) :
    s.InBounds := by
  obtain ⟨_, _, _, rfl, hs, hl, hz⟩ := words_of_mem_segmentsOf h
  exact .of_nat hs hz hl

theorem length_filter_range_le {n limit : Nat} (p : Nat → Bool) (h : n ≤ limit) :
    ((List.range n).filter p).length ≤ limit := by
  have hf := List.length_filter_le p (List.range n)
  rw [List.length_range] at hf
  omega

theorem length_segmentsOf_le (d : Image) (e : DirectoryEntry) :
    (segmentsOf d e).length ≤ 10000 := by
  rw [segmentsOf]
  split
  · rw [packedAt, List.length_map]
    exact length_filter_range_le _ (by omega)
  · rw [placedAt, List.length_map]
    exact length_filter_range_le _ (by omega)
  · exact Nat.zero_le _

/-- The regions of the stream at an offset. -/
def regionsAt (d : Image) (r : Nat) : List Region :=
  (List.range (min (min (d.natAt (r + 8) 8) 10000) ((d.size - r - 16) / 48))).map fun i =>
    Record.ofSlice Region d (r + 16 + 48 * i)

theorem length_regionsAt_le (d : Image) (r : Nat) : (regionsAt d r).length ≤ 10000 := by
  rw [regionsAt, List.length_map, List.length_range]
  omega

end Dump

/-! ## Searches -/

/-- A search for the first element with a property ends no later than at any that has it. -/
theorem exists_find?_of_getElem {α : Type} {p : α → Bool} {xs : List α} {k : Nat}
    (hk : k < xs.length) (hp : p xs[k] = true) :
    ∃ x, xs.find? p = some x ∧ ∃ j ≤ k, xs[j]? = some x := by
  obtain ⟨x, hx⟩ := Option.isSome_iff_exists.mp
    (List.find?_isSome.mpr ⟨xs[k], List.getElem_mem hk, hp⟩)
  obtain ⟨-, j, hj, rfl, hfirst⟩ := List.find?_eq_some_iff_getElem.mp hx
  refine ⟨xs[j], hx, j, ?_, List.getElem?_eq_getElem hj⟩
  by_contra hjk
  have hno := hfirst k (by omega)
  rw [hp] at hno
  cases hno

namespace Dump
variable {d : Image} {m : Dump} {source : Source}

/-- What holds of every parsed dump, whatever the image says. -/
structure Bounded (d : Image) (m : Dump) : Prop where
  segments : ∀ s ∈ m.segments, s.InBounds
  segmentLists : m.segments = m.directory.flatMap (segmentsOf d) ∧
    ∀ e ∈ m.directory, (segmentsOf d e).length ≤ 10000
  regionLists : m.regions = (m.tagged 16).flatMap (fun e => regionsAt d e.offset) ∧
    ∀ e ∈ m.tagged 16, (regionsAt d e.offset).length ≤ 10000
  moduleNames : ∀ x ∈ m.modules, ∀ s, x.name = some s → IsName s
  typeNames : ∀ h ∈ m.handles, ∀ s, h.typeName = some s → IsName s
  objectNames : ∀ h ∈ m.handles, ∀ s, h.objectName = some s → IsName s
  servicePack : ∀ x, m.systemInfo = some x → ∀ s, x.servicePack = some s → IsName s
  moduleEnds : ∀ x ∈ m.modules,
    x.record.endAddress = x.record.base.toNat + x.record.size.toNat ∧
      x.record.base.toNat ≤ x.record.endAddress
  directory : m.directory.length = m.header.streamCount.toNat ∧ 0 < m.directory.length
  segmentFound : ∀ k (hk : k < m.segments.length) (a : Int), m.segments[k].start ≤ a →
    a ≤ m.segments[k].start + m.segments[k].size - 1 →
      ∃ t, m.findSegment a = some t ∧ ∃ j ≤ k, m.segments[j]? = some t
  moduleFound : ∀ k (hk : k < m.modules.length) (a : Int),
    (m.modules[k].record.base.toNat : Int) ≤ a → a < m.modules[k].record.endAddress →
      ∃ x, m.findModuleAt a = some x ∧ ∃ j ≤ k, m.modules[j]? = some x

theorem exists_findSegment_of_getElem {k : Nat} (hk : k < m.segments.length) {a : Int}
    (ha : m.segments[k].contains a = true) :
    ∃ t, m.findSegment a = some t ∧ ∃ j ≤ k, m.segments[j]? = some t :=
  exists_find?_of_getElem hk ha

theorem exists_findModuleAt_of_getElem {k : Nat} (hk : k < m.modules.length) {a : Int}
    (hb : (m.modules[k].record.base.toNat : Int) ≤ a) (he : a < m.modules[k].record.endAddress) :
    ∃ x, m.findModuleAt a = some x ∧ ∃ j ≤ k, m.modules[j]? = some x :=
  exists_find?_of_getElem hk (by simp [hb, he])

section Fields
variable (hw : WellFormed d)
include hw

theorem exists_named_of_mem_modules {x : Module} (h : x ∈ (inPlace d).modules) :
    ∃ r : ModuleRecord, x = r.named d := by
  rw [modules_sliced hw] at h
  obtain ⟨e, -, hx⟩ := List.mem_flatMap.mp h
  obtain ⟨i, -, rfl⟩ := List.mem_map.mp hx
  exact ⟨_, rfl⟩

theorem exists_named_of_mem_handles {x : Handle} (h : x ∈ (inPlace d).handles) :
    ∃ r : HandleRecord, x = r.named d := by
  rw [handles_sliced hw] at h
  obtain ⟨e, -, hx⟩ := List.mem_flatMap.mp h
  obtain ⟨i, -, rfl⟩ := List.mem_map.mp hx
  exact ⟨_, rfl⟩

theorem exists_named_of_systemInfo {x : SystemInfo} (h : (inPlace d).systemInfo = some x) :
    ∃ r : SystemRecord, x = r.named d := by
  rw [systemInfo_sliced hw] at h
  obtain ⟨e, -, rfl⟩ := Option.map_eq_some_iff.mp h
  exact ⟨_, rfl⟩

end Fields

theorem parse_bounded (h : (parse source d).result = .ok m) : m.Bounded d := by
  obtain ⟨hw, rfl⟩ := parse_eq_ok_iff.mp h
  constructor
  case segments =>
    intro s hs
    rw [segments_inPlace] at hs
    obtain ⟨e, -, hs⟩ := List.mem_flatMap.mp hs
    exact inBounds_of_mem_segmentsOf hs
  case segmentLists => exact ⟨segments_inPlace d, fun e _ => length_segmentsOf_le d e⟩
  case regionLists => exact ⟨regions_sliced hw, fun e _ => length_regionsAt_le d e.offset⟩
  case moduleNames =>
    intro x hx s hs
    obtain ⟨r, rfl⟩ := exists_named_of_mem_modules hw hx
    exact isName_of_nameAt hs
  case typeNames =>
    intro x hx s hs
    obtain ⟨r, rfl⟩ := exists_named_of_mem_handles hw hx
    exact isName_of_nameAt hs
  case objectNames =>
    intro x hx s hs
    obtain ⟨r, rfl⟩ := exists_named_of_mem_handles hw hx
    exact isName_of_nameAt hs
  case servicePack =>
    intro x hx s hs
    obtain ⟨r, rfl⟩ := exists_named_of_systemInfo hw hx
    exact isName_of_nameAt hs
  case moduleEnds => exact fun x _ => ⟨rfl, Nat.le_add_right _ _⟩
  case directory =>
    have hl : (directoryIn d).length = d.natAt 8 4 := Record.length_run d _ _
    rw [directory_inPlace, header_inPlace, Header.toNat_streamCount, hl]
    exact ⟨rfl, hw.streams⟩
  case segmentFound =>
    intro k hk a ha hb
    exact exists_findSegment_of_getElem hk (Segment.contains_of_le ha hb)
  case moduleFound => exact fun k hk a => exists_findModuleAt_of_getElem hk

theorem namedModule_bounded : ∃ m, (parse .memory (namedModule ++ someBytes)).result = .ok m ∧
    m.modules.map (·.name) = [some "a"] ∧ m.segments = [⟨0x9000, 2, 206⟩] ∧
    m.Bounded (namedModule ++ someBytes) := by
  obtain ⟨hacc, -, hnames, hsegs, -, -⟩ := namedModule_layout
  have hm : (parse .memory (namedModule ++ someBytes)).result =
      .ok (inPlace (namedModule ++ someBytes)) := parse_of_acceptable hacc
  exact ⟨_, hm, hnames, hsegs, parse_bounded hm⟩

end Dump

end CrashDump
