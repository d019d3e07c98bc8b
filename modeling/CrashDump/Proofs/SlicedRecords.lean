import CrashDump.Proofs.Acceptance
import CrashDump.Proofs.PackedRecords

/-! # Records from slices

Every record of a parsed dump is decoded from a slice of its own, whose place is arithmetic in
the offset of its stream and its number there. A name depends on nothing but the image and the
offset its record gives, so nothing read before a record bears on it.
-/
namespace CrashDump

namespace Record
variable {α : Type} [Record α] {d : Image}

/-- The record that the slice at an offset encodes. -/
def ofSlice (α : Type) [Record α] (d : Image) (off : Nat) : α :=
  readAt (d.slice off (size α)) 0

theorem ofSlice_eq {off : Nat} (h : d.Fits off (size α)) : ofSlice α d off = readAt d off :=
  readAt_slice h

theorem run_eq_slices {n off count : Nat} (hn : size α = n) (h : d.Fits off (n * count)) :
    run α d off count = (List.range count).map fun i => ofSlice α d (off + n * i) := by
  subst hn
  apply List.map_congr_left
  intro i hi
  have hm : size α * (i + 1) ≤ size α * count :=
    Nat.mul_le_mul_left _ (List.mem_range.mp hi)
  have hf : d.Fits (off + size α * i) (size α) := by
    rw [Nat.mul_succ] at hm
    omega
  exact (ofSlice_eq hf).symm

/-- What a run takes lies in the image. -/
theorem run_taken_eq_slices [Readable α] {n r head : Nat} (hn : size α = n)
    (h : d.Fits r head) (count : Nat) :
    run α d (r + head) (runLength α d (r + head) count) =
      (List.range (min count ((d.size - r - head) / n))).map fun i =>
        ofSlice α d (r + head + n * i) := by
  have hf : d.Fits (r + head) (n * runLength α d (r + head) count) := by
    rw [← hn, ← runLength_eq_iff h, runLength, runLength]
    omega
  rw [run_eq_slices hn hf, runLength, hn, Nat.sub_add_eq]

end Record

namespace DirectoryEntry
variable {d : Image} {e : DirectoryEntry} {k : StreamKind}

/-- What only streams of one kind have, an entry with another tag has not. -/
theorem inPlace_of_not_tag {β : Type} {x : Stream → β} {none : β} (hu : x .unrecognised = none)
    (ho : ∀ r l, l ≠ k → x (Decoded.inPlace d r l).stream = none)
    (h : ¬ e.tag.toNat = k.tag.toNat) : x (e.inPlace d).stream = none := by
  rw [inPlace]
  cases hk : e.kind? with
  | none => exact hu
  | some l =>
    refine ho _ l ?_
    rintro rfl
    exact h (kind?_eq_some_iff.mp hk)

end DirectoryEntry

namespace Dump
variable {d : Image} {es : List DirectoryEntry} {k : StreamKind} {tag : Nat}

/-- The entries with a tag, in directory order. -/
def tagged (m : Dump) (tag : Nat) : List DirectoryEntry :=
  m.directory.filter fun e => e.tag.toNat = tag

theorem flatMap_of_kind {β : Type} {x : Stream → List β} {y : DirectoryEntry → List β}
    (ht : k.tag.toNat = tag) (hu : x .unrecognised = [])
    (ho : ∀ r l, l ≠ k → x (Decoded.inPlace d r l).stream = [])
    (hk : ∀ e ∈ es, e.tag.toNat = k.tag.toNat → x (Decoded.inPlace d e.offset k).stream = y e) :
    (es.map fun e => (e.inPlace d).stream).flatMap x =
      (es.filter fun e => e.tag.toNat = tag).flatMap y := by
  subst ht
  induction es with
  | nil => rfl
  | cons e es ih =>
    have ih := ih fun e' he' => hk e' (List.mem_cons_of_mem e he')
    rw [List.map_cons, List.flatMap_cons, ih]
    by_cases h : e.tag.toNat = k.tag.toNat
    · rw [List.filter_cons_of_pos (by simpa using h), List.flatMap_cons,
        DirectoryEntry.inPlace_of_tag h, hk e List.mem_cons_self h]
    · rw [List.filter_cons_of_neg (by simpa using h),
        DirectoryEntry.inPlace_of_not_tag hu ho h, List.nil_append]

theorem filterMap_of_kind {β : Type} {x : Stream → Option β} {y : DirectoryEntry → β}
    (ht : k.tag.toNat = tag) (hu : x .unrecognised = none)
    (ho : ∀ r l, l ≠ k → x (Decoded.inPlace d r l).stream = none)
    (hk : ∀ e ∈ es, e.tag.toNat = k.tag.toNat →
      x (Decoded.inPlace d e.offset k).stream = some (y e)) :
    (es.map fun e => (e.inPlace d).stream).filterMap x =
      (es.filter fun e => e.tag.toNat = tag).map y := by
  subst ht
  induction es with
  | nil => rfl
  | cons e es ih =>
    have ih := ih fun e' he' => hk e' (List.mem_cons_of_mem e he')
    rw [List.map_cons]
    by_cases h : e.tag.toNat = k.tag.toNat
    · have hx : x (e.inPlace d).stream = some (y e) := by
        rw [DirectoryEntry.inPlace_of_tag h, hk e List.mem_cons_self h]
      rw [List.filterMap_cons_some hx, ih, List.filter_cons_of_pos (by simpa using h),
        List.map_cons]
    · rw [List.filterMap_cons_none (DirectoryEntry.inPlace_of_not_tag hu ho h), ih,
        List.filter_cons_of_neg (by simpa using h)]

/-- Every list and every record of a dump, given by slices of the image it was parsed from. -/
structure SlicedFrom (d : Image) (m : Dump) : Prop where
  directory : m.directory = (List.range (d.natAt 8 4)).map fun i =>
    Record.ofSlice DirectoryEntry d (d.natAt 12 4 + 12 * i)
  threads : m.threads = (m.tagged 3).flatMap fun e =>
    (List.range (d.natAt e.offset 4)).map fun i =>
      Record.ofSlice Thread d (e.offset + 4 + 40 * i)
  modules : m.modules = (m.tagged 4).flatMap fun e =>
    (List.range (d.natAt e.offset 4)).map fun i =>
      (Record.ofSlice ModuleRecord d (e.offset + 4 + 108 * i)).named d
  handles : m.handles = (m.tagged 12).flatMap fun e =>
    (List.range (min (d.natAt (e.offset + 8) 4) ((d.size - e.offset - 16) / 32))).map fun i =>
      (Record.ofSlice HandleRecord d (e.offset + 16 + 32 * i)).named d
  regions : m.regions = (m.tagged 16).flatMap fun e =>
    (List.range (min (min (d.natAt (e.offset + 8) 8) 10000)
      ((d.size - e.offset - 16) / 48))).map fun i =>
        Record.ofSlice Region d (e.offset + 16 + 48 * i)
  systemInfo : m.systemInfo = (m.tagged 7).getLast?.map fun e =>
    (Record.ofSlice SystemRecord d e.offset).named d
  exception : m.exception = (m.tagged 6).getLast?.map fun e =>
    Record.ofSlice ExceptionInfo d e.offset
  miscInfo : m.miscInfo = (m.tagged 15).getLast?.map fun e => Record.ofSlice MiscInfo d e.offset

section Fields
variable (hw : WellFormed d)
include hw

theorem directory_sliced : directoryIn d = (List.range (d.natAt 8 4)).map fun i =>
    Record.ofSlice DirectoryEntry d (d.natAt 12 4 + 12 * i) :=
  Record.run_eq_slices Record.size_directoryEntry hw.directory

theorem threads_sliced : (inPlace d).threads = ((inPlace d).tagged 3).flatMap fun e =>
    (List.range (d.natAt e.offset 4)).map fun i =>
      Record.ofSlice Thread d (e.offset + 4 + 40 * i) := by
  simp only [tagged, inPlace, Contents.ofStreams]
  refine flatMap_of_kind (k := .threadList) rfl rfl ?_ ?_
  · intro r l hl
    cases l with
    | threadList => exact absurd rfl hl
    | _ => rfl
  · intro e he ht
    have hf := DirectoryEntry.fits_of_tag ht (hw.entries e he)
    exact Record.run_eq_slices Record.size_thread hf.2

theorem modules_sliced : (inPlace d).modules = ((inPlace d).tagged 4).flatMap fun e =>
    (List.range (d.natAt e.offset 4)).map fun i =>
      (Record.ofSlice ModuleRecord d (e.offset + 4 + 108 * i)).named d := by
  simp only [tagged, inPlace, Contents.ofStreams]
  refine flatMap_of_kind (k := .moduleList) rfl rfl ?_ ?_
  · intro r l hl
    cases l with
    | moduleList => exact absurd rfl hl
    | _ => rfl
  · intro e he ht
    have hf := DirectoryEntry.fits_of_tag ht (hw.entries e he)
    simp only [Decoded.inPlace, Stream.moduleList,
      Record.run_eq_slices Record.size_moduleRecord hf.2, List.map_map, Function.comp_def]

theorem handles_sliced : (inPlace d).handles = ((inPlace d).tagged 12).flatMap fun e =>
    (List.range (min (d.natAt (e.offset + 8) 4) ((d.size - e.offset - 16) / 32))).map fun i =>
      (Record.ofSlice HandleRecord d (e.offset + 16 + 32 * i)).named d := by
  simp only [tagged, inPlace, Contents.ofStreams]
  refine flatMap_of_kind (k := .handleData) rfl rfl ?_ ?_
  · intro r l hl
    cases l with
    | handleData => exact absurd rfl hl
    | _ => rfl
  · intro e he ht
    have hf := DirectoryEntry.fits_of_tag ht (hw.entries e he)
    simp only [Decoded.inPlace, Decoded.ofRun, Stream.handleList,
      Record.run_taken_eq_slices Record.size_handleRecord hf, List.map_map, Function.comp_def]

theorem regions_sliced : (inPlace d).regions = ((inPlace d).tagged 16).flatMap fun e =>
    (List.range (min (min (d.natAt (e.offset + 8) 8) 10000)
      ((d.size - e.offset - 16) / 48))).map fun i =>
        Record.ofSlice Region d (e.offset + 16 + 48 * i) := by
  simp only [tagged, inPlace, Contents.ofStreams]
  refine flatMap_of_kind (k := .memoryInfoList) rfl rfl ?_ ?_
  · intro r l hl
    cases l with
    | memoryInfoList => exact absurd rfl hl
    | _ => rfl
  · intro e he ht
    have hf := DirectoryEntry.fits_of_tag ht (hw.entries e he)
    simp only [Decoded.inPlace, Decoded.ofRun, Stream.regionList, listLimit,
      Record.run_taken_eq_slices Record.size_region hf.1]

theorem systemInfo_sliced : (inPlace d).systemInfo = ((inPlace d).tagged 7).getLast?.map fun e =>
    (Record.ofSlice SystemRecord d e.offset).named d := by
  simp only [tagged, inPlace, Contents.ofStreams, ← List.getLast?_map]
  refine congrArg _ (filterMap_of_kind (k := .systemInfo) rfl rfl ?_ ?_)
  · intro r l hl
    cases l with
    | systemInfo => exact absurd rfl hl
    | _ => rfl
  · intro e he ht
    have hf : d.Fits e.offset (Record.size SystemRecord) :=
      DirectoryEntry.fits_of_tag ht (hw.entries e he)
    simp only [Decoded.inPlace, Stream.systemInfo?, Record.ofSlice_eq hf]

theorem exception_sliced : (inPlace d).exception = ((inPlace d).tagged 6).getLast?.map fun e =>
    Record.ofSlice ExceptionInfo d e.offset := by
  simp only [tagged, inPlace, Contents.ofStreams, ← List.getLast?_map]
  refine congrArg _ (filterMap_of_kind (k := .exception) rfl rfl ?_ ?_)
  · intro r l hl
    cases l with
    | exception => exact absurd rfl hl
    | _ => rfl
  · intro e he ht
    have hf : d.Fits e.offset (Record.size ExceptionInfo) :=
      DirectoryEntry.fits_of_tag ht (hw.entries e he)
    simp only [Decoded.inPlace, Stream.exception?, Record.ofSlice_eq hf]

theorem miscInfo_sliced : (inPlace d).miscInfo = ((inPlace d).tagged 15).getLast?.map fun e =>
    Record.ofSlice MiscInfo d e.offset := by
  simp only [tagged, inPlace, Contents.ofStreams, ← List.getLast?_map]
  refine congrArg _ (filterMap_of_kind (k := .miscInfo) rfl rfl ?_ ?_)
  · intro r l hl
    cases l with
    | miscInfo => exact absurd rfl hl
    | _ => rfl
  · intro e he ht
    have hf : d.Fits e.offset (Record.size MiscInfo) :=
      DirectoryEntry.fits_of_tag ht (hw.entries e he)
    simp only [Decoded.inPlace, Stream.miscInfo?, Record.ofSlice_eq hf]

end Fields

/-- The parse of a dump refines decoding slice by slice. -/
theorem parse_refines_slices {source : Source} {m : Dump}
    (h : (parse source d).result = .ok m) : SlicedFrom d m := by
  obtain ⟨hw, rfl⟩ := parse_eq_ok_iff.mp h
  exact
    { directory := directory_sliced hw
      threads := threads_sliced hw
      modules := modules_sliced hw
      handles := handles_sliced hw
      regions := regions_sliced hw
      systemInfo := systemInfo_sliced hw
      exception := exception_sliced hw
      miscInfo := miscInfo_sliced hw }

/-- A dump of two modules, whose names stand before the list. The second record is read once the
first name was. One name closes a tag. -/
def twoModules : Image :=
  let version : FileVersion := ⟨0, 0, 0, 0, 0, 0, 0, 0, 0, 0, 0, 0, 0⟩
  ⟨(Record.pack (⟨Header.magic, 0xA793, 0, 1, 32, 0, 0, 0⟩ : Header) ++
    Record.pack (⟨4, 220, 62⟩ : DirectoryEntry) ++ [2, 0, 0, 0, 97, 0] ++
    [8, 0, 0, 0, 91, 0, 47, 0, 120, 0, 93, 0] ++ Record.pack (2 : UInt32) ++
    Record.pack (⟨0x400000, 0x1000, 0, 0, 44, version, ⟨0, 0⟩, ⟨0, 0⟩, 0, 0⟩ : ModuleRecord) ++
    Record.pack (⟨0x7000, 0x20, 0, 0, 50, version, ⟨0, 0⟩, ⟨0, 0⟩, 0, 0⟩ : ModuleRecord)).toArray⟩

theorem wellFormed_twoModules : WellFormed twoModules :=
  (wellFormed_iff_acceptable twoModules).mpr (by decide +kernel)

theorem inPlace_twoModules :
    (inPlace twoModules).modules.map (fun x => (x.record.base, x.name)) =
      [(0x400000, some "a"), (0x7000, some "[/x]")] ∧
    (inPlace twoModules).segments = [] ∧ (inPlace twoModules).tagged 7 = [] := by
  decide +kernel

theorem twoModules_sliced : ∃ m, (parse (.file .usual) twoModules).result = .ok m ∧
    m.modules.map (fun x => (x.record.base, x.name)) =
      [(0x400000, some "a"), (0x7000, some "[/x]")] ∧ SlicedFrom twoModules m := by
  have hm : (parse (.file .usual) twoModules).result = .ok (inPlace twoModules) :=
    parse_eq_ok_iff.mpr ⟨wellFormed_twoModules, rfl⟩
  exact ⟨_, hm, inPlace_twoModules.1, parse_refines_slices hm⟩

end Dump

end CrashDump
