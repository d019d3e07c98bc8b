import CrashDump.Proofs.AddressSpace
import CrashDump.Proofs.Beginnings
import Mathlib.Data.List.Forall2

/-! # Appended bytes

A dump stays a dump when its image goes on. Nothing that was decoded changes: the lists that the
end of the image cut short go on where they stopped, and names that ran past it may be supplied.
What was rejected for another reason than a lack of bytes is rejected for the same reason.
-/
namespace CrashDump

/-! ## Names read again -/

/-- The record with its name looked up in another image. -/
def Module.reread (e : Image) (x : Module) : Module := x.record.named e

def Handle.reread (e : Image) (x : Handle) : Handle := x.record.named e

def SystemInfo.reread (e : Image) (x : SystemInfo) : SystemInfo := x.record.named e

def Stream.reread (e : Image) : Stream → Stream
  | modules ms => modules (ms.map (Module.reread e))
  | handles hs => handles (hs.map (Handle.reread e))
  | systemInfo s => systemInfo (s.reread e)
  | x => x

def Contents.reread (e : Image) (c : Contents) : Contents :=
  { c with
    modules := c.modules.map (Module.reread e)
    handles := c.handles.map (Handle.reread e)
    systemInfo := c.systemInfo.map (SystemInfo.reread e) }

section Views
variable (e : Image) (x : Stream)

theorem Stream.threadList_reread : (x.reread e).threadList = x.threadList := by
  cases x <;> rfl

theorem Stream.moduleList_reread :
    (x.reread e).moduleList = x.moduleList.map (Module.reread e) := by
  cases x <;> rfl

theorem Stream.segmentList_reread : (x.reread e).segmentList = x.segmentList := by
  cases x <;> rfl

theorem Stream.regionList_reread : (x.reread e).regionList = x.regionList := by
  cases x <;> rfl

theorem Stream.handleList_reread :
    (x.reread e).handleList = x.handleList.map (Handle.reread e) := by
  cases x <;> rfl

theorem Stream.systemInfo?_reread :
    (x.reread e).systemInfo? = x.systemInfo?.map (SystemInfo.reread e) := by
  cases x <;> rfl

theorem Stream.exception?_reread : (x.reread e).exception? = x.exception? := by
  cases x <;> rfl

theorem Stream.miscInfo?_reread : (x.reread e).miscInfo? = x.miscInfo? := by
  cases x <;> rfl

end Views

section ContentsViews
variable (e : Image) (c : Contents)

theorem Contents.threads_reread : (c.reread e).threads = c.threads := rfl

theorem Contents.modules_reread :
    (c.reread e).modules = c.modules.map (Module.reread e) := rfl

theorem Contents.systemInfo_reread :
    (c.reread e).systemInfo = c.systemInfo.map (SystemInfo.reread e) := rfl

theorem Contents.segments_reread : (c.reread e).segments = c.segments := rfl

theorem Contents.exception_reread : (c.reread e).exception = c.exception := rfl

theorem Contents.miscInfo_reread : (c.reread e).miscInfo = c.miscInfo := rfl

end ContentsViews

theorem Contents.ofStreams_reread (e : Image) (xs : List Stream) :
    ofStreams (xs.map (Stream.reread e)) = (ofStreams xs).reread e := by
  simp only [ofStreams, reread, List.flatMap_map, List.map_flatMap, List.filterMap_map,
    Function.comp_def, ← List.getLast?_map, List.map_filterMap, Stream.threadList_reread,
    Stream.moduleList_reread, Stream.segmentList_reread, Stream.regionList_reread,
    Stream.handleList_reread, Stream.systemInfo?_reread, Stream.exception?_reread,
    Stream.miscInfo?_reread]

/-! ## Lists that go on -/

/-- The same stream, of which a list may have become longer. -/
inductive Stream.GoesOn : Stream → Stream → Prop
  | refl (x : Stream) : GoesOn x x
  | segments {ss ss' : List Segment} (h : ss <+: ss') : GoesOn (.segments ss) (.segments ss')
  | regions {rs rs' : List Region} (h : rs <+: rs') : GoesOn (.regions rs) (.regions rs')
  | handles {hs hs' : List Handle} (h : hs <+: hs') : GoesOn (.handles hs) (.handles hs')

namespace Stream.GoesOn
variable {x y : Stream}

theorem threadList (h : x.GoesOn y) : y.threadList = x.threadList := by cases h <;> rfl

theorem moduleList (h : x.GoesOn y) : y.moduleList = x.moduleList := by cases h <;> rfl

theorem systemInfo? (h : x.GoesOn y) : y.systemInfo? = x.systemInfo? := by cases h <;> rfl

theorem exception? (h : x.GoesOn y) : y.exception? = x.exception? := by cases h <;> rfl

theorem miscInfo? (h : x.GoesOn y) : y.miscInfo? = x.miscInfo? := by cases h <;> rfl

/-- A stream that stays what it was goes on whatever is asked of it. -/
theorem of_eq {p : Prop} (h : y = x) : x.GoesOn y ∧ (p → y = x) := by
  subst h
  exact ⟨.refl y, fun _ => rfl⟩

theorem segmentList (h : x.GoesOn y) : x.segmentList <+: y.segmentList := by
  cases h with
  | segments h => exact h
  | _ => exact List.prefix_rfl

theorem regionList (h : x.GoesOn y) : x.regionList <+: y.regionList := by
  cases h with
  | regions h => exact h
  | _ => exact List.prefix_rfl

theorem handleList (h : x.GoesOn y) : x.handleList <+: y.handleList := by
  cases h with
  | handles h => exact h
  | _ => exact List.prefix_rfl

end Stream.GoesOn

theorem Segment.packed_prefix (rva : Nat) {rs ss : List MemoryRange64} (h : rs <+: ss) :
    packed rva rs <+: packed rva ss := by
  obtain ⟨more, rfl⟩ := h
  rw [packed_append]
  exact List.prefix_append _ _

theorem Segment.placed_prefix {rs ss : List MemoryRange} (h : rs <+: ss) :
    placed rs <+: placed ss := (h.filter _).map _

/-! ## Streams of an image that goes on -/

/-- Whether a notice tells of a list that the image ends in. -/
def Notice.isCut : Notice → Bool
  | memory64Capped _ => false
  | _ => true

theorem StreamKind.fits_of_begins {d e : Image} {r : Nat} {k : StreamKind} (h : d.Begins e)
    (hf : k.Fits d r) : k.Fits e r := fits_of_same h.size_le (h.same hf.head) hf

theorem map_reread_modules (d e : Image) (rs : List ModuleRecord) :
    (rs.map (ModuleRecord.named d)).map (Module.reread e) = rs.map (ModuleRecord.named e) := by
  rw [List.map_map]
  rfl

theorem map_reread_handles (d e : Image) (rs : List HandleRecord) :
    (rs.map (HandleRecord.named d)).map (Handle.reread e) = rs.map (HandleRecord.named e) := by
  rw [List.map_map]
  rfl

namespace Decoded
variable {d e : Image} {r : Nat} {k : StreamKind}

/-- A run that may be cut short goes on with its image, or stays if it was not cut. -/
theorem run_of_ofRun {α : Type} [Record α] [Record.Readable α] (h : d.Begins e)
    (cut : Nat → Notice) (hc : ∀ n, (cut n).isCut = true) (x : List α → Stream)
    (off count : Nat) :
    Record.run α d off (Record.runLength α d off count) <+:
        Record.run α e off (Record.runLength α e off count) ∧
      ((∀ n ∈ (ofRun x cut d off count).notices, n.isCut = false) →
        Record.run α e off (Record.runLength α e off count) =
          Record.run α d off (Record.runLength α d off count)) := by
  refine ⟨Record.run_taken_prefix h off count, fun hn => Record.run_taken_eq h ?_⟩
  by_contra hlt
  rw [ofRun, if_pos (Nat.lt_of_not_le hlt)] at hn
  have hcut := hn _ (List.mem_singleton_self _)
  rw [hc] at hcut
  cases hcut

/-- A stream of an image is there again where the image goes on. -/
theorem inPlace_of_begins (h : d.Begins e) (hf : k.Fits d r) :
    ((inPlace d r k).stream.reread e).GoesOn (inPlace e r k).stream ∧
      ((∀ n ∈ (inPlace d r k).notices, n.isCut = false) →
        (inPlace e r k).stream = (inPlace d r k).stream.reread e) := by
  cases k with
  | threadList =>
    apply Stream.GoesOn.of_eq
    simp only [inPlace, Stream.reread, h.natAt hf.1, Record.run_of_begins (α := Thread) h hf.2]
  | moduleList =>
    apply Stream.GoesOn.of_eq
    simp only [inPlace, Stream.reread, map_reread_modules, h.natAt hf.1,
      Record.run_of_begins (α := ModuleRecord) h hf.2]
  | exception =>
    apply Stream.GoesOn.of_eq
    simp only [inPlace, Stream.reread, Record.readAt_of_begins (α := ExceptionInfo) h hf]
  | systemInfo =>
    apply Stream.GoesOn.of_eq
    simp only [inPlace, Stream.reread, SystemInfo.reread, SystemRecord.named,
      Record.readAt_of_begins (α := SystemRecord) h hf]
  | miscInfo =>
    apply Stream.GoesOn.of_eq
    simp only [inPlace, Stream.reread, Record.readAt_of_begins (α := MiscInfo) h hf]
  | memoryList =>
    obtain ⟨hp, he⟩ := run_of_ofRun (α := MemoryRange) h .memoryCut (fun _ => rfl)
      (fun rs => .segments (Segment.placed rs)) (r + 4) (min (d.natAt r 4) listLimit)
    simp only [inPlace, h.natAt hf]
    exact ⟨.segments (Segment.placed_prefix hp), fun hn => by simp only [ofRun, he hn]; rfl⟩
  | memory64List =>
    have hb : d.Fits (r + 8) 8 := by
      have hh : d.Fits r 16 := hf
      omega
    have hc : d.Fits r 8 := by
      have hh : d.Fits r 16 := hf
      omega
    obtain ⟨hp, he⟩ := run_of_ofRun (α := MemoryRange64) h .memory64Cut (fun _ => rfl)
      (fun rs => .segments (Segment.packed (d.natAt (r + 8) 8) rs)) (r + 16)
      (min (d.natAt r 8) listLimit)
    simp only [inPlace, h.natAt hb, h.natAt hc]
    refine ⟨.segments (Segment.packed_prefix _ hp), fun hn => ?_⟩
    have hn := he fun n hx => hn n (List.mem_append_right _ hx)
    simp only [ofRun, hn]
    rfl
  | handleData =>
    have hc : d.Fits (r + 8) 4 := by
      have hh : d.Fits r 16 := hf
      omega
    obtain ⟨hp, he⟩ := run_of_ofRun (α := HandleRecord) h .handlesCut (fun _ => rfl)
      (fun rs => .handles (rs.map (HandleRecord.named d))) (r + 16) (d.natAt (r + 8) 4)
    simp only [inPlace, ofRun, Stream.reread, h.natAt hc, map_reread_handles]
    exact ⟨.handles (hp.map _), fun hn => by rw [he hn]⟩
  | memoryInfoList =>
    have hc : d.Fits (r + 8) 8 := by
      have hh := hf.1
      omega
    obtain ⟨hp, he⟩ := run_of_ofRun (α := Region) h .regionsCut (fun _ => rfl)
      .regions (r + 16) (min (d.natAt (r + 8) 8) listLimit)
    simp only [inPlace, h.natAt hc]
    exact ⟨.regions hp, fun hn => by simp only [ofRun, he hn]; rfl⟩

/-- The names of a stream are those of its image. -/
theorem reread_inPlace (d : Image) (r : Nat) (k : StreamKind) :
    (inPlace d r k).stream.reread d = (inPlace d r k).stream := by
  cases k with
  | moduleList => simp only [inPlace, Stream.reread, map_reread_modules]
  | handleData => simp only [inPlace, ofRun, Stream.reread, map_reread_handles]
  | _ => rfl

end Decoded

namespace DirectoryEntry
variable {d e : Image} {x : DirectoryEntry}

theorem fits_of_begins (h : d.Begins e) (hf : x.Fits d) : x.Fits e := by
  rw [Fits] at hf ⊢
  cases hk : x.kind? with
  | none => trivial
  | some k =>
    rw [hk] at hf
    exact StreamKind.fits_of_begins h hf

theorem inPlace_of_begins (h : d.Begins e) (hf : x.Fits d) :
    ((x.inPlace d).stream.reread e).GoesOn (x.inPlace e).stream ∧
      ((∀ n ∈ (x.inPlace d).notices, n.isCut = false) →
        (x.inPlace e).stream = (x.inPlace d).stream.reread e) := by
  rw [Fits] at hf
  rw [inPlace, inPlace]
  cases hk : x.kind? with
  | none => exact Stream.GoesOn.of_eq rfl
  | some k =>
    rw [hk] at hf
    exact Decoded.inPlace_of_begins h hf

theorem reread_inPlace (d : Image) (x : DirectoryEntry) :
    (x.inPlace d).stream.reread d = (x.inPlace d).stream := by
  rw [inPlace]
  cases x.kind? with
  | none => rfl
  | some k => exact Decoded.reread_inPlace d x.offset k

end DirectoryEntry

/-! ## Completed records -/

/-- The same module, perhaps with a name that was not there. -/
structure Module.Completed (x y : Module) : Prop where
  record : y.record = x.record
  name : NameCompleted x.name y.name

structure Handle.Completed (x y : Handle) : Prop where
  record : y.record = x.record
  typeName : NameCompleted x.typeName y.typeName
  objectName : NameCompleted x.objectName y.objectName

structure SystemInfo.Completed (x y : SystemInfo) : Prop where
  record : y.record = x.record
  servicePack : NameCompleted x.servicePack y.servicePack

section Completed
variable {d e : Image} (h : d.Begins e)
include h

theorem Module.completed_reread {x : Module} (hx : x.reread d = x) : x.Completed (x.reread e) := by
  refine ⟨rfl, ?_⟩
  rw [← hx]
  exact nameAt_completed h _

theorem Handle.completed_reread {x : Handle} (hx : x.reread d = x) : x.Completed (x.reread e) := by
  refine ⟨rfl, ?_, ?_⟩
  · rw [← hx]
    exact nameAt_completed h _
  · rw [← hx]
    exact nameAt_completed h _

theorem SystemInfo.completed_reread {x : SystemInfo} (hx : x.reread d = x) :
    x.Completed (x.reread e) := by
  refine ⟨rfl, ?_⟩
  rw [← hx]
  exact nameAt_completed h _

end Completed

/-! ## Dumps -/

/-- The second stream goes on with every list that the first may have been cut short in. -/
structure Stream.BeginningOf (x y : Stream) : Prop where
  segments : x.segmentList <+: y.segmentList
  regions : x.regionList <+: y.regionList
  handles : ∃ hs, hs <+: y.handleList ∧ List.Forall₂ Handle.Completed x.handleList hs

/-- What the dump of an image becomes where the image goes on: the same, but that lists which
were cut short go on and names that were not there may be supplied. -/
structure Dump.GrowsTo (d e : Image) (m m' : Dump) : Prop where
  header : m'.header = m.header
  directory : m'.directory = m.directory
  threads : m'.threads = m.threads
  exception : m'.exception = m.exception
  miscInfo : m'.miscInfo = m.miscInfo
  modules : List.Forall₂ Module.Completed m.modules m'.modules
  systemInfo : Option.Rel SystemInfo.Completed m.systemInfo m'.systemInfo
  segments : m.segments.Sublist m'.segments
  before : m.toContents = .ofStreams (m.directory.map fun x => (x.inPlace d).stream)
  after : m'.toContents = .ofStreams (m.directory.map fun x => (x.inPlace e).stream)
  streams : ∀ x ∈ m.directory, (x.inPlace d).stream.BeginningOf (x.inPlace e).stream

/-- No name that a dump refers to runs past the end of its image. -/
structure Dump.NamesWhole (d : Image) (m : Dump) : Prop where
  modules : ∀ x ∈ m.modules, ¬ NameCut d x.record.nameRva.toNat
  handles : ∀ x ∈ m.handles, ¬ NameCut d x.record.typeNameRva.toNat ∧
    ¬ NameCut d x.record.objectNameRva.toNat
  systemInfo : ∀ x ∈ m.systemInfo, ¬ NameCut d x.record.servicePackRva.toNat

theorem flatMap_sublist_of_prefix {ι β : Type} {xs : List ι} {f g : ι → List β}
    (h : ∀ x ∈ xs, f x <+: g x) : (xs.flatMap f).Sublist (xs.flatMap g) := by
  induction xs with
  | nil => exact List.Sublist.refl _
  | cons x xs ih =>
    rw [List.flatMap_cons, List.flatMap_cons]
    have hx := (h x List.mem_cons_self).sublist
    exact hx.append (ih fun y hy => h y (List.mem_cons_of_mem x hy))

theorem Stream.GoesOn.beginningOf {d e : Image} {x y : Stream} (h : d.Begins e)
    (hx : x.reread d = x) (hy : (x.reread e).GoesOn y) : x.BeginningOf y where
  segments := by
    have hs := hy.segmentList
    rwa [Stream.segmentList_reread] at hs
  regions := by
    have hs := hy.regionList
    rwa [Stream.regionList_reread] at hs
  handles := by
    refine ⟨x.handleList.map (Handle.reread e), ?_, ?_⟩
    · have hs := hy.handleList
      rwa [Stream.handleList_reread] at hs
    · have hl := congrArg Stream.handleList hx
      rw [Stream.handleList_reread] at hl
      rw [List.forall₂_map_right_iff, List.forall₂_same]
      intro z hz
      exact z.completed_reread h (List.map_inj_left.mp (hl.trans (List.map_id _).symm) z hz)

/-- Unless a name was cut short, looking it up again gives the same. -/
theorem Dump.reread_of_namesWhole {d e : Image} {m : Dump} (h : d.Begins e)
    (hm : m.toContents.reread d = m.toContents) (hw : m.NamesWhole d) :
    m.toContents.reread e = m.toContents := by
  have hmods : m.modules.map (Module.reread e) = m.modules.map (Module.reread d) := by
    apply List.map_congr_left
    intro x hx
    rw [Module.reread, Module.reread, ModuleRecord.named, ModuleRecord.named,
      nameAt_of_not_cut h (hw.modules x hx)]
  have hhandles : m.handles.map (Handle.reread e) = m.handles.map (Handle.reread d) := by
    apply List.map_congr_left
    intro x hx
    obtain ⟨ht, ho⟩ := hw.handles x hx
    rw [Handle.reread, Handle.reread, HandleRecord.named, HandleRecord.named,
      nameAt_of_not_cut h ht, nameAt_of_not_cut h ho]
  have hsystem : m.systemInfo.map (SystemInfo.reread e) =
      m.systemInfo.map (SystemInfo.reread d) := by
    apply Option.map_congr
    intro x hx
    rw [SystemInfo.reread, SystemInfo.reread, SystemRecord.named, SystemRecord.named,
      nameAt_of_not_cut h (hw.systemInfo x hx)]
  rw [Contents.reread, hmods, hhandles, hsystem]
  exact hm

/-- Contents of the same streams, of which lists may have become longer. -/
structure Contents.GoesOn (c c' : Contents) : Prop where
  threads : c'.threads = c.threads
  modules : c'.modules = c.modules
  systemInfo : c'.systemInfo = c.systemInfo
  exception : c'.exception = c.exception
  miscInfo : c'.miscInfo = c.miscInfo
  segments : c.segments.Sublist c'.segments

theorem Contents.goesOn_of_streams {ι : Type} {xs : List ι} {f g : ι → Stream}
    (h : ∀ x ∈ xs, (f x).GoesOn (g x)) :
    (ofStreams (xs.map f)).GoesOn (ofStreams (xs.map g)) where
  threads := by
    simp only [ofStreams, List.flatMap_map]
    exact List.flatMap_congr fun x hx => (h x hx).threadList
  modules := by
    simp only [ofStreams, List.flatMap_map]
    exact List.flatMap_congr fun x hx => (h x hx).moduleList
  systemInfo := by
    simp only [ofStreams, List.filterMap_map]
    exact congrArg _ (List.filterMap_congr fun x hx => (h x hx).systemInfo?)
  exception := by
    simp only [ofStreams, List.filterMap_map]
    exact congrArg _ (List.filterMap_congr fun x hx => (h x hx).exception?)
  miscInfo := by
    simp only [ofStreams, List.filterMap_map]
    exact congrArg _ (List.filterMap_congr fun x hx => (h x hx).miscInfo?)
  segments := by
    simp only [ofStreams, List.flatMap_map]
    exact flatMap_sublist_of_prefix fun x hx => (h x hx).segmentList

namespace Dump
variable {d e : Image}

theorem eq_of_parts {m m' : Dump} (hc : m'.toContents = m.toContents)
    (hh : m'.header = m.header) (hd : m'.directory = m.directory) : m' = m := by
  cases m
  cases m'
  cases hc
  cases hh
  cases hd
  rfl

theorem header_of_begins (h : d.Begins e) (hw : WellFormed d) :
    (inPlace e).header = (inPlace d).header :=
  Record.readAt_of_begins (α := Header) h hw.head

theorem directoryIn_of_begins (h : d.Begins e) (hw : WellFormed d) :
    directoryIn e = directoryIn d :=
  directoryIn_of_same (h.same hw.head) (h.same hw.directory)

theorem WellFormed.of_begins (h : d.Begins e) (hw : WellFormed d) : WellFormed e :=
  hw.of_same (h.same hw.head) (h.same hw.directory) h.size_le
    fun x hx => DirectoryEntry.fits_of_begins h (hw.entries x hx)

theorem directory_of_begins (h : d.Begins e) (hw : WellFormed d) :
    (inPlace e).directory = (inPlace d).directory := by
  rw [directory_inPlace, directory_inPlace, directoryIn_of_begins h hw]

theorem contents_reread (d e : Image) : (inPlace d).toContents.reread e =
    .ofStreams ((inPlace d).directory.map fun x => (x.inPlace d).stream.reread e) := by
  rw [contents_inPlace, ← Contents.ofStreams_reread, List.map_map]
  rfl

/-- The names of a dump are those of its image. -/
theorem reread_inPlace (d : Image) : (inPlace d).toContents.reread d = (inPlace d).toContents := by
  rw [contents_reread, contents_inPlace]
  simp only [DirectoryEntry.reread_inPlace]

theorem contents_of_begins (h : d.Begins e) (hw : WellFormed d) : (inPlace e).toContents =
    .ofStreams ((inPlace d).directory.map fun x => (x.inPlace e).stream) := by
  rw [contents_inPlace, directory_of_begins h hw]

theorem contents_goesOn (h : d.Begins e) (hw : WellFormed d) :
    ((inPlace d).toContents.reread e).GoesOn (inPlace e).toContents := by
  rw [contents_of_begins h hw, contents_reread]
  exact Contents.goesOn_of_streams fun x hx =>
    (DirectoryEntry.inPlace_of_begins h (hw.entries x hx)).1

theorem inPlace_growsTo (h : d.Begins e) (hw : WellFormed d) :
    (inPlace d).GrowsTo d e (inPlace e) := by
  have hg := contents_goesOn h hw
  have hr := reread_inPlace d
  have hmods := congrArg Contents.modules hr
  have hsystem := congrArg Contents.systemInfo hr
  rw [Contents.modules_reread] at hmods
  rw [Contents.systemInfo_reread] at hsystem
  constructor
  case header => exact header_of_begins h hw
  case directory => exact directory_of_begins h hw
  case threads => rw [hg.threads, Contents.threads_reread]
  case exception => rw [hg.exception, Contents.exception_reread]
  case miscInfo => rw [hg.miscInfo, Contents.miscInfo_reread]
  case modules =>
    rw [hg.modules, Contents.modules_reread, List.forall₂_map_right_iff, List.forall₂_same]
    intro x hx
    exact x.completed_reread h (List.map_inj_left.mp (hmods.trans (List.map_id _).symm) x hx)
  case systemInfo =>
    rw [hg.systemInfo, Contents.systemInfo_reread]
    generalize (inPlace d).systemInfo = info at hsystem
    cases info with
    | none => exact .none
    | some x => exact .some (x.completed_reread h (Option.some.inj hsystem))
  case segments =>
    have hs := hg.segments
    rwa [Contents.segments_reread] at hs
  case before => exact contents_inPlace d
  case after => exact contents_of_begins h hw
  case streams =>
    intro x hx
    exact (DirectoryEntry.inPlace_of_begins h (hw.entries x hx)).1.beginningOf h
      (DirectoryEntry.reread_inPlace d x)

theorem inPlace_eq_of_whole (h : d.Begins e) (hw : WellFormed d)
    (hc : ∀ n ∈ noticesIn d, n.isCut = false) (hn : (inPlace d).NamesWhole d) :
    inPlace e = inPlace d := by
  have hs : (inPlace d).directory.map (fun x => (x.inPlace e).stream) =
      (inPlace d).directory.map fun x => (x.inPlace d).stream.reread e := by
    apply List.map_congr_left
    intro x hx
    refine (DirectoryEntry.inPlace_of_begins h (hw.entries x hx)).2 fun n hn => hc n ?_
    exact List.mem_flatMap.mpr ⟨x, hx, hn⟩
  have hcontents : (inPlace e).toContents = (inPlace d).toContents := by
    rw [contents_of_begins h hw, hs, ← contents_reread]
    exact reread_of_namesWhole h (reread_inPlace d) hn
  exact eq_of_parts hcontents (header_of_begins h hw) (directory_of_begins h hw)

end Dump

/-! ## Rejections -/

/-- Whether an image was rejected for a lack of bytes. -/
def Rejection.isShort : Rejection → Bool
  | short _ => true
  | truncated _ _ _ => true
  | _ => false

def ParseFailure.isShort : ParseFailure → Bool
  | rejected r => r.isShort
  | fault _ => false

theorem Header.short_of_decodeDirectory {d : Image} {x : Header} {r : Rejection}
    (hx : x.decodeDirectory d = .error r) : ∃ short, r = .short short := by
  rw [decodeDirectory] at hx
  cases hr : Record.readAll (α := DirectoryEntry) d x.directoryRva.toNat x.streamCount.toNat with
  | error short =>
    rw [hr] at hx
    cases hx
    exact ⟨short, rfl⟩
  | ok es =>
    rw [hr] at hx
    cases hx

section Rejections
variable {d e : Image} {r : Rejection} (h : d.Begins e)
include h

/-- A stream that has its bytes and is rejected is a list of foreign entries. -/
theorem Stream.decode_error_of_begins {x : DirectoryEntry} (hx : decode d x = .error r)
    (hr : r.isShort = false) : decode e x = .error r := by
  rw [decode] at hx ⊢
  cases hk : x.kind? with
  | none =>
    rw [hk] at hx
    cases hx
  | some k =>
    simp only [hk] at hx ⊢
    by_cases hh : d.Fits x.offset k.headSize
    · by_cases hf : k.Fits d x.offset
      · rw [decodeKind_of_fits hf] at hx
        cases hx
      · cases k with
        | threadList =>
          rw [decodeThreads_of_short_list hh fun hl => hf ⟨hh, hl⟩] at hx
          cases hx
          cases hr
        | moduleList =>
          rw [decodeModules_of_short_list hh fun hl => hf ⟨hh, hl⟩] at hx
          cases hx
          cases hr
        | memoryInfoList =>
          have hs : d.natAt (x.offset + 4) 4 ≠ 48 := fun hs => hf ⟨hh, hs⟩
          have hw : d.Fits (x.offset + 4) 4 := by
            have hh : d.Fits x.offset 16 := hh
            omega
          have hs' : e.natAt (x.offset + 4) 4 ≠ 48 := by
            rw [h.natAt hw]
            exact hs
          rw [decodeRegions_of_foreign_size hh hs] at hx
          rw [decodeRegions_of_foreign_size (h.fits_of_fits hh) hs',
            Record.readAt_of_begins (α := RegionListHeader) h hh]
          exact hx
        | _ => exact absurd hh hf
    · rw [decodeKind_of_short_head hh] at hx
      cases hx
      cases hr

theorem Contents.decodeStreams_error_of_begins {es : List DirectoryEntry}
    (hx : (decodeStreams d es).result = .error r) (hr : r.isShort = false) :
    (decodeStreams e es).result = .error r := by
  induction es with
  | nil => cases hx
  | cons x es ih =>
    rw [decodeStreams] at hx ⊢
    by_cases hf : x.Fits d
    · rw [DirectoryEntry.decode_of_fits hf] at hx
      rw [DirectoryEntry.decode_of_fits (DirectoryEntry.fits_of_begins h hf)]
      cases hl : (decodeStreams d es).result with
      | ok ys =>
        simp only [hl] at hx
        cases hx
      | error r' =>
        simp only [hl] at hx
        cases hx
        simp only [ih hl]
        rfl
    · obtain ⟨r', hx'⟩ := DirectoryEntry.decode_of_not_fits hf
      rw [hx'] at hx
      cases hx
      rw [Stream.decode_error_of_begins h hx' hr]

theorem Header.decode_of_begins (hf : d.Fits 0 32) : decode e = decode d := by
  rw [decode, decode, Record.readAt?_of_fits (α := Header) hf,
    Record.readAt?_of_fits (α := Header) (h.fits_of_fits hf),
    Record.readAt_of_begins (α := Header) h hf]

theorem Header.decodeDirectory_of_begins {x : Header} {es : List DirectoryEntry}
    (hx : x.decodeDirectory d = .ok es) : x.decodeDirectory e = .ok es := by
  rw [decodeDirectory] at hx ⊢
  cases hr : Record.readAll (α := DirectoryEntry) d x.directoryRva.toNat x.streamCount.toNat with
  | error short =>
    rw [hr] at hx
    cases hx
  | ok es' =>
    rw [hr] at hx
    rw [Record.readAll_of_begins h hr]
    exact hx

theorem Dump.decode_error_of_begins (hx : (decode d).result = .error r)
    (hr : r.isShort = false) : (decode e).result = .error r := by
  rw [decode] at hx ⊢
  by_cases hf : d.Fits 0 32
  · rw [Header.decode_of_begins h hf]
    cases hh : Header.decode d with
    | error r' =>
      rw [hh] at hx
      exact hx
    | ok x =>
      simp only [hh] at hx ⊢
      cases hd : x.decodeDirectory d with
      | error r' =>
        rw [hd] at hx
        cases hx
        obtain ⟨short, rfl⟩ := Header.short_of_decodeDirectory hd
        cases hr
      | ok es =>
        simp only [hd, Header.decodeDirectory_of_begins h hd, Contents.decode, Decoding.map] at hx ⊢
        cases hs : (Contents.decodeStreams d es).result with
        | ok xs =>
          rw [hs] at hx
          cases hx
        | error r' =>
          rw [hs] at hx
          cases hx
          rw [Contents.decodeStreams_error_of_begins h hs hr]
          rfl
  · rw [Header.decode, Record.readAt?_of_not_fits (α := Header) hf] at hx
    cases hx
    cases hr

end Rejections

namespace Dump

/-- Where an image goes on beyond a dump, the dump grows, and stays what it was if no list was
cut short and no name ran past the end. An image that was rejected for another reason than a lack
of bytes is still rejected for that reason. -/
theorem parse_append (source : Source) (d extra : Image) :
    (∀ m, (parse source d).result = .ok m →
      ∃ m', (parse source (d ++ extra)).result = .ok m' ∧ m.GrowsTo d (d ++ extra) m' ∧
        ((∀ n ∈ (parse source d).notices, n.isCut = false) → m.NamesWhole d → m' = m)) ∧
      ∀ f, (parse source d).result = .error f → f.isShort = false →
        (parse source (d ++ extra)).result = .error f := by
  have hb := Image.begins_append d extra
  constructor
  · intro m hm
    obtain ⟨hw, rfl⟩ := parse_eq_ok_iff.mp hm
    refine ⟨inPlace (d ++ extra), parse_eq_ok_iff.mpr ⟨hw.of_begins hb, rfl⟩,
      inPlace_growsTo hb hw, ?_⟩
    rw [parse_of_wellFormed source hw]
    exact inPlace_eq_of_whole hb hw
  · intro f hf hs
    rw [parse_eq] at hf ⊢
    cases hr : (decode d).result with
    | ok m =>
      rw [hr] at hf
      cases hf
    | error r =>
      rw [hr] at hf
      cases hf
      rw [decode_error_of_begins hb hr hs]
      rfl

/-- A dump that ends within the name of its module and after the first of two memory ranges. -/
def cutShort : Image :=
  ⟨(Record.pack (⟨Header.magic, 0xA793, 0, 2, 32, 0, 0, 0⟩ : Header) ++
    Record.pack (⟨4, 112, 56⟩ : DirectoryEntry) ++
    Record.pack (⟨5, 36, 168⟩ : DirectoryEntry) ++
    Record.pack (1 : UInt32) ++
    Record.pack (⟨0x400000, 0x1000, 0, 0, 188, ⟨0, 0, 0, 0, 0, 0, 0, 0, 0, 0, 0, 0, 0⟩, ⟨0, 0⟩,
      ⟨0, 0⟩, 0, 0⟩ : ModuleRecord) ++
    Record.pack (2 : UInt32) ++
    Record.pack (⟨0x9000, ⟨6, 0x30⟩⟩ : MemoryRange) ++ [2, 0, 0, 0]).toArray⟩

def missingBytes : Image := ⟨#[97, 0, 0, 0, 4, 0, 0, 0, 64, 0, 0, 0]⟩

def blankHeader : Image := ⟨.replicate 32 0⟩

theorem cutShort_layout : Acceptable cutShort ∧
    (inPlace cutShort).modules.map (·.name) = [none] ∧
    (inPlace cutShort).segments = [⟨0x9000, 6, 0x30⟩] ∧
    noticesIn (cutShort ++ missingBytes) = [] ∧
    (inPlace (cutShort ++ missingBytes)).modules.map (fun x => (x.record.nameRva, x.name)) =
      [(188, some "a")] ∧
    (inPlace (cutShort ++ missingBytes)).segments = [⟨0x9000, 6, 0x30⟩, ⟨0x6100000002, 4, 64⟩] ∧
    (inPlace (cutShort ++ missingBytes)).handles = [] ∧
    (inPlace (cutShort ++ missingBytes)).systemInfo = none ∧
    ¬ NameCut (cutShort ++ missingBytes) 188 := by
  decide +kernel

theorem blankHeader_rejected (source : Source) :
    (parse source blankHeader).result = .error (.rejected (.badSignature 0)) := by
  have hx : (decode blankHeader).result = .error (.badSignature 0) := rfl
  rw [parse_eq, hx]
  rfl

/-- A name and a second range come in with the bytes that were missing, and then nothing more. -/
theorem cutShort_parse_append : ∃ m m', (parse .memory cutShort).result = .ok m ∧
    m.modules.map (·.name) = [none] ∧ m.segments = [⟨0x9000, 6, 0x30⟩] ∧
    (parse .memory (cutShort ++ missingBytes)).result = .ok m' ∧
    m.GrowsTo cutShort (cutShort ++ missingBytes) m' ∧
    m'.modules.map (·.name) = [some "a"] ∧
    m'.segments = [⟨0x9000, 6, 0x30⟩, ⟨0x6100000002, 4, 64⟩] ∧
    (parse .memory (cutShort ++ missingBytes ++ blankHeader)).result = .ok m' ∧
    ∃ f, (parse .memory blankHeader).result = .error f ∧ f.isShort = false ∧
      (parse .memory (blankHeader ++ cutShort)).result = .error f := by
  obtain ⟨hacc, hname, hsegs, hnotices, hmods, hsegs', hhandles, hsystem, hcut⟩ := cutShort_layout
  have hm : (parse .memory cutShort).result = .ok (inPlace cutShort) := parse_of_acceptable hacc
  obtain ⟨m', hm', hgrows, -⟩ := (parse_append .memory cutShort missingBytes).1 _ hm
  obtain ⟨hw', rfl⟩ := parse_eq_ok_iff.mp hm'
  obtain ⟨m'', hm'', -, hwhole⟩ :=
    (parse_append .memory (cutShort ++ missingBytes) blankHeader).1 _ hm'
  have hn : ∀ n ∈ (parse .memory (cutShort ++ missingBytes)).notices, n.isCut = false := by
    rw [parse_of_wellFormed .memory hw', hnotices]
    exact List.forall_mem_nil _
  have hnames : (inPlace (cutShort ++ missingBytes)).NamesWhole (cutShort ++ missingBytes) := by
    constructor
    case modules =>
      intro x hx
      have hmem := List.mem_map_of_mem (f := fun x => (x.record.nameRva, x.name)) hx
      rw [hmods, List.mem_singleton] at hmem
      have hrva : x.record.nameRva = 188 := congrArg Prod.fst hmem
      rw [hrva]
      exact hcut
    case handles =>
      rw [hhandles]
      exact List.forall_mem_nil _
    case systemInfo =>
      intro x hx
      rw [hsystem] at hx
      cases hx
  rw [hwhole hn hnames] at hm''
  refine ⟨_, _, hm, hname, hsegs, hm', hgrows, ?_, hsegs', hm'', _,
    blankHeader_rejected .memory, rfl,
    (parse_append .memory blankHeader cutShort).2 _ (blankHeader_rejected .memory) rfl⟩
  have hl := congrArg (List.map Prod.snd) hmods
  rwa [List.map_map] at hl

end Dump

end CrashDump
