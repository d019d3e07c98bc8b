import CrashDump.Proofs.CursorAccess

/-! # Streams in place

What a stream needs of the image, what it then holds and what it gives notice of are read off
the words at its offset. A stream that has what it needs is taken, any other is rejected.
-/
namespace CrashDump

section Fields
variable (d : Image) (off : Nat)

@[simp] theorem Header.toNat_signature :
    (Record.readAt d off : Header).signature.toNat = d.natAt off 4 :=
  d.toNat_ofNat_natAt4 off

@[simp] theorem Header.toNat_streamCount :
    (Record.readAt d off : Header).streamCount.toNat = d.natAt (off + 8) 4 :=
  d.toNat_ofNat_natAt4 _

@[simp] theorem Header.toNat_directoryRva :
    (Record.readAt d off : Header).directoryRva.toNat = d.natAt (off + 12) 4 :=
  d.toNat_ofNat_natAt4 _

@[simp] theorem DirectoryEntry.toNat_tag :
    (Record.readAt d off : DirectoryEntry).tag.toNat = d.natAt off 4 :=
  d.toNat_ofNat_natAt4 off

@[simp] theorem DirectoryEntry.toNat_rva :
    (Record.readAt d off : DirectoryEntry).location.rva.toNat = d.natAt (off + 8) 4 :=
  d.toNat_ofNat_natAt4 _

@[simp] theorem Memory64Header.toNat_rangeCount :
    (Record.readAt d off : Memory64Header).rangeCount.toNat = d.natAt off 8 :=
  d.toNat_ofNat_natAt8 off

@[simp] theorem Memory64Header.toNat_baseRva :
    (Record.readAt d off : Memory64Header).baseRva.toNat = d.natAt (off + 8) 8 :=
  d.toNat_ofNat_natAt8 _

@[simp] theorem MemoryRange64.toNat_start :
    (Record.readAt d off : MemoryRange64).start.toNat = d.natAt off 8 :=
  d.toNat_ofNat_natAt8 off

@[simp] theorem MemoryRange64.toNat_dataSize :
    (Record.readAt d off : MemoryRange64).dataSize.toNat = d.natAt (off + 8) 8 :=
  d.toNat_ofNat_natAt8 _

@[simp] theorem MemoryRange.toNat_start :
    (Record.readAt d off : MemoryRange).start.toNat = d.natAt off 8 :=
  d.toNat_ofNat_natAt8 off

@[simp] theorem MemoryRange.toNat_dataSize :
    (Record.readAt d off : MemoryRange).memory.dataSize.toNat = d.natAt (off + 8) 4 :=
  d.toNat_ofNat_natAt4 _

@[simp] theorem MemoryRange.toNat_rva :
    (Record.readAt d off : MemoryRange).memory.rva.toNat = d.natAt (off + 8 + 4) 4 :=
  d.toNat_ofNat_natAt4 _

@[simp] theorem RegionListHeader.toNat_entrySize :
    (Record.readAt d off : RegionListHeader).entrySize.toNat = d.natAt (off + 4) 4 :=
  d.toNat_ofNat_natAt4 _

@[simp] theorem RegionListHeader.toNat_entryCount :
    (Record.readAt d off : RegionListHeader).entryCount.toNat = d.natAt (off + 8) 8 :=
  d.toNat_ofNat_natAt8 _

@[simp] theorem HandleListHeader.toNat_descriptorCount :
    (Record.readAt d off : HandleListHeader).descriptorCount.toNat = d.natAt (off + 8) 4 :=
  d.toNat_ofNat_natAt4 _

end Fields

/-- The size of what a stream begins with, all of it where the stream is no list. -/
def StreamKind.headSize : StreamKind → Nat
  | threadList => 4
  | moduleList => 4
  | memoryList => 4
  | exception => 168
  | systemInfo => 48
  | memory64List => 16
  | handleData => 16
  | miscInfo => 44
  | memoryInfoList => 16

/-- What an image has to hold at an offset for a stream of a kind to be taken there. -/
def StreamKind.Fits (d : Image) (r : Nat) : StreamKind → Prop
  | threadList => d.Fits r 4 ∧ d.Fits (r + 4) (40 * d.natAt r 4)
  | moduleList => d.Fits r 4 ∧ d.Fits (r + 4) (108 * d.natAt r 4)
  | memoryList => d.Fits r 4
  | exception => d.Fits r 168
  | systemInfo => d.Fits r 48
  | memory64List => d.Fits r 16
  | handleData => d.Fits r 16
  | miscInfo => d.Fits r 44
  | memoryInfoList => d.Fits r 16 ∧ d.natAt (r + 4) 4 = 48

namespace StreamKind
variable {d e : Image} {r : Nat} {k : StreamKind}

theorem Fits.head (h : k.Fits d r) : d.Fits r k.headSize := by
  cases k with
  | threadList => exact h.1
  | moduleList => exact h.1
  | memoryInfoList => exact h.1
  | _ => exact h

/-- What a stream needs is told by its head and the size of the image. -/
theorem fits_of_same (hs : d.size ≤ e.size) (h : e.Same r d r k.headSize) (hf : k.Fits d r) :
    k.Fits e r := by
  have hm : ∀ {off n}, d.Fits off n → e.Fits off n := fun hx => Nat.le_trans hx hs
  cases k with
  | threadList =>
    have hn : e.natAt r 4 = d.natAt r 4 := h.natAt
    exact ⟨hm hf.1, by rw [hn]; exact hm hf.2⟩
  | moduleList =>
    have hn : e.natAt r 4 = d.natAt r 4 := h.natAt
    exact ⟨hm hf.1, by rw [hn]; exact hm hf.2⟩
  | memoryInfoList =>
    have hn : e.natAt (r + 4) 4 = d.natAt (r + 4) 4 := (h.part (by decide)).natAt
    exact ⟨hm hf.1, hn.trans hf.2⟩
  | _ => exact hm hf

end StreamKind

namespace Decoded

/-- The part of a list that an image holds, with the notice if that is not all of it. -/
def ofRun {α : Type} [Record α] (x : List α → Stream) (cut : Nat → Notice) (d : Image)
    (off count : Nat) : Decoded :=
  let taken := Record.runLength α d off count
  ⟨x (Record.run α d off taken), if taken < count then [cut taken] else []⟩

/-- The stream of a kind at an offset, with its notices. -/
def inPlace (d : Image) (r : Nat) : StreamKind → Decoded
  | .threadList => ⟨.threads (Record.run Thread d (r + 4) (d.natAt r 4)), []⟩
  | .moduleList =>
    ⟨.modules ((Record.run ModuleRecord d (r + 4) (d.natAt r 4)).map (ModuleRecord.named d)), []⟩
  | .memoryList =>
    ofRun (α := MemoryRange) (fun rs => .segments (Segment.placed rs)) .memoryCut d (r + 4)
      (min (d.natAt r 4) listLimit)
  | .exception => ⟨.exception (Record.readAt d r), []⟩
  | .systemInfo => ⟨.systemInfo ((Record.readAt d r : SystemRecord).named d), []⟩
  | .memory64List =>
    let x := ofRun (α := MemoryRange64)
      (fun rs => .segments (Segment.packed (d.natAt (r + 8) 8) rs)) .memory64Cut d (r + 16)
      (min (d.natAt r 8) listLimit)
    ⟨x.stream, capNotice (d.natAt r 8) ++ x.notices⟩
  | .handleData =>
    ofRun (fun rs => .handles (rs.map (HandleRecord.named d))) .handlesCut d (r + 16)
      (d.natAt (r + 8) 4)
  | .miscInfo => ⟨.miscInfo (Record.readAt d r), []⟩
  | .memoryInfoList =>
    ofRun .regions .regionsCut d (r + 16) (min (d.natAt (r + 8) 8) listLimit)

theorem ofRun_eq {α : Type} [Record α] [Record.Readable α] (x : List α → Stream)
    (cut : Nat → Notice) (d : Image) (off count : Nat) :
    (⟨x (Record.readRun d off count).1, cutNotice cut (Record.readRun (α := α) d off count)⟩ :
      Decoded) = ofRun x cut d off count := by
  rw [Record.readRun_eq, ofRun, Record.runCut]
  split <;> simp [cutNotice]

end Decoded

namespace Stream
open Record
variable {d : Image} {r : Nat}

/-- Reading a record at an offset where it fits. -/
theorem readAt?_bind {α β : Type} [Record α] (h : d.Fits r (size α))
    (f : α → Except ShortRead β) : (readAt? d r >>= f) = f (readAt d r) := by
  rw [readAt?_of_fits h]
  rfl

theorem readAt?_bind_of_not_fits {α β : Type} [Record α] (h : ¬ d.Fits r (size α))
    (f : α → Except ShortRead β) :
    (readAt? d r >>= f) = .error ⟨r, size α, d.size - r⟩ := by
  rw [readAt?_of_not_fits h]
  rfl

theorem decodeKind_of_fits {kind : StreamKind} (h : kind.Fits d r) :
    decodeKind d r kind = .ok (.ok (Decoded.inPlace d r kind)) := by
  cases kind with
  | threadList =>
    rw [decodeKind, decodeThreads, readAt?_bind (α := UInt32) h.1, toNat_readAt_uint32,
      size_uint32, readAll_of_fits (α := Thread) h.2]
    rfl
  | moduleList =>
    rw [decodeKind, decodeModules, readAt?_bind (α := UInt32) h.1, toNat_readAt_uint32,
      size_uint32, readAll_of_fits (α := ModuleRecord) h.2]
    rfl
  | memoryList =>
    rw [decodeKind, decodeMemory, readAt?_bind (α := UInt32) h, toNat_readAt_uint32,
      Decoded.inPlace, ← Decoded.ofRun_eq]
    rfl
  | exception =>
    rw [decodeKind, readAt?_of_fits h]
    rfl
  | systemInfo =>
    rw [decodeKind, decodeSystem, readAt?_bind h]
    rfl
  | memory64List =>
    rw [decodeKind, decodeMemory64, readAt?_bind h, Memory64Header.toNat_rangeCount,
      Memory64Header.toNat_baseRva, Decoded.inPlace, ← Decoded.ofRun_eq, size_memory64Header]
    simp only [pure, Except.pure, Functor.map, Except.map]
  | handleData =>
    rw [decodeKind, decodeHandles, readAt?_bind h, HandleListHeader.toNat_descriptorCount,
      Decoded.inPlace, ← Decoded.ofRun_eq]
    rfl
  | miscInfo =>
    rw [decodeKind, readAt?_of_fits h]
    rfl
  | memoryInfoList =>
    rw [decodeKind, decodeRegions, readAt?_bind h.1, RegionListHeader.toNat_entrySize,
      RegionListHeader.toNat_entryCount, if_neg (by simp [h.2]), Decoded.inPlace,
      ← Decoded.ofRun_eq]
    rfl

theorem decodeKind_of_short_head {kind : StreamKind} (h : ¬ d.Fits r kind.headSize) :
    decodeKind d r kind = .error ⟨r, kind.headSize, d.size - r⟩ := by
  cases kind with
  | threadList => rw [decodeKind, decodeThreads, readAt?_bind_of_not_fits (α := UInt32) h]; rfl
  | moduleList => rw [decodeKind, decodeModules, readAt?_bind_of_not_fits (α := UInt32) h]; rfl
  | memoryList => rw [decodeKind, decodeMemory, readAt?_bind_of_not_fits (α := UInt32) h]; rfl
  | exception => rw [decodeKind, readAt?_of_not_fits h]; rfl
  | systemInfo => rw [decodeKind, decodeSystem, readAt?_bind_of_not_fits h]; rfl
  | memory64List => rw [decodeKind, decodeMemory64, readAt?_bind_of_not_fits h]; rfl
  | handleData => rw [decodeKind, decodeHandles, readAt?_bind_of_not_fits h]; rfl
  | miscInfo => rw [decodeKind, readAt?_of_not_fits h]; rfl
  | memoryInfoList => rw [decodeKind, decodeRegions, readAt?_bind_of_not_fits h]; rfl

theorem decodeThreads_of_short_list (h : d.Fits r 4)
    (hl : ¬ d.Fits (r + 4) (40 * d.natAt r 4)) :
    decodeKind d r .threadList =
      .error ⟨r + 4 + 40 * runLength Thread d (r + 4) (d.natAt r 4), 40,
        d.size - (r + 4 + 40 * runLength Thread d (r + 4) (d.natAt r 4))⟩ := by
  rw [decodeKind, decodeThreads, readAt?_bind (α := UInt32) h, toNat_readAt_uint32, size_uint32,
    readAll_of_not_fits (α := Thread) hl (.inl h)]
  rfl

theorem decodeModules_of_short_list (h : d.Fits r 4)
    (hl : ¬ d.Fits (r + 4) (108 * d.natAt r 4)) :
    decodeKind d r .moduleList =
      .error ⟨r + 4 + 108 * runLength ModuleRecord d (r + 4) (d.natAt r 4), 108,
        d.size - (r + 4 + 108 * runLength ModuleRecord d (r + 4) (d.natAt r 4))⟩ := by
  rw [decodeKind, decodeModules, readAt?_bind (α := UInt32) h, toNat_readAt_uint32, size_uint32,
    readAll_of_not_fits (α := ModuleRecord) hl (.inl h)]
  rfl

theorem decodeRegions_of_foreign_size (h : d.Fits r 16) (hs : d.natAt (r + 4) 4 ≠ 48) :
    decodeKind d r .memoryInfoList =
      .ok (.error (.foreignEntrySize (readAt d r : RegionListHeader).entrySize)) := by
  rw [decodeKind, decodeRegions, readAt?_bind h, RegionListHeader.toNat_entrySize, size_region,
    if_pos hs]
  rfl

/-- A stream without all it needs is not taken. -/
theorem decodeKind_ne_ok {kind : StreamKind} (h : ¬ kind.Fits d r) (x : Decoded) :
    decodeKind d r kind ≠ .ok (.ok x) := by
  by_cases hh : d.Fits r kind.headSize
  · cases kind with
    | threadList => rw [decodeThreads_of_short_list hh fun hl => h ⟨hh, hl⟩]; nofun
    | moduleList => rw [decodeModules_of_short_list hh fun hl => h ⟨hh, hl⟩]; nofun
    | memoryInfoList => rw [decodeRegions_of_foreign_size hh fun hs => h ⟨hh, hs⟩]; nofun
    | _ => exact absurd hh h
  · rw [decodeKind_of_short_head hh]
    nofun

end Stream

end CrashDump
