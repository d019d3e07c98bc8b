import CrashDump.Proofs.PartsInPlace

/-! # Declared and taken records

A list stream declares how many records it holds, and two things keep some of them from being
read: the image ends, or the list is longer than its kind is read. Each gives a notice, except
that a memory list and a region list are quietly read no further than to the limit.
-/
namespace CrashDump

namespace StreamKind

/-- How many records a stream declares. Only lists declare any. -/
def declared (d : Image) (r : Nat) : StreamKind → Nat
  | threadList => d.natAt r 4
  | moduleList => d.natAt r 4
  | memoryList => d.natAt r 4
  | memory64List => d.natAt r 8
  | handleData => d.natAt (r + 8) 4
  | memoryInfoList => d.natAt (r + 8) 8
  | _ => 0

def recordSize : StreamKind → Nat
  | threadList => 40
  | moduleList => 108
  | memoryList => 16
  | memory64List => 16
  | handleData => 32
  | memoryInfoList => 48
  | _ => 0

/-- Whether no more than the limit is read of a list. -/
def isLimited : StreamKind → Bool
  | memoryList => true
  | memory64List => true
  | memoryInfoList => true
  | _ => false

/-- Whether a list beyond the limit is read in part without a notice. -/
def isSilent : StreamKind → Bool
  | memoryList => true
  | memoryInfoList => true
  | _ => false

/-- How many records a decoder sets out to read. -/
def asked (d : Image) (r : Nat) (k : StreamKind) : Nat :=
  if k.isLimited then min (k.declared d r) listLimit else k.declared d r

/-- How many records a decoder reads: those it sets out for, as far as the image holds them. -/
def taken (d : Image) (r : Nat) (k : StreamKind) : Nat :=
  min (k.asked d r) ((d.size - (r + k.headSize)) / k.recordSize)

/-- How many records are taken of a list about which no notice is given. -/
def quietCount (d : Image) (r : Nat) (k : StreamKind) : Nat :=
  if k.isSilent then min (k.declared d r) listLimit else k.declared d r

/-- The stream that the first `n` records of a list make. -/
def firstOf (d : Image) (r n : Nat) : StreamKind → Stream
  | threadList => .threads (Record.run Thread d (r + 4) n)
  | moduleList => .modules ((Record.run ModuleRecord d (r + 4) n).map (ModuleRecord.named d))
  | memoryList => .segments (Segment.placed (Record.run MemoryRange d (r + 4) n))
  | memory64List =>
    .segments (Segment.packed (d.natAt (r + 8) 8) (Record.run MemoryRange64 d (r + 16) n))
  | handleData => .handles ((Record.run HandleRecord d (r + 16) n).map (HandleRecord.named d))
  | memoryInfoList => .regions (Record.run Region d (r + 16) n)
  | exception => .exception (Record.readAt d r)
  | systemInfo => .systemInfo ((Record.readAt d r : SystemRecord).named d)
  | miscInfo => .miscInfo (Record.readAt d r)

/-- What is said of a list of which not all was taken. -/
def shortfall (declared taken : Nat) : StreamKind → List Notice
  | memoryList => if taken < min declared listLimit then [.memoryCut taken] else []
  | memory64List => Decoded.capNotice declared ++
    if taken < min declared listLimit then [.memory64Cut taken] else []
  | handleData => if taken < declared then [.handlesCut taken] else []
  | memoryInfoList => if taken < min declared listLimit then [.regionsCut taken] else []
  | _ => []

variable {d : Image} {r : Nat} {k : StreamKind}

theorem asked_of_limited (h : k.isLimited = true) :
    k.asked d r = min (k.declared d r) listLimit := if_pos h

theorem asked_of_unlimited (h : k.isLimited = false) : k.asked d r = k.declared d r :=
  if_neg (by simp [h])

theorem quietCount_of_silent (h : k.isSilent = true) :
    k.quietCount d r = min (k.declared d r) listLimit := if_pos h

theorem quietCount_of_not_silent (h : k.isSilent = false) : k.quietCount d r = k.declared d r :=
  if_neg (by simp [h])

theorem asked_le_declared (d : Image) (r : Nat) (k : StreamKind) :
    k.asked d r ≤ k.declared d r := by
  rw [asked]
  split
  · exact Nat.min_le_left _ _
  · exact Nat.le_refl _

theorem taken_le_asked (d : Image) (r : Nat) (k : StreamKind) : k.taken d r ≤ k.asked d r :=
  Nat.min_le_left _ _

theorem taken_eq_runLength (α : Type) [Record α] (hs : k.recordSize = Record.size α) :
    k.taken d r = Record.runLength α d (r + k.headSize) (k.asked d r) := by
  rw [taken, Record.runLength, hs]

/-- A list without a limit that the image holds is taken as a whole. -/
theorem taken_of_fits (α : Type) [Record α] [Record.Readable α]
    (hs : k.recordSize = Record.size α) (hl : k.isLimited = false)
    (h : d.Fits (r + k.headSize) (Record.size α * k.declared d r)) :
    k.taken d r = k.declared d r := by
  rw [taken_eq_runLength α hs, asked_of_unlimited hl]
  exact (Record.runLength_eq_iff (by omega)).mpr h

theorem cut_eq_nil_iff {n : Notice} {count limit : Nat} (h : count ≤ limit) :
    (if count < limit then [n] else []) = [] ↔ count = limit := by
  rw [ite_eq_right_iff]
  simp only [List.cons_ne_nil, imp_false]
  omega

/-- No notice is given just where all that is declared was taken or, for the kinds that are
silent about the limit, all up to the limit. -/
theorem shortfall_eq_nil_iff (h : k.Fits d r) :
    k.shortfall (k.declared d r) (k.taken d r) = [] ↔ k.taken d r = k.quietCount d r := by
  have ha := taken_le_asked d r k
  cases k with
  | threadList => exact iff_of_true rfl (taken_of_fits (k := .threadList) Thread rfl rfl h.2)
  | moduleList => exact iff_of_true rfl (taken_of_fits (k := .moduleList) ModuleRecord rfl rfl h.2)
  | memoryList =>
    rw [asked_of_limited rfl] at ha
    rw [quietCount_of_silent rfl, shortfall, cut_eq_nil_iff ha]
  | memoryInfoList =>
    rw [asked_of_limited rfl] at ha
    rw [quietCount_of_silent rfl, shortfall, cut_eq_nil_iff ha]
  | memory64List =>
    -- Both the limit and the end of the image are told, so a silent list is a whole one.
    rw [asked_of_limited rfl] at ha
    rw [quietCount_of_not_silent rfl, shortfall, List.append_eq_nil_iff, cut_eq_nil_iff ha,
      Decoded.capNotice, ite_eq_right_iff]
    simp only [List.cons_ne_nil, imp_false]
    omega
  | handleData =>
    rw [asked_of_unlimited rfl] at ha
    rw [quietCount_of_not_silent rfl, shortfall, cut_eq_nil_iff ha]
  | exception => exact iff_of_true rfl (Nat.zero_min _)
  | systemInfo => exact iff_of_true rfl (Nat.zero_min _)
  | miscInfo => exact iff_of_true rfl (Nat.zero_min _)

/-- A stream is made of the records that were taken, and its notices tell of the others. -/
theorem inPlace_eq (h : k.Fits d r) : Decoded.inPlace d r k =
    ⟨k.firstOf d r (k.taken d r), k.shortfall (k.declared d r) (k.taken d r)⟩ := by
  cases k with
  | threadList =>
    rw [taken_of_fits (k := .threadList) Thread rfl rfl h.2]
    rfl
  | moduleList =>
    rw [taken_of_fits (k := .moduleList) ModuleRecord rfl rfl h.2]
    rfl
  | memoryList =>
    rw [taken_eq_runLength MemoryRange rfl, asked_of_limited rfl, Decoded.inPlace,
      Decoded.ofRun, firstOf, shortfall, declared, headSize]
  | memory64List =>
    rw [taken_eq_runLength MemoryRange64 rfl, asked_of_limited rfl, Decoded.inPlace,
      Decoded.ofRun, firstOf, shortfall, declared, headSize]
  | handleData =>
    rw [taken_eq_runLength HandleRecord rfl, asked_of_unlimited rfl, Decoded.inPlace,
      Decoded.ofRun, firstOf, shortfall, declared, headSize]
  | memoryInfoList =>
    rw [taken_eq_runLength Region rfl, asked_of_limited rfl, Decoded.inPlace,
      Decoded.ofRun, firstOf, shortfall, declared, headSize]
  | exception => rfl
  | systemInfo => rfl
  | miscInfo => rfl

theorem notices_inPlace_eq_nil_iff (h : k.Fits d r) :
    (Decoded.inPlace d r k).notices = [] ↔ k.taken d r = k.quietCount d r := by
  rw [inPlace_eq h]
  exact shortfall_eq_nil_iff h

end StreamKind

namespace Dump
variable {d : Image} {m : Dump} {source : Source}

/-- Every list was read to the end that its stream declares. -/
def Complete (d : Image) (m : Dump) : Prop :=
  ∀ e ∈ m.directory, ∀ k, e.kind? = some k → k.taken d e.offset = k.declared d e.offset

/-- What a parse takes of the lists in an image, and what its notices tell of that. -/
structure ListsTold (d : Image) (log : List Notice) (m : Dump) : Prop where
  contents : m.toContents = .ofStreams (m.directory.map fun e => (e.inPlace d).stream)
  notices : log = m.directory.flatMap fun e => (e.inPlace d).notices
  taken : ∀ e ∈ m.directory, ∀ k, e.kind? = some k →
    k.taken d e.offset ≤ k.declared d e.offset ∧
      e.inPlace d = ⟨k.firstOf d e.offset (k.taken d e.offset),
        k.shortfall (k.declared d e.offset) (k.taken d e.offset)⟩
  noticed : ∀ e ∈ m.directory, ∀ k, e.kind? = some k →
    ((e.inPlace d).notices = [] ↔ k.taken d e.offset = k.quietCount d e.offset)
  quiet : log = [] → (m.Complete d ↔ ∀ e ∈ m.directory, ∀ k, e.kind? = some k →
    k.isSilent = true → k.declared d e.offset ≤ listLimit)

theorem parse_listsTold (h : (parse source d).result = .ok m) :
    m.ListsTold d (parse source d).notices := by
  obtain ⟨hw, rfl⟩ := parse_eq_ok_iff.mp h
  rw [parse_of_wellFormed source hw]
  have hfits : ∀ e ∈ directoryIn d, ∀ k, e.kind? = some k → k.Fits d e.offset :=
    fun e he k hk => DirectoryEntry.fits_of_tag (DirectoryEntry.kind?_eq_some_iff.mp hk)
      (hw.entries e he)
  have hplace : ∀ e ∈ directoryIn d, ∀ k, e.kind? = some k →
      e.inPlace d = ⟨k.firstOf d e.offset (k.taken d e.offset),
        k.shortfall (k.declared d e.offset) (k.taken d e.offset)⟩ := by
    intro e he k hk
    rw [DirectoryEntry.inPlace_of_tag (DirectoryEntry.kind?_eq_some_iff.mp hk)]
    exact StreamKind.inPlace_eq (hfits e he k hk)
  have hnoticed : ∀ e ∈ directoryIn d, ∀ k, e.kind? = some k →
      ((e.inPlace d).notices = [] ↔ k.taken d e.offset = k.quietCount d e.offset) := by
    intro e he k hk
    rw [DirectoryEntry.inPlace_of_tag (DirectoryEntry.kind?_eq_some_iff.mp hk)]
    exact StreamKind.notices_inPlace_eq_nil_iff (hfits e he k hk)
  constructor
  case contents => exact contents_inPlace d
  case notices => rw [directory_inPlace, noticesIn]
  case taken =>
    rw [directory_inPlace]
    intro e he k hk
    have hle := Nat.le_trans (StreamKind.taken_le_asked d e.offset k)
      (StreamKind.asked_le_declared d e.offset k)
    exact ⟨hle, hplace e he k hk⟩
  case noticed =>
    rw [directory_inPlace]
    exact hnoticed
  case quiet =>
    rw [Complete, directory_inPlace]
    intro hlog
    -- The log is that of all entries, so where it is empty none of them gave a notice.
    have hquiet : ∀ e ∈ directoryIn d, ∀ k, e.kind? = some k →
        k.taken d e.offset = k.quietCount d e.offset := by
      intro e he k hk
      exact (hnoticed e he k hk).mp (List.flatMap_eq_nil_iff.mp hlog e he)
    constructor
    · intro hc e he k hk hs
      have ht := hquiet e he k hk
      rw [hc e he k hk, StreamKind.quietCount_of_silent hs] at ht
      omega
    · intro hl e he k hk
      rw [hquiet e he k hk]
      cases hs : k.isSilent with
      | false => exact StreamKind.quietCount_of_not_silent hs
      | true =>
        rw [StreamKind.quietCount_of_silent hs]
        exact Nat.min_eq_left (hl e he k hk hs)

/-! ## Dumps of one stream -/

def loneHeader : Header := ⟨Header.magic, 0xA793, 0, 1, 32, 0, 0, 0⟩

theorem natAt_of_holds_loneHeader (h : d.Holds 0 (Record.pack loneHeader)) :
    d.natAt 0 4 = 0x504D444D ∧ d.natAt 8 4 = 1 ∧ d.natAt 12 4 = 32 := by
  have hs := Header.toNat_signature d 0
  have hn := Header.toNat_streamCount d 0
  have hp := Header.toNat_directoryRva d 0
  rw [Header.readAt_of_packed h UInt64.zero_and] at hs hn hp
  exact ⟨hs.symm, hn.symm, hp.symm⟩

/-- A dump whose directory is a single entry, and what stands behind it. -/
def loneStream (e : DirectoryEntry) (payload : List UInt8) : Image :=
  ⟨(Record.pack loneHeader ++ ([e].flatMap Record.pack ++ payload)).toArray⟩

section LoneStream
variable (e : DirectoryEntry) (payload : List UInt8)

theorem holds_loneStream : (loneStream e payload).Holds 0
    (Record.pack loneHeader ++ ([e].flatMap Record.pack ++ payload)) :=
  Image.holds_toArray _

theorem holds_payload : (loneStream e payload).Holds 44 payload := by
  have hr := (holds_loneStream e payload).right.right
  rw [Record.length_pack, length_flatMap_of_length Record.length_pack] at hr
  exact hr

theorem size_loneStream : (loneStream e payload).size = 44 + payload.length := by
  rw [loneStream, ByteArray.size, List.size_toArray, List.length_append, List.length_append,
    Record.length_pack, length_flatMap_of_length Record.length_pack, Record.size_header,
    Record.size_directoryEntry, List.length_singleton]
  omega

theorem natAt_loneStream : (loneStream e payload).natAt 0 4 = 0x504D444D ∧
    (loneStream e payload).natAt 8 4 = 1 ∧ (loneStream e payload).natAt 12 4 = 32 :=
  natAt_of_holds_loneHeader (holds_loneStream e payload).left

theorem directoryIn_loneStream : directoryIn (loneStream e payload) = [e] := by
  obtain ⟨-, hn, hp⟩ := natAt_loneStream e payload
  have hr := (holds_loneStream e payload).right.left
  rw [Record.length_pack] at hr
  rw [directoryIn, hn, hp]
  exact Record.run_of_packed hr

variable {e payload}

theorem wellFormed_loneStream (h : e.Fits (loneStream e payload)) :
    WellFormed (loneStream e payload) := by
  obtain ⟨hs, hn, hp⟩ := natAt_loneStream e payload
  constructor
  case head => rw [Image.Fits, size_loneStream]; omega
  case signature => exact hs
  case streams => rw [hn]; exact Nat.one_pos
  case directory => rw [Image.Fits, hn, hp, size_loneStream]; omega
  case entries =>
    rw [directoryIn_loneStream, List.forall_mem_singleton]
    exact h

/-- A dump of one stream is made of the records that are taken of it. -/
theorem contents_loneStream {k : StreamKind} (hk : e.kind? = some k)
    (hf : k.Fits (loneStream e payload) e.offset) : (inPlace (loneStream e payload)).toContents =
      .ofStreams [k.firstOf (loneStream e payload) e.offset
        (k.taken (loneStream e payload) e.offset)] := by
  rw [contents_inPlace, directory_inPlace, directoryIn_loneStream, List.map_singleton,
    DirectoryEntry.inPlace_of_tag (DirectoryEntry.kind?_eq_some_iff.mp hk),
    StreamKind.inPlace_eq hf]

end LoneStream

/-! ## Dumps of one memory list -/

def loneEntry (rs : List MemoryRange) : DirectoryEntry := ⟨5, ⟨.ofNat (4 + 16 * rs.length), 44⟩⟩

/-- A dump that holds nothing but a list of memory ranges. -/
def memoryListOf (rs : List MemoryRange) : Image :=
  ⟨(Record.pack loneHeader ++
    ([loneEntry rs].flatMap Record.pack ++ writeCounted rs)).toArray⟩

section MemoryListOf
variable (rs : List MemoryRange)

theorem memoryListOf_eq : memoryListOf rs = loneStream (loneEntry rs) (writeCounted rs) := rfl

theorem size_memoryListOf : (memoryListOf rs).size = 48 + 16 * rs.length := by
  rw [memoryListOf_eq, size_loneStream, writeCounted, List.length_append, length_bytesOfNat,
    length_flatMap_of_length Record.length_pack, Record.size_memoryRange]
  omega

theorem directoryIn_memoryListOf : directoryIn (memoryListOf rs) = [loneEntry rs] :=
  directoryIn_loneStream _ _

theorem kind?_loneEntry : (loneEntry rs).kind? = some .memoryList := rfl

theorem fits_memoryListOf : StreamKind.Fits (memoryListOf rs) 44 .memoryList := by
  rw [StreamKind.Fits, Image.Fits, size_memoryListOf]
  omega

theorem wellFormed_memoryListOf : WellFormed (memoryListOf rs) :=
  wellFormed_loneStream (fits_memoryListOf rs)

variable {rs} (h : 48 + 16 * rs.length < 2 ^ 32)
include h

theorem declared_memoryListOf :
    StreamKind.declared (memoryListOf rs) 44 .memoryList = rs.length := by
  have hr := holds_payload (loneEntry rs) (writeCounted rs)
  rw [← memoryListOf_eq] at hr
  exact (counted_of_holds hr (by rw [size_memoryListOf]; exact h)).2.1

theorem taken_memoryListOf :
    StreamKind.taken (memoryListOf rs) 44 .memoryList = min rs.length listLimit := by
  rw [StreamKind.taken, StreamKind.asked_of_limited rfl, declared_memoryListOf h,
    StreamKind.headSize, StreamKind.recordSize, size_memoryListOf]
  omega

/-- However long the list is, nothing is said of it. -/
theorem parse_memoryListOf (source : Source) :
    parse source (memoryListOf rs) = ⟨[], .ok (inPlace (memoryListOf rs))⟩ := by
  have hn : (Decoded.inPlace (memoryListOf rs) 44 .memoryList).notices = [] := by
    rw [StreamKind.notices_inPlace_eq_nil_iff (fits_memoryListOf rs), taken_memoryListOf h,
      StreamKind.quietCount_of_silent rfl, declared_memoryListOf h]
  have hp : (loneEntry rs).inPlace (memoryListOf rs) =
      Decoded.inPlace (memoryListOf rs) 44 .memoryList := DirectoryEntry.inPlace_of_tag rfl
  rw [parse_of_wellFormed source (wellFormed_memoryListOf rs), noticesIn, directoryIn_memoryListOf,
    List.flatMap_singleton, hp, hn]

theorem complete_memoryListOf_iff :
    (inPlace (memoryListOf rs)).Complete (memoryListOf rs) ↔ rs.length ≤ listLimit := by
  have ht := taken_memoryListOf h
  have hd := declared_memoryListOf h
  rw [Complete, directory_inPlace, directoryIn_memoryListOf, List.forall_mem_singleton]
  constructor
  · intro hc
    have hx : StreamKind.taken _ 44 .memoryList = StreamKind.declared _ 44 .memoryList :=
      hc .memoryList (kind?_loneEntry rs)
    rw [ht, hd] at hx
    omega
  · intro hl k hk
    rw [kind?_loneEntry, Option.some_inj] at hk
    subst hk
    exact ht.trans ((Nat.min_eq_left hl).trans hd.symm)

end MemoryListOf

/-- Two ranges, one of them empty. -/
def shortRanges : List MemoryRange := [⟨0x1000, ⟨4, 44⟩⟩, ⟨0x2000, ⟨0, 0⟩⟩]

theorem shortRanges_listsTold : ∃ m, parse .memory (memoryListOf shortRanges) = ⟨[], .ok m⟩ ∧
    m.ListsTold (memoryListOf shortRanges) [] ∧ m.Complete (memoryListOf shortRanges) := by
  have hs : 48 + 16 * shortRanges.length < 2 ^ 32 := by decide
  have hp := parse_memoryListOf hs .memory
  have hm : (parse .memory (memoryListOf shortRanges)).result =
      .ok (inPlace (memoryListOf shortRanges)) := by rw [hp]
  have ht := parse_listsTold hm
  rw [hp] at ht
  exact ⟨_, hp, ht, (complete_memoryListOf_iff hs).mpr (by decide)⟩

/-- One range more than is read of a memory list. -/
def longRanges : List MemoryRange := .replicate 10001 ⟨0, ⟨0, 0⟩⟩

/-- The last range of the list is left out, and no notice is given. -/
theorem longRanges_not_complete :
    ∃ m, parse .memory (memoryListOf longRanges) = ⟨[], .ok m⟩ ∧
      (∃ e ∈ m.directory, e.kind? = some .memoryList ∧
        StreamKind.declared (memoryListOf longRanges) e.offset .memoryList = 10001 ∧
        StreamKind.taken (memoryListOf longRanges) e.offset .memoryList = 10000) ∧
      ¬ m.Complete (memoryListOf longRanges) := by
  have hl : longRanges.length = 10001 := List.length_replicate
  have hs : 48 + 16 * longRanges.length < 2 ^ 32 := by
    rw [hl]
    decide
  refine ⟨_, parse_memoryListOf hs .memory, ⟨loneEntry longRanges, ?_, rfl, ?_, ?_⟩, ?_⟩
  · rw [directory_inPlace, directoryIn_memoryListOf]
    exact List.mem_singleton_self _
  · exact (declared_memoryListOf hs).trans hl
  · refine (taken_memoryListOf hs).trans ?_
    rw [hl]
    rfl
  · rw [complete_memoryListOf_iff hs, hl]
    decide

end Dump

end CrashDump
