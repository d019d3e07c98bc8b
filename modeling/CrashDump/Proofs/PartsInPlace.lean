import CrashDump.Proofs.Blueprint
import CrashDump.Proofs.DumpInPlace

/-! # Written parts in place

A part that an image holds yields the stream it is read back as: its list or record is found at
the offset its directory entry gives, and its names and data at the offsets its records give.
-/
namespace CrashDump

variable {d : Image} {p r : Nat}

/-! ## Lists -/

section Lists
variable {α : Type} [Record α] [Packed α] {rs : List α} {off : Nat}

theorem Record.fits_of_holds (h : d.Holds off (rs.flatMap Record.pack)) :
    d.Fits off (Record.size α * rs.length) := by
  have hf := h.fits
  rwa [length_flatMap_of_length Record.length_pack] at hf

variable [Record.Readable α]

theorem Record.length_lt_of_holds (h : d.Holds off (rs.flatMap Record.pack))
    (hs : d.size < 2 ^ 32) : rs.length < 2 ^ 32 := by
  have hf := Record.fits_of_holds h
  have hm : rs.length ≤ Record.size α * rs.length :=
    Nat.le_mul_of_pos_left _ Record.Readable.size_pos
  omega

/-- A counted list is held as its count and its records. -/
theorem counted_of_holds (h : d.Holds r (writeCounted rs)) (hs : d.size < 2 ^ 32) :
    d.Fits r 4 ∧ d.natAt r 4 = rs.length ∧ d.Holds (r + 4) (rs.flatMap Record.pack) := by
  have hr := h.right
  have hl := h.left.fits
  rw [length_bytesOfNat] at hr hl
  exact ⟨hl, h.left.natAt (Record.length_lt_of_holds hr hs), hr⟩

variable [Record.Lossless α]

/-- A list that is all there is taken as a whole. -/
theorem Decoded.ofRun_of_holds (x : List α → Stream) (cut : Nat → Notice)
    (h : d.Holds off (rs.flatMap Record.pack)) :
    Decoded.ofRun x cut d off rs.length = ⟨x rs, []⟩ := by
  have hf := Record.fits_of_holds h
  have hl : Record.runLength α d off rs.length = rs.length :=
    (Record.runLength_eq_iff (by omega)).mpr hf
  rw [Decoded.ofRun]
  simp only [hl, Record.run_of_packed h, Nat.lt_irrefl, if_false]

end Lists

/-! ## Names -/

theorem nameAt_nameRva {n : Option String} (h : d.Holds p (optionalName n)) (hp : 0 < p)
    (hs : d.size < 2 ^ 32) : nameAt d (nameRva p n).toNat = n.bind keptName := by
  cases n with
  | none => rfl
  | some s =>
    have hf := h.fits
    have hr : (nameRva p (some s)).toNat = p := uint32_toNat_ofNat (by omega)
    rw [hr]
    exact nameAt_of_holds h (Nat.ne_of_gt hp) hs

theorem Module.named_writtenAt {m : Module} (h : d.Holds p m.nameBytes) (hp : 0 < p)
    (hs : d.size < 2 ^ 32) : (m.writtenAt p).record.named d = m.writtenAt p := by
  rw [ModuleRecord.named]
  simp only [Module.writtenAt, nameAt_nameRva h hp hs]

theorem Handle.named_writtenAt {x : Handle} (h : d.Holds p x.nameBytes) (hp : 0 < p)
    (hs : d.size < 2 ^ 32) : (x.writtenAt p).record.named d = x.writtenAt p := by
  rw [HandleRecord.named]
  simp only [Handle.writtenAt, nameAt_nameRva h.left hp hs,
    nameAt_nameRva h.right (Nat.add_pos_left hp _) hs]

theorem SystemInfo.named_writtenAt {s : SystemInfo} (h : d.Holds p (optionalName s.servicePack))
    (hp : 0 < p) (hs : d.size < 2 ^ 32) : (s.writtenAt p).record.named d = s.writtenAt p := by
  rw [SystemRecord.named]
  simp only [SystemInfo.writtenAt, nameAt_nameRva h hp hs]

/-- Of items that each read back, a list reads back. -/
theorem map_placesFrom_of_holds {ι α β : Type} {bytes : ι → List UInt8} (record : Nat → ι → α)
    {read : α → β} {back : Nat → ι → β} {xs : List ι} (h : d.Holds p (xs.flatMap bytes))
    (hp : 0 < p)
    (hx : ∀ q x, 0 < q → d.Holds q (bytes x) → read (record q x) = back q x) :
    ((placesFrom (fun _ => bytes) p xs).map fun y => record y.1 y.2).map read =
      (placesFrom (fun _ => bytes) p xs).map fun y => back y.1 y.2 := by
  rw [← bytesFrom_const bytes p] at h
  rw [List.map_map]
  refine List.map_congr_left ?_
  intro y hy
  exact hx y.1 y.2 (Nat.lt_of_lt_of_le hp (le_of_mem_placesFrom hy))
    (holds_of_mem_placesFrom h hy)

/-! ## Captured memory -/

namespace Capture

theorem segmentsFrom_cons (off : Nat) (c : Capture) (cs : List Capture) :
    segmentsFrom off (c :: cs) =
      (if c.data = [] then [] else [c.segmentAt off]) ++
        segmentsFrom (off + c.data.length) cs := by
  rw [segmentsFrom, placesFrom, segmentsFrom]
  by_cases h : c.data = []
  · rw [List.filter_cons_of_neg (by simp [h]), if_pos h]
    rfl
  · rw [List.filter_cons_of_pos (by simp [h]), if_neg h]
    rfl

theorem ofNat_length_eq_zero_iff {c : Capture} (h : c.data.length < 2 ^ 32) :
    (UInt64.ofNat c.data.length = 0 ↔ c.data = []) ∧
      (UInt32.ofNat c.data.length = 0 ↔ c.data = []) := by
  rw [← UInt64.toNat_inj, ← UInt32.toNat_inj, UInt64.toNat_ofNat', UInt32.toNat_ofNat',
    Nat.mod_eq_of_lt h, Nat.mod_eq_of_lt (by omega), ← List.length_eq_zero_iff]
  exact ⟨Iff.rfl, Iff.rfl⟩

theorem packed_range64 {cs : List Capture} (h : d.Holds p (cs.flatMap data))
    (hs : d.size < 2 ^ 32) : Segment.packed p (cs.map range64) = segmentsFrom p cs := by
  induction cs generalizing p with
  | nil => rfl
  | cons c cs ih =>
    rw [List.flatMap_cons] at h
    have hf := h.left.fits
    have hl : (UInt64.ofNat c.data.length).toNat = c.data.length :=
      uint64_toNat_ofNat (by omega)
    have hz := (ofNat_length_eq_zero_iff (c := c) (by omega)).1
    have ih := ih h.right
    rw [List.map_cons, Segment.packed, segmentsFrom_cons, ← ih]
    simp only [range64, hz, hl]
    by_cases hc : c.data = []
    · simp only [hc, if_true, List.length_nil, Nat.add_zero, List.nil_append]
    · simp only [hc, if_false, List.singleton_append, segmentAt]

theorem placed_rangeAt {cs : List Capture} (h : d.Holds p (cs.flatMap data))
    (hs : d.size < 2 ^ 32) :
    Segment.placed ((placesFrom (fun _ => data) p cs).map fun y => y.2.rangeAt y.1) =
      segmentsFrom p cs := by
  induction cs generalizing p with
  | nil => rfl
  | cons c cs ih =>
    rw [List.flatMap_cons] at h
    have hf := h.left.fits
    have hl : (UInt32.ofNat c.data.length).toNat = c.data.length :=
      uint32_toNat_ofNat (by omega)
    have hp : (UInt32.ofNat p).toNat = p :=
      uint32_toNat_ofNat (by omega)
    have hz := (ofNat_length_eq_zero_iff (c := c) (by omega)).2
    have ih := ih h.right
    rw [segmentsFrom_cons, ← ih, placesFrom, List.map_cons, Segment.placed, Segment.placed]
    by_cases hc : c.data = []
    · rw [List.filter_cons_of_neg (by simp [rangeAt, hc]), if_pos hc]
      rfl
    · rw [List.filter_cons_of_pos (by simp [rangeAt, hz, hc]), if_neg hc]
      simp only [List.map_cons, rangeAt, hl, hp, segmentAt, List.singleton_append]

theorem bytesIn_segmentsFrom {cs : List Capture} (h : d.Holds p (cs.flatMap data)) :
    (segmentsFrom p cs).map (Segment.bytesIn d) = full cs := by
  induction cs generalizing p with
  | nil => rfl
  | cons c cs ih =>
    rw [List.flatMap_cons] at h
    rw [segmentsFrom_cons, List.map_append, ih h.right, full, full]
    by_cases hc : c.data = []
    · rw [List.filter_cons_of_neg (by simp [hc]), if_pos hc]
      rfl
    · rw [List.filter_cons_of_pos (by simp [hc]), if_neg hc]
      simp only [List.map_cons, List.map_nil, Segment.bytesIn, segmentAt, Int.toNat_natCast,
        h.left.slice, List.singleton_append]

end Capture

/-! ## Streams -/

/-- A stream of a kind is taken at an offset, whole and without a notice. -/
def StreamKind.Yields (d : Image) (r : Nat) (k : StreamKind) (s : Stream) : Prop :=
  k.Fits d r ∧ Decoded.inPlace d r k = ⟨s, []⟩

namespace StreamKind

theorem record_yields {α : Type} [Record α] [Packed α] [Record.Lossless α] {a : α} {k : StreamKind}
    {x : α → Stream} (h : d.Holds r (Record.pack a))
    (hf : d.Fits r (Record.size α) → k.Fits d r)
    (hx : Decoded.inPlace d r k = ⟨x (Record.readAt d r), []⟩) : Yields d r k (x a) := by
  have hl := h.fits
  rw [Record.length_pack] at hl
  exact ⟨hf hl, by rw [hx, Record.readAt_of_packed h]⟩

theorem threads_yields {ts : List Thread} (h : d.Holds r (writeCounted ts))
    (hs : d.size < 2 ^ 32) : Yields d r .threadList (.threads ts) := by
  obtain ⟨hc, hn, hl⟩ := counted_of_holds h hs
  have hf := Record.fits_of_holds hl
  rw [← hn] at hf
  refine ⟨⟨hc, hf⟩, ?_⟩
  rw [Decoded.inPlace, hn, Record.run_of_packed hl]

theorem modules_yields {rs : List ModuleRecord} {ms : List Module}
    (h : d.Holds r (writeCounted rs)) (hs : d.size < 2 ^ 32)
    (hm : rs.map (ModuleRecord.named d) = ms) : Yields d r .moduleList (.modules ms) := by
  obtain ⟨hc, hn, hl⟩ := counted_of_holds h hs
  have hf := Record.fits_of_holds hl
  rw [← hn] at hf
  refine ⟨⟨hc, hf⟩, ?_⟩
  rw [Decoded.inPlace, hn, Record.run_of_packed hl, hm]

theorem memory_yields {rs : List MemoryRange} (h : d.Holds r (writeCounted rs))
    (hs : d.size < 2 ^ 32) (hc : rs.length ≤ listLimit) :
    Yields d r .memoryList (.segments (Segment.placed rs)) := by
  obtain ⟨hf, hn, hl⟩ := counted_of_holds h hs
  refine ⟨hf, ?_⟩
  rw [Decoded.inPlace, hn, Nat.min_eq_left hc, Decoded.ofRun_of_holds _ _ hl]

/-- A list under a head of its own is held as the head and the records. -/
theorem headed_of_holds {α β : Type} [Record α] [Packed α] [Record.Lossless α] [Record β]
    [Packed β] {head : α} {rs : List β}
    (h : d.Holds r (Record.pack head ++ rs.flatMap Record.pack)) :
    d.Fits r (Record.size α) ∧ Record.readAt d r = head ∧
      d.Holds (r + Record.size α) (rs.flatMap Record.pack) := by
  have hl := h.left.fits
  have hr := h.right
  rw [Record.length_pack] at hl hr
  exact ⟨hl, Record.readAt_of_packed h.left, hr⟩

theorem memory64_yields {rs : List MemoryRange64} {base n : Nat}
    (h : d.Holds r (Record.pack (⟨.ofNat n, .ofNat base⟩ : Memory64Header) ++
      rs.flatMap Record.pack)) (hb : base < 2 ^ 64) (hn : rs.length = n) (hc : n ≤ listLimit) :
    Yields d r .memory64List (.segments (Segment.packed base rs)) := by
  subst hn
  obtain ⟨hf, hr, hl⟩ := headed_of_holds h
  rw [Record.size_memory64Header] at hl
  have hn : d.natAt r 8 = rs.length := by
    rw [← Memory64Header.toNat_rangeCount, hr]
    exact uint64_toNat_ofNat (Nat.lt_of_le_of_lt hc (by decide))
  have hp : d.natAt (r + 8) 8 = base := by
    rw [← Memory64Header.toNat_baseRva, hr]
    exact uint64_toNat_ofNat hb
  refine ⟨hf, ?_⟩
  simp only [Decoded.inPlace, hn, hp, Nat.min_eq_left hc, Decoded.ofRun_of_holds _ _ hl,
    Decoded.capNotice, Nat.not_lt.mpr hc, if_false, List.append_nil]

theorem regions_yields {rs : List Region}
    (h : d.Holds r (Record.pack (⟨16, 48, .ofNat rs.length⟩ : RegionListHeader) ++
      rs.flatMap Record.pack)) (hc : rs.length ≤ listLimit) :
    Yields d r .memoryInfoList (.regions rs) := by
  obtain ⟨hf, hr, hl⟩ := headed_of_holds h
  have he : d.natAt (r + 4) 4 = 48 := by
    rw [← RegionListHeader.toNat_entrySize, hr]
    rfl
  have hn : d.natAt (r + 8) 8 = rs.length := by
    rw [← RegionListHeader.toNat_entryCount, hr]
    exact uint64_toNat_ofNat (Nat.lt_of_le_of_lt hc (by decide))
  refine ⟨⟨hf, he⟩, ?_⟩
  rw [Decoded.inPlace, hn, Nat.min_eq_left hc]
  exact Decoded.ofRun_of_holds _ _ hl

theorem handles_yields {rs : List HandleRecord} {xs : List Handle} {n : Nat}
    (h : d.Holds r (Record.pack (⟨16, 32, .ofNat n, 0⟩ : HandleListHeader) ++
      rs.flatMap Record.pack)) (hs : d.size < 2 ^ 32) (hn : rs.length = n)
    (hx : rs.map (HandleRecord.named d) = xs) : Yields d r .handleData (.handles xs) := by
  subst hn
  obtain ⟨hf, hr, hl⟩ := headed_of_holds h
  have hn : d.natAt (r + 8) 4 = rs.length := by
    rw [← HandleListHeader.toNat_descriptorCount, hr]
    exact uint32_toNat_ofNat (Record.length_lt_of_holds hl hs)
  refine ⟨hf, ?_⟩
  rw [Decoded.inPlace, hn, ← hx]
  exact Decoded.ofRun_of_holds _ _ hl

end StreamKind

namespace DirectoryEntry

/-- The stream of an entry is taken, whole and without a notice. -/
def Yields (d : Image) (e : DirectoryEntry) (s : Stream) : Prop :=
  e.Fits d ∧ e.inPlace d = ⟨s, []⟩

theorem Yields.of_tag {e : DirectoryEntry} {k : StreamKind} {s : Stream} (ht : e.tag = k.tag)
    (ho : e.offset = r) (h : k.Yields d r s) : e.Yields d s := by
  have hk : e.kind? = some k := StreamKind.ofTag?_eq_some_iff.mpr ht
  subst ho
  constructor
  · rw [Fits, hk]
    exact h.1
  · rw [inPlace, hk]
    exact h.2

theorem Yields.of_foreign_tag {e : DirectoryEntry} (ht : e.kind? = none) :
    e.Yields d .unrecognised := by
  constructor
  · rw [Fits, ht]
    trivial
  · rw [inPlace, ht]

end DirectoryEntry

namespace Part

/-- The entry of a part yields the stream that the part is read back as. -/
theorem entry_yields {x : Part} (h : d.Holds p (x.bytes p)) (hp : 0 < p) (hs : d.size < 2 ^ 32)
    (hw : x.isWritable) {e : DirectoryEntry} (he : x.listing? p = some e) :
    ∃ s, x.stream? p = some s ∧ e.Yields d s := by
  have hb := h.left
  have hr := h.right
  have hf := hr.fits
  have ho : (UInt32.ofNat (p + x.outOfLine.length)).toNat = p + x.outOfLine.length :=
    uint32_toNat_ofNat (by omega)
  cases x with
  | blob data => nomatch he
  | threads ts =>
    cases he
    exact ⟨_, rfl, .of_tag rfl ho (StreamKind.threads_yields hr hs)⟩
  | modules ms =>
    cases he
    have hm := map_placesFrom_of_holds (fun q (m : Module) => (m.writtenAt q).record)
      hb hp fun q m hq hm => m.named_writtenAt hm hq hs
    exact ⟨_, rfl, .of_tag rfl ho (StreamKind.modules_yields hr hs hm)⟩
  | memory64 cs =>
    cases he
    have hp' : p < 2 ^ 64 := by omega
    have hy := StreamKind.memory64_yields hr hp' (List.length_map _) (of_decide_eq_true hw)
    rw [Capture.packed_range64 hb hs] at hy
    exact ⟨_, rfl, .of_tag rfl ho hy⟩
  | memory cs =>
    cases he
    have hc : ((placesFrom (fun _ => Capture.data) p cs).map fun y =>
        y.2.rangeAt y.1).length ≤ listLimit := by
      simpa using of_decide_eq_true hw
    have hy := StreamKind.memory_yields hr hs hc
    rw [Capture.placed_rangeAt hb hs] at hy
    exact ⟨_, rfl, .of_tag rfl ho hy⟩
  | regions rs =>
    cases he
    exact ⟨_, rfl, .of_tag rfl ho (StreamKind.regions_yields hr (of_decide_eq_true hw))⟩
  | systemInfo i =>
    cases he
    have hy := StreamKind.record_yields (k := .systemInfo)
      (x := fun a => .systemInfo (SystemRecord.named d a)) hr id rfl
    rw [i.named_writtenAt hb hp hs] at hy
    exact ⟨_, rfl, .of_tag rfl ho hy⟩
  | exception i ps =>
    cases he
    have hy := StreamKind.record_yields (k := .exception) (x := .exception) hr id rfl
    exact ⟨_, rfl, .of_tag rfl ho hy⟩
  | miscInfo m =>
    cases he
    have hy := StreamKind.record_yields (k := .miscInfo) (x := .miscInfo) hr id rfl
    exact ⟨_, rfl, .of_tag rfl ho hy⟩
  | handles xs =>
    cases he
    have hx := map_placesFrom_of_holds (fun q (x : Handle) => (x.writtenAt q).record)
      hb hp fun q x hq hx => x.named_writtenAt hx hq hs
    have hl : ((placesFrom (fun _ => Handle.nameBytes) p xs).map fun y =>
        (y.2.writtenAt y.1).record).length = xs.length := by simp
    exact ⟨_, rfl, .of_tag rfl ho (StreamKind.handles_yields hr hs hl hx)⟩
  | other tag payload =>
    cases he
    have hk := Option.isNone_iff_eq_none.mp hw
    exact ⟨_, rfl, .of_foreign_tag hk⟩

end Part

end CrashDump
