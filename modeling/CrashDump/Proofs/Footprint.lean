import CrashDump.Proofs.AppendedBytes
import CrashDump.Proofs.ListCounts

/-! # The footprint of a parse

A parse looks at the header, at the directory, at what its entries point to as far as it is
decoded, and at the names of the decoded records. All of these places are themselves read off the
image. An image of the same size with the same bytes in them is parsed to the same dump, with the
same notices, whatever stands in captured memory or in streams that are not decoded.
-/
namespace CrashDump

/-- A part of an image, which may reach beyond its end. -/
structure Span where
  off : Nat
  length : Nat
deriving DecidableEq, Repr

def Span.Covers (s : Span) (i : Nat) : Prop := s.off ≤ i ∧ i < s.off + s.length

namespace Image
variable {d e : Image} {ss : List Span}

theorem byteAt_of_size_le {i : Nat} (h : d.size ≤ i) : d.byteAt i = 0 := dif_neg (Nat.not_lt.mpr h)

/-- Two images of one size have the same bytes in all of the spans. -/
structure Agree (d e : Image) (ss : List Span) : Prop where
  size : e.size = d.size
  bytes : ∀ i < d.size, (∃ s ∈ ss, s.Covers i) → e.byteAt i = d.byteAt i

namespace Agree

theorem mono {ts : List Span} (h : d.Agree e ss) (hs : ∀ s ∈ ts, s ∈ ss) : d.Agree e ts where
  size := h.size
  bytes i hi := fun ⟨s, hm, hc⟩ => h.bytes i hi ⟨s, hs s hm, hc⟩

/-- Beyond the end there is nothing to differ. -/
theorem same (h : d.Agree e ss) {s : Span} (hs : s ∈ ss) : e.Same s.off d s.off s.length := by
  intro i hi
  by_cases hd : s.off + i < d.size
  · exact h.bytes _ hd ⟨s, hs, Nat.le_add_right _ _, Nat.add_lt_add_left hi _⟩
  · have hd := Nat.not_lt.mp hd
    rw [byteAt_of_size_le hd, byteAt_of_size_le (by rw [h.size]; exact hd)]

end Agree

/-- Images that go on from one beginning agree on it. -/
theorem agree_of_begins {c : Image} (hd : c.Begins d) (he : c.Begins e) (hs : e.size = d.size)
    (hc : ∀ s ∈ ss, c.Fits s.off s.length) : d.Agree e ss where
  size := hs
  bytes i _ hi := by
    obtain ⟨s, hm, -, hlt⟩ := hi
    have hf : c.Fits i 1 := Nat.le_trans hlt (hc s hm)
    exact (he.same hf 0 Nat.one_pos).trans (hd.same hf 0 Nat.one_pos).symm

end Image

/-! ## Names -/

/-- The length of a name and, unless that is taken for damage, its text. -/
def nameFootprint (d : Image) (rva : Nat) : List Span :=
  if rva = 0 then []
  else ⟨rva, 4⟩ :: if isNameLength (d.natAt rva 4) then [⟨rva + 4, d.natAt rva 4⟩] else []

theorem nameAt_of_agree {d e : Image} {rva : Nat} (h : d.Agree e (nameFootprint d rva)) :
    nameAt e rva = nameAt d rva := by
  by_cases h0 : rva = 0
  · rw [nameAt, nameAt, if_neg fun hx => hx.1 h0, if_neg fun hx => hx.1 h0]
  · rw [nameFootprint, if_neg h0] at h
    have hn : e.natAt rva 4 = d.natAt rva 4 := (h.same (s := ⟨rva, 4⟩) List.mem_cons_self).natAt
    -- A text that is not all there is no name, whatever there is of it.
    by_cases hb : isNameLength (d.natAt rva 4) ∧ d.Fits (rva + 4) (d.natAt rva 4)
    · obtain ⟨hl, hf⟩ := hb
      rw [if_pos hl] at h
      have hs : e.slice (rva + 4) (d.natAt rva 4) = d.slice (rva + 4) (d.natAt rva 4) :=
        (h.same (s := ⟨rva + 4, d.natAt rva 4⟩) (by simp)).slice (by rwa [Image.Fits, h.size]) hf
      simp only [nameAt, Image.Fits, hn, h.size, hs]
    · simp only [nameAt, Image.Fits, hn, h.size, hb, if_false]

/-- Where the names of a stream stand; offset zero stands for none. -/
def Stream.nameRvas : Stream → List Nat
  | modules ms => ms.map (·.record.nameRva.toNat)
  | handles hs =>
    hs.flatMap fun x => [x.record.typeNameRva.toNat, x.record.objectNameRva.toNat]
  | systemInfo s => [s.record.servicePackRva.toNat]
  | _ => []

/-- Where two images have the same names, a stream is the same when its names are read again. -/
theorem Stream.reread_congr {d e : Image} {x : Stream}
    (h : ∀ rva ∈ x.nameRvas, nameAt e rva = nameAt d rva) : x.reread e = x.reread d := by
  cases x with
  | modules ms =>
    refine congrArg Stream.modules (List.map_congr_left ?_)
    intro x hx
    simp only [Module.reread, ModuleRecord.named, h _ (List.mem_map_of_mem hx)]
  | handles hs =>
    refine congrArg Stream.handles (List.map_congr_left ?_)
    intro x hx
    have ht := h x.record.typeNameRva.toNat (List.mem_flatMap.mpr ⟨x, hx, by simp⟩)
    have ho := h x.record.objectNameRva.toNat (List.mem_flatMap.mpr ⟨x, hx, by simp⟩)
    simp only [Handle.reread, HandleRecord.named, ht, ho]
  | systemInfo s =>
    simp only [reread, SystemInfo.reread, SystemRecord.named, h _ (List.mem_singleton_self _)]
  | _ => rfl

/-! ## Streams -/

section Streams
variable {d e : Image} {r n : Nat} {k : StreamKind}

namespace StreamKind

theorem declared_of_same (h : e.Same r d r k.headSize) : k.declared e r = k.declared d r := by
  cases k with
  | threadList => exact h.natAt
  | moduleList => exact h.natAt
  | memoryList => exact h.natAt
  | memory64List => exact (h.part (i := 0) (k := 8) (by decide)).natAt
  | handleData => exact (h.part (i := 8) (k := 4) (by decide)).natAt
  | memoryInfoList => exact (h.part (i := 8) (k := 8) (by decide)).natAt
  | exception => rfl
  | systemInfo => rfl
  | miscInfo => rfl

/-- Where their bytes are the same, the first records of a list are, up to their names. -/
theorem firstOf_of_same (h : e.Same r d r (k.headSize + k.recordSize * n)) :
    k.firstOf e r n = (k.firstOf d r n).reread e := by
  have hh : e.Same r d r k.headSize := h.part (i := 0) (by omega)
  have hr : e.Same (r + k.headSize) d (r + k.headSize) (k.recordSize * n) :=
    h.part (Nat.le_refl _)
  cases k with
  | threadList => exact congrArg Stream.threads (Record.run_same hr)
  | moduleList =>
    have hx : Record.run ModuleRecord e (r + 4) n = Record.run ModuleRecord d (r + 4) n :=
      Record.run_same hr
    rw [firstOf, firstOf, Stream.reread, map_reread_modules, hx]
  | memoryList =>
    have hx : Record.run MemoryRange e (r + 4) n = Record.run MemoryRange d (r + 4) n :=
      Record.run_same hr
    simp only [firstOf, Stream.reread, hx]
  | memory64List =>
    have hb : e.natAt (r + 8) 8 = d.natAt (r + 8) 8 := (hh.part (by decide)).natAt
    have hx : Record.run MemoryRange64 e (r + 16) n = Record.run MemoryRange64 d (r + 16) n :=
      Record.run_same hr
    simp only [firstOf, Stream.reread, hb, hx]
  | handleData =>
    have hx : Record.run HandleRecord e (r + 16) n = Record.run HandleRecord d (r + 16) n :=
      Record.run_same hr
    rw [firstOf, firstOf, Stream.reread, map_reread_handles, hx]
  | memoryInfoList => exact congrArg Stream.regions (Record.run_same hr)
  | exception => exact congrArg Stream.exception (Record.readAt_same hh)
  | systemInfo =>
    have hx : (Record.readAt e r : SystemRecord) = Record.readAt d r := Record.readAt_same hh
    rw [firstOf, firstOf, Stream.reread, hx]
    rfl
  | miscInfo => exact congrArg Stream.miscInfo (Record.readAt_same hh)

/-- What is taken of a stream lies in its footprint. -/
theorem inPlace_of_same (hs : e.size = d.size) (hf : k.Fits d r)
    (h : e.Same r d r (k.headSize + k.recordSize * k.asked d r)) :
    Decoded.inPlace e r k =
      ⟨(Decoded.inPlace d r k).stream.reread e, (Decoded.inPlace d r k).notices⟩ := by
  have hh : e.Same r d r k.headSize := h.part (i := 0) (by omega)
  have hd : k.declared e r = k.declared d r := declared_of_same hh
  have ht : k.taken e r = k.taken d r := by rw [taken, taken, asked, asked, hd, hs]
  -- Records that are asked for beyond the end are in the footprint but are not taken.
  have hm : k.recordSize * k.taken d r ≤ k.recordSize * k.asked d r :=
    Nat.mul_le_mul_left _ (taken_le_asked d r k)
  have hr : e.Same r d r (k.headSize + k.recordSize * k.taken d r) := h.part (i := 0) (by omega)
  have hf' : k.Fits e r := fits_of_same (Nat.le_of_eq hs.symm) hh hf
  rw [inPlace_eq hf, inPlace_eq hf', ht, hd, firstOf_of_same hr]

end StreamKind

namespace DirectoryEntry
variable {x : DirectoryEntry}

/-- The head of a decoded stream with the records that are asked for, and their names. -/
def footprint (d : Image) (x : DirectoryEntry) : List Span :=
  match x.kind? with
  | none => []
  | some k => ⟨x.offset, k.headSize + k.recordSize * k.asked d x.offset⟩ ::
    (x.inPlace d).stream.nameRvas.flatMap (nameFootprint d)

theorem same_of_agree (h : d.Agree e (x.footprint d)) (hk : x.kind? = some k) :
    e.Same x.offset d x.offset (k.headSize + k.recordSize * k.asked d x.offset) := by
  rw [footprint, hk] at h
  exact h.same List.mem_cons_self

theorem nameAt_of_agree (h : d.Agree e (x.footprint d)) (hk : x.kind? = some k) :
    ∀ rva ∈ (x.inPlace d).stream.nameRvas, nameAt e rva = nameAt d rva := by
  intro rva hr
  rw [footprint, hk] at h
  refine CrashDump.nameAt_of_agree (h.mono ?_)
  intro s hs
  exact List.mem_cons_of_mem _ (List.mem_flatMap.mpr ⟨rva, hr, hs⟩)

theorem fits_of_agree (h : d.Agree e (x.footprint d)) (hf : x.Fits d) : x.Fits e := by
  rw [Fits] at hf ⊢
  cases hk : x.kind? with
  | none => trivial
  | some k =>
    rw [hk] at hf
    have hh : e.Same x.offset d x.offset k.headSize :=
      (same_of_agree h hk).part (i := 0) (by omega)
    exact StreamKind.fits_of_same (Nat.le_of_eq h.size.symm) hh hf

theorem inPlace_of_agree (h : d.Agree e (x.footprint d)) (hf : x.Fits d) :
    x.inPlace e = x.inPlace d := by
  cases hk : x.kind? with
  | none => rw [inPlace, inPlace, hk]
  | some k =>
    have hnames := nameAt_of_agree h hk
    have ht := kind?_eq_some_iff.mp hk
    -- The other image finds the same records and looks their names up for itself. These are
    -- those of `d`, and reading them again in `d` changes nothing.
    have hself := reread_inPlace d x
    rw [inPlace_of_tag ht] at hnames hself
    rw [inPlace_of_tag ht, inPlace_of_tag ht,
      StreamKind.inPlace_of_same h.size (fits_of_tag ht hf) (same_of_agree h hk),
      Stream.reread_congr hnames, hself]

end DirectoryEntry

end Streams

/-! ## Dumps -/

namespace Dump
variable {d e : Image} {m : Dump} {source : Source}

/-- Where a parse of an image looks that gives this dump. -/
def footprint (d : Image) (m : Dump) : List Span :=
  ⟨0, 32⟩ :: ⟨m.header.directoryRva.toNat, 12 * m.header.streamCount.toNat⟩ ::
    m.directory.flatMap (DirectoryEntry.footprint d)

section Agree
variable (h : d.Agree e ((inPlace d).footprint d))
include h

theorem same_header : e.Same 0 d 0 32 := h.same List.mem_cons_self

theorem same_directory : e.Same (d.natAt 12 4) d (d.natAt 12 4) (12 * d.natAt 8 4) := by
  have hx := h.same (List.mem_cons_of_mem _ List.mem_cons_self)
  rw [header_inPlace, Header.toNat_directoryRva, Header.toNat_streamCount] at hx
  exact hx

theorem agree_entry {x : DirectoryEntry} (hx : x ∈ directoryIn d) :
    d.Agree e (x.footprint d) := by
  refine h.mono ?_
  intro s hs
  exact List.mem_cons_of_mem _ (List.mem_cons_of_mem _ (List.mem_flatMap.mpr ⟨x, hx, hs⟩))

theorem WellFormed.of_agree (hw : WellFormed d) : WellFormed e :=
  hw.of_same (same_header h) (same_directory h) (Nat.le_of_eq h.size.symm)
    fun x hx => DirectoryEntry.fits_of_agree (agree_entry h hx) (hw.entries x hx)

end Agree

/-- An image that is the same where a parse of another one looks is parsed to the same dump,
with the same notices. -/
theorem parse_of_agree (hm : (parse source d).result = .ok m) (h : d.Agree e (m.footprint d)) :
    parse source e = parse source d := by
  obtain ⟨hw, rfl⟩ := parse_eq_ok_iff.mp hm
  have hplace : ∀ x ∈ directoryIn d, x.inPlace e = x.inPlace d :=
    fun x hx => DirectoryEntry.inPlace_of_agree (agree_entry h hx) (hw.entries x hx)
  have hdir := directoryIn_of_same (same_header h) (same_directory h)
  have hnotices : noticesIn e = noticesIn d := by
    rw [noticesIn, noticesIn, hdir]
    exact List.flatMap_congr fun x hx => by rw [hplace x hx]
  have hdump : inPlace e = inPlace d := by
    apply eq_of_parts
    · rw [contents_inPlace, contents_inPlace, directory_inPlace, directory_inPlace, hdir]
      exact congrArg _ (List.map_congr_left fun x hx => by rw [hplace x hx])
    · rw [header_inPlace, header_inPlace]
      exact Record.readAt_same (same_header h)
    · rw [directory_inPlace, directory_inPlace, hdir]
  rw [parse_of_wellFormed source (hw.of_agree h), parse_of_wellFormed source hw, hnotices, hdump]

/-- A dump with a named module, a captured range of two bytes and an unknown stream of two, up to
the captured bytes. -/
def namedModule : Image :=
  ⟨(Record.pack (⟨Header.magic, 0xA793, 0, 3, 32, 0, 0, 0⟩ : Header) ++
    Record.pack (⟨4, 112, 68⟩ : DirectoryEntry) ++
    Record.pack (⟨5, 20, 186⟩ : DirectoryEntry) ++
    Record.pack (⟨24, 2, 208⟩ : DirectoryEntry) ++
    Record.pack (1 : UInt32) ++
    Record.pack (⟨0x400000, 0x1000, 0, 0, 180, ⟨0, 0, 0, 0, 0, 0, 0, 0, 0, 0, 0, 0, 0⟩, ⟨0, 0⟩,
      ⟨0, 0⟩, 0, 0⟩ : ModuleRecord) ++
    [2, 0, 0, 0, 97, 0] ++
    Record.pack (1 : UInt32) ++
    Record.pack (⟨0x9000, ⟨2, 206⟩⟩ : MemoryRange)).toArray⟩

def someBytes : Image := ⟨#[1, 2, 3, 4]⟩

def otherBytes : Image := ⟨#[5, 6, 7, 8]⟩

theorem namedModule_layout : Acceptable (namedModule ++ someBytes) ∧
    (inPlace (namedModule ++ someBytes)).footprint (namedModule ++ someBytes) =
      [⟨0, 32⟩, ⟨32, 36⟩, ⟨68, 112⟩, ⟨180, 4⟩, ⟨184, 2⟩, ⟨186, 20⟩] ∧
    (inPlace (namedModule ++ someBytes)).modules.map (·.name) = [some "a"] ∧
    (inPlace (namedModule ++ someBytes)).segments = [⟨0x9000, 2, 206⟩] ∧
    namedModule.size = 206 ∧
    namedModule ++ otherBytes ≠ namedModule ++ someBytes := by
  decide +kernel

/-- Neither the captured bytes nor those of the unknown stream matter. -/
theorem namedModule_parse : ∃ m, (parse .memory (namedModule ++ someBytes)).result = .ok m ∧
    m.modules.map (·.name) = [some "a"] ∧ m.segments = [⟨0x9000, 2, 206⟩] ∧
    (namedModule ++ someBytes).Agree (namedModule ++ otherBytes)
      (m.footprint (namedModule ++ someBytes)) ∧
    namedModule ++ otherBytes ≠ namedModule ++ someBytes ∧
    parse .memory (namedModule ++ otherBytes) =
      parse .memory (namedModule ++ someBytes) := by
  obtain ⟨hacc, hfoot, hnames, hsegs, hsize, hne⟩ := namedModule_layout
  have hm : (parse .memory (namedModule ++ someBytes)).result =
      .ok (inPlace (namedModule ++ someBytes)) := parse_of_acceptable hacc
  have hagree : (namedModule ++ someBytes).Agree (namedModule ++ otherBytes)
      ((inPlace (namedModule ++ someBytes)).footprint (namedModule ++ someBytes)) := by
    refine Image.agree_of_begins (Image.begins_append _ _) (Image.begins_append _ _) ?_ ?_
    · have hs : otherBytes.size = someBytes.size := rfl
      rw [ByteArray.size_append, ByteArray.size_append, hs]
    · rw [hfoot]
      simp only [Image.Fits, hsize]
      decide
  exact ⟨_, hm, hnames, hsegs, hagree, hne, parse_of_agree hm hagree⟩

end Dump

end CrashDump
