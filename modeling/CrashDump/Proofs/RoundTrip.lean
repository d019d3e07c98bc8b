import CrashDump.Proofs.PartsInPlace
import Mathlib.Data.List.Basic

/-! # Parsing undoes writing

The image of a blueprint is parsed to the dump that the blueprint describes, without a notice.
Each part is found where it was laid out, and no part bears on another.
-/
namespace CrashDump

theorem ExceptionInfo.information_withParameters (e : ExceptionInfo) {ps : List UInt64}
    (h : ps.length ≤ 15) : (e.withParameters ps).record.information = ps := by
  have hc : (UInt32.ofNat ps.length).toNat = ps.length :=
    uint32_toNat_ofNat (Nat.lt_of_le_of_lt h (by decide))
  rw [ExceptionRecord.information, withParameters]
  simp only [hc]
  refine List.ext_getElem (by simpa using Nat.min_eq_left h) ?_
  intro i hi hi'
  simp [hi']

namespace Part
variable {d : Image} {x : Part} {p : Nat}

theorem captures_of_holds (h : d.Holds p (x.bytes p)) :
    (x.stream? p).toList.flatMap (fun s => s.segmentList.map (Segment.bytesIn d)) =
      x.captures := by
  have hb := h.left
  cases x with
  | memory64 cs | memory cs =>
    simp only [stream?, Option.toList_some, List.flatMap_singleton, Stream.segmentList]
    exact Capture.bytesIn_segmentsFrom hb
  | _ => rfl

theorem parameters?_eq (hw : x.isWritable) :
    ((x.stream? p).bind (·.exception?)).map (·.record.information) = x.parameters? := by
  cases x with
  | exception e ps => exact congrArg some (e.information_withParameters (of_decide_eq_true hw))
  | _ => rfl

theorem foreignTag?_eq (hw : x.isWritable) :
    ((x.listing? p).filter (·.kind?.isNone)).map (·.tag) = x.foreignTag? := by
  cases x with
  | other tag payload =>
    have hk : (StreamKind.ofTag? tag).isNone := hw
    simp [listing?, tag?, DirectoryEntry.kind?, hk, foreignTag?, Option.filter]
  | _ => rfl

theorem stream?_eq_none {x : Part} {p : Nat} (h : x.listing? p = none) : x.stream? p = none := by
  cases x with
  | blob data => rfl
  | _ => nomatch h

/-- The entries of the parts yield their streams in order. -/
theorem entries_yield {ys : List (Nat × Part)}
    (h : ∀ y ∈ ys, ∀ e, y.2.listing? y.1 = some e → ∃ s, y.2.stream? y.1 = some s ∧ e.Yields d s) :
    (∀ e ∈ ys.filterMap fun y => y.2.listing? y.1, e.Fits d) ∧
      (ys.filterMap fun y => y.2.listing? y.1).map (DirectoryEntry.inPlace d) =
        (ys.filterMap fun y => y.2.stream? y.1).map fun s => ⟨s, []⟩ := by
  induction ys with
  | nil => exact ⟨nofun, rfl⟩
  | cons y ys ih =>
    have ih := ih fun z hz => h z (List.mem_cons_of_mem y hz)
    cases he : y.2.listing? y.1 with
    | none =>
      simp only [List.filterMap_cons, he, stream?_eq_none he]
      exact ih
    | some e =>
      obtain ⟨s, hs, hf, hp⟩ := h y List.mem_cons_self e he
      simp only [List.filterMap_cons, he, hs, List.map_cons, hp, ih.2]
      exact ⟨List.forall_mem_cons.mpr ⟨hf, ih.1⟩, trivial⟩

end Part

namespace Blueprint
variable {b : Blueprint}

theorem map_snd_places (b : Blueprint) : b.places.map (·.2) = b.parts := map_snd_placesFrom _ _ _

theorem holds_bytes (b : Blueprint) : b.image.Holds 0 b.bytes := Image.holds_toArray b.bytes

theorem size_image (b : Blueprint) : b.image.size = b.bytes.length := by
  rw [image, ByteArray.size, List.size_toArray]

theorem length_directoryBytes (b : Blueprint) :
    (b.directory.flatMap Record.pack).length = 12 * b.directory.length :=
  length_flatMap_of_length Record.length_pack _

theorem length_slots (h : b.Writable) : b.slots.length = 12 * b.reserved := by
  rw [slots]
  split
  · next hr => rw [hr]; rfl
  · next hr =>
    have hl : b.directory.length ≤ b.reserved := h.slots.resolve_left hr
    rw [List.length_append, length_directoryBytes, List.length_replicate]
    omega

theorem holds_header (b : Blueprint) : b.image.Holds 0 (Record.pack b.header) :=
  b.holds_bytes.left

theorem readAt_image (b : Blueprint) : Record.readAt b.image 0 = b.header := by
  have hf : (2 : UInt64) &&& .ofNat Codes.contents.union = 2 := by decide
  exact Header.readAt_of_packed b.holds_header hf

theorem holds_body (h : b.Writable) : b.image.Holds b.start (b.body ++ b.trailer) := by
  have hr := b.holds_bytes.right.right
  rw [Record.length_pack, length_slots h] at hr
  rw [start]
  simpa using hr

theorem holds_directory (h : b.Writable) :
    b.image.Holds b.directoryRva (b.directory.flatMap Record.pack) := by
  rw [directoryRva]
  split
  · next hr =>
    have ht := (holds_body h).right
    rwa [trailer, if_pos hr] at ht
  · next hr =>
    have hs := b.holds_bytes.right.left
    rw [slots, if_neg hr, Record.length_pack] at hs
    exact hs.left

section Written
variable (h : b.Writable)
include h

theorem size_lt : b.image.size < 2 ^ 32 := by
  rw [size_image]
  exact h.size

theorem streamCount_header : b.header.streamCount.toNat = b.directory.length :=
  uint32_toNat_ofNat (Record.length_lt_of_holds (holds_directory h) (size_lt h))

theorem directoryRva_header : b.header.directoryRva.toNat = b.directoryRva := by
  have hf := (holds_directory h).fits
  have hs := size_lt h
  exact uint32_toNat_ofNat (by omega)

theorem natAt_count : b.image.natAt 8 4 = b.directory.length := by
  have hn := Header.toNat_streamCount b.image 0
  rw [readAt_image, streamCount_header h] at hn
  exact hn.symm

theorem natAt_directoryRva : b.image.natAt 12 4 = b.directoryRva := by
  have hn := Header.toNat_directoryRva b.image 0
  rw [readAt_image, directoryRva_header h] at hn
  exact hn.symm

theorem directoryIn_image : Dump.directoryIn b.image = b.directory := by
  rw [Dump.directoryIn, natAt_count h, natAt_directoryRva h]
  exact Record.run_of_packed (holds_directory h)

theorem entries_yield : (∀ e ∈ b.directory, e.Fits b.image) ∧
    b.directory.map (DirectoryEntry.inPlace b.image) =
      (b.places.filterMap fun y => y.2.stream? y.1).map fun s => ⟨s, []⟩ := by
  refine Part.entries_yield ?_
  intro y hy e he
  have hp : 0 < y.1 := Nat.lt_of_lt_of_le (Nat.add_pos_left (by decide) _)
    (le_of_mem_placesFrom hy)
  exact Part.entry_yields (holds_of_mem_placesFrom (holds_body h).left hy) hp (size_lt h)
    (h.parts y.2 (mem_of_mem_placesFrom hy)) he

theorem wellFormed_image : Dump.WellFormed b.image where
  head := b.holds_header.fits
  signature := by
    have hn := Header.toNat_signature b.image 0
    rw [readAt_image] at hn
    exact hn.symm
  streams := by
    rw [natAt_count h]
    exact List.length_pos_iff.mpr h.streams
  directory := by
    rw [natAt_count h, natAt_directoryRva h]
    exact Record.fits_of_holds (holds_directory h)
  entries := by
    rw [directoryIn_image h]
    exact (entries_yield h).1

theorem noticesIn_image : Dump.noticesIn b.image = [] := by
  have hn : b.directory.flatMap (fun e => (e.inPlace b.image).notices) =
      (b.directory.map (DirectoryEntry.inPlace b.image)).flatMap (·.notices) := by
    rw [List.flatMap_map]
  rw [Dump.noticesIn, directoryIn_image h, hn, (entries_yield h).2, List.flatMap_map]
  exact List.flatMap_eq_nil_iff.mpr fun _ _ => rfl

theorem inPlace_image : Dump.inPlace b.image = b.dump := by
  have hs : b.directory.map (fun e => (e.inPlace b.image).stream) =
      b.places.filterMap fun y => y.2.stream? y.1 := by
    have hm := congrArg (List.map Decoded.stream) (entries_yield h).2
    simpa [List.map_map, Function.comp_def] using hm
  rw [Dump.inPlace, directoryIn_image h, hs, readAt_image]
  rfl

theorem captures_image :
    b.dump.segments.map (Segment.bytesIn b.image) = b.parts.flatMap Part.captures := by
  simp only [dump, Contents.ofStreams, List.filterMap_eq_flatMap_toList, List.flatMap_assoc,
    List.map_flatMap]
  rw [← b.map_snd_places, List.flatMap_map]
  apply List.flatMap_congr
  intro y hy
  have hb := holds_of_mem_placesFrom (holds_body h).left hy
  exact Part.captures_of_holds hb

theorem information_image : b.dump.exception.map (·.record.information) =
    (b.parts.filterMap Part.parameters?).getLast? := by
  simp only [dump, Contents.ofStreams, ← List.getLast?_map, List.filterMap_filterMap,
    List.map_filterMap]
  rw [← b.map_snd_places, List.filterMap_map]
  refine congrArg _ (List.filterMap_congr ?_)
  intro y hy
  have hw := h.parts y.2 (mem_of_mem_placesFrom hy)
  exact Part.parameters?_eq hw

theorem unknownStreams_image : b.dump.unknownStreams.map (·.tag) =
    b.parts.filterMap Part.foreignTag? := by
  simp only [Dump.unknownStreams, dump, directory, List.filter_filterMap, List.map_filterMap]
  rw [← b.map_snd_places, List.filterMap_map]
  apply List.filterMap_congr
  intro y hy
  have hw := h.parts y.2 (mem_of_mem_placesFrom hy)
  exact Part.foreignTag?_eq hw

end Written

/-- A written blueprint is parsed to the dump it describes, without a notice. Its captures are
the bytes in the places of the segments, its last exception has the parameters it was given and
the streams of other tags are the unknown ones. -/
theorem parse_image (source : Source) (h : b.Writable) :
    Dump.parse source b.image = ⟨[], .ok b.dump⟩ ∧
      b.dump.segments.map (Segment.bytesIn b.image) = b.parts.flatMap Part.captures ∧
      b.dump.exception.map (·.record.information) =
        (b.parts.filterMap Part.parameters?).getLast? ∧
      b.dump.unknownStreams.map (·.tag) = b.parts.filterMap Part.foreignTag? := by
  refine ⟨?_, captures_image h, information_image h, unknownStreams_image h⟩
  rw [Dump.parse_of_wellFormed source (wellFormed_image h), noticesIn_image h, inPlace_image h]

/-- A blueprint with names, captures, an exception and a stream of a foreign tag. -/
def sample : Blueprint where
  reserved := 5
  parts := [
    .blob [1, 2, 3],
    .modules [
      ⟨⟨0x400000, 0x1000, 0, 0, 0, ⟨0, 0, 0, 0, 0, 0, 0, 0, 0, 0, 0, 0, 0⟩, ⟨0, 0⟩, ⟨0, 0⟩, 0, 0⟩,
        some "aπb"⟩,
      ⟨⟨0x500000, 0x2000, 0, 0, 0, ⟨0, 0, 0, 0, 0, 0, 0, 0, 0, 0, 0, 0, 0⟩, ⟨0, 0⟩, ⟨0, 0⟩, 0, 0⟩,
        none⟩],
    .memory64 [⟨0x1000, [10, 11]⟩, ⟨0x2000, []⟩, ⟨0x3000, [12]⟩],
    .exception ⟨7, ⟨0xC0000005, 0, 0, 0x401000, 0, .replicate 15 0⟩, ⟨0, 0⟩⟩ [1, 0x1000],
    .other 24 [9, 9],
    .threads [⟨7, 0, 8, 8, 0, 0, 0, 0, 0⟩]]

theorem sample_parses : sample.Writable ∧
    sample.dump.modules.map (·.name) = [some "ab", none] ∧
    Dump.parse (.file .usual) sample.image = ⟨[], .ok sample.dump⟩ ∧
    sample.dump.segments.map (Segment.bytesIn sample.image) =
      sample.parts.flatMap Part.captures ∧
    sample.dump.exception.map (·.record.information) =
      (sample.parts.filterMap Part.parameters?).getLast? ∧
    sample.dump.unknownStreams.map (·.tag) = sample.parts.filterMap Part.foreignTag? := by
  have h : sample.Writable :=
    { streams := by decide +kernel
      slots := by decide +kernel
      size := by decide +kernel
      parts := by decide +kernel }
  exact ⟨h, by decide +kernel, parse_image (.file .usual) h⟩

end Blueprint

end CrashDump
