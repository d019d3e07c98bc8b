import CrashDump.Proofs.ParseRefinement
import CrashDump.Proofs.StreamsInPlace

/-! # Dumps in place

A well-formed image has a complete header and directory and, for each entry, what the stream
of its kind needs. The parse accepts exactly the well-formed images, and the dump and the
notices it gives are then read off the image entry by entry.
-/
namespace CrashDump

namespace StreamKind

theorem ofTag?_eq_some_iff {tag : UInt32} {k : StreamKind} : ofTag? tag = some k ↔ tag = k.tag := by
  constructor
  · intro h
    have hk := List.find?_some h
    exact (beq_iff_eq.mp hk).symm
  · rintro rfl
    cases k <;> rfl

theorem ofTag?_eq_none_iff {tag : UInt32} : ofTag? tag = none ↔ ∀ k : StreamKind, tag ≠ k.tag := by
  rw [Option.eq_none_iff_forall_ne_some]
  exact forall_congr' fun k => not_congr ofTag?_eq_some_iff

end StreamKind

namespace DirectoryEntry

/-- Where the entry's stream begins. -/
abbrev offset (e : DirectoryEntry) : Nat := e.location.rva.toNat

variable {d : Image} {e : DirectoryEntry} {k : StreamKind}

/-- The entry is of no kind that is decoded, or its stream is all there. -/
def Fits (d : Image) (e : DirectoryEntry) : Prop :=
  match e.kind? with
  | none => True
  | some kind => kind.Fits d e.offset

def inPlace (d : Image) (e : DirectoryEntry) : Decoded :=
  match e.kind? with
  | none => ⟨.unrecognised, []⟩
  | some kind => Decoded.inPlace d e.offset kind

theorem kind?_eq_some_iff : e.kind? = some k ↔ e.tag.toNat = k.tag.toNat := by
  rw [kind?, StreamKind.ofTag?_eq_some_iff, UInt32.toNat_inj]

theorem kind?_eq_none_iff : e.kind? = none ↔ ∀ k : StreamKind, e.tag.toNat ≠ k.tag.toNat := by
  rw [kind?, StreamKind.ofTag?_eq_none_iff]
  simp only [ne_eq, UInt32.toNat_inj]

theorem inPlace_of_tag (h : e.tag.toNat = k.tag.toNat) :
    e.inPlace d = Decoded.inPlace d e.offset k := by
  rw [inPlace, kind?_eq_some_iff.mpr h]

theorem fits_of_tag (h : e.tag.toNat = k.tag.toNat) (hf : e.Fits d) : k.Fits d e.offset := by
  rw [Fits, kind?_eq_some_iff.mpr h] at hf
  exact hf

theorem decode_of_fits (h : e.Fits d) : Stream.decode d e = .ok (e.inPlace d) := by
  rw [Stream.decode, inPlace]
  rw [Fits] at h
  cases hk : e.kind? with
  | none => rfl
  | some kind =>
    rw [hk] at h
    simp only [Stream.decodeKind_of_fits h]

theorem exists_kind_of_not_fits (h : ¬ e.Fits d) :
    ∃ k, e.kind? = some k ∧ ¬ k.Fits d e.offset := by
  rw [Fits] at h
  cases hk : e.kind? with
  | none =>
    rw [hk] at h
    exact absurd trivial h
  | some k =>
    rw [hk] at h
    exact ⟨k, rfl, h⟩

theorem decode_of_not_fits (h : ¬ e.Fits d) : ∃ r, Stream.decode d e = .error r := by
  obtain ⟨kind, hk, hf⟩ := exists_kind_of_not_fits h
  have hne := Stream.decodeKind_ne_ok hf
  rw [Stream.decode, hk]
  cases hx : Stream.decodeKind d e.offset kind with
  | error short => exact ⟨.truncated kind e.location.rva short, by simp only [hx]⟩
  | ok y =>
    cases y with
    | error r => exact ⟨r, by simp only [hx]⟩
    | ok x => exact absurd hx (hne x)

theorem exists_first_not_fits {es : List DirectoryEntry} (h : ¬ ∀ y ∈ es, y.Fits d) :
    ∃ before e after, es = before ++ e :: after ∧ (∀ y ∈ before, y.Fits d) ∧ ¬ e.Fits d := by
  induction es with
  | nil => exact absurd (List.forall_mem_nil _) h
  | cons y es ih =>
    by_cases hy : y.Fits d
    · obtain ⟨before, e, after, rfl, hb, he⟩ :=
        ih fun hes => h (List.forall_mem_cons.mpr ⟨hy, hes⟩)
      exact ⟨y :: before, e, after, rfl, List.forall_mem_cons.mpr ⟨hy, hb⟩, he⟩
    · exact ⟨[], y, es, rfl, List.forall_mem_nil _, hy⟩

end DirectoryEntry

namespace Contents
variable {d : Image}

theorem decodeStreams_of_fits {es : List DirectoryEntry} (h : ∀ e ∈ es, e.Fits d) :
    decodeStreams d es =
      ⟨es.flatMap fun e => (e.inPlace d).notices, .ok (es.map fun e => (e.inPlace d).stream)⟩ := by
  induction es with
  | nil => rfl
  | cons e es ih =>
    rw [decodeStreams, DirectoryEntry.decode_of_fits (h e List.mem_cons_self),
      ih fun e' he => h e' (List.mem_cons_of_mem e he)]
    rfl

/-- An entry that is not taken stops the decoding, and the notices of those before it stay. -/
theorem decodeStreams_of_error {r : Rejection} {e : DirectoryEntry}
    {before after : List DirectoryEntry} (hb : ∀ y ∈ before, y.Fits d)
    (he : Stream.decode d e = .error r) : decodeStreams d (before ++ e :: after) =
      ⟨before.flatMap fun y => (y.inPlace d).notices, .error r⟩ := by
  induction before with
  | nil =>
    rw [List.nil_append, decodeStreams, he]
    rfl
  | cons y before ih =>
    obtain ⟨hy, hb⟩ := List.forall_mem_cons.mp hb
    rw [List.cons_append, decodeStreams, DirectoryEntry.decode_of_fits hy, ih hb]
    rfl

theorem decodeStreams_of_not_fits {es : List DirectoryEntry} (h : ¬ ∀ e ∈ es, e.Fits d) :
    ∃ r, (decodeStreams d es).result = .error r := by
  obtain ⟨before, e, after, rfl, hb, he⟩ := DirectoryEntry.exists_first_not_fits h
  obtain ⟨r, hr⟩ := DirectoryEntry.decode_of_not_fits he
  exact ⟨r, by rw [decodeStreams_of_error hb hr]⟩

end Contents

namespace Dump
variable {d : Image}

def directoryIn (d : Image) : List DirectoryEntry :=
  Record.run DirectoryEntry d (d.natAt 12 4) (d.natAt 8 4)

/-- The header and the directory are all there and every stream has what it needs. -/
structure WellFormed (d : Image) : Prop where
  head : d.Fits 0 32
  signature : d.natAt 0 4 = 0x504D444D
  streams : 0 < d.natAt 8 4
  directory : d.Fits (d.natAt 12 4) (12 * d.natAt 8 4)
  entries : ∀ e ∈ directoryIn d, e.Fits d

section Same
variable {e : Image} (hh : e.Same 0 d 0 32)
  (hd : e.Same (d.natAt 12 4) d (d.natAt 12 4) (12 * d.natAt 8 4))
include hh

theorem natAt_of_same : e.natAt 0 4 = d.natAt 0 4 ∧ e.natAt 8 4 = d.natAt 8 4 ∧
    e.natAt 12 4 = d.natAt 12 4 := by
  have hs : e.Same 0 d 0 4 := hh.part (i := 0) (by decide)
  have hn : e.Same 8 d 8 4 := hh.part (i := 8) (by decide)
  have hr : e.Same 12 d 12 4 := hh.part (i := 12) (by decide)
  exact ⟨hs.natAt, hn.natAt, hr.natAt⟩

include hd

theorem directoryIn_of_same : directoryIn e = directoryIn d := by
  obtain ⟨-, hn, hr⟩ := natAt_of_same hh
  rw [directoryIn, directoryIn, hn, hr]
  exact Record.run_same hd

theorem WellFormed.of_same (hs : d.size ≤ e.size) (he : ∀ x ∈ directoryIn d, x.Fits e)
    (hw : WellFormed d) : WellFormed e := by
  obtain ⟨hg, hn, hr⟩ := natAt_of_same hh
  constructor
  case head => exact Nat.le_trans hw.head hs
  case signature => exact hg.trans hw.signature
  case streams => rw [hn]; exact hw.streams
  case directory => rw [hn, hr]; exact Nat.le_trans hw.directory hs
  case entries => rw [directoryIn_of_same hh hd]; exact he

end Same

def inPlace (d : Image) : Dump where
  toContents := .ofStreams ((directoryIn d).map fun e => (e.inPlace d).stream)
  header := Record.readAt d 0
  directory := directoryIn d

theorem header_inPlace (d : Image) : (inPlace d).header = Record.readAt d 0 := rfl

theorem directory_inPlace (d : Image) : (inPlace d).directory = directoryIn d := rfl

theorem contents_inPlace (d : Image) : (inPlace d).toContents =
    .ofStreams ((inPlace d).directory.map fun x => (x.inPlace d).stream) := rfl

def noticesIn (d : Image) : List Notice := (directoryIn d).flatMap fun e => (e.inPlace d).notices

theorem signature_eq_magic_iff : (Record.readAt d 0 : Header).signature = Header.magic ↔
    d.natAt 0 4 = 0x504D444D := by
  rw [← UInt32.toNat_inj, Header.toNat_signature]
  rfl

theorem streamCount_eq_zero_iff : (Record.readAt d 0 : Header).streamCount = 0 ↔
    d.natAt 8 4 = 0 := by
  rw [← UInt32.toNat_inj, Header.toNat_streamCount]
  rfl

theorem decodeDirectory_of_fits (h : d.Fits (d.natAt 12 4) (12 * d.natAt 8 4)) :
    (Record.readAt d 0 : Header).decodeDirectory d = .ok (directoryIn d) := by
  rw [Header.decodeDirectory, Header.toNat_directoryRva, Header.toNat_streamCount,
    Record.readAll_of_fits (α := DirectoryEntry) h]
  rfl

theorem decodeHeader_of_fits (hf : d.Fits 0 32) (hs : d.natAt 0 4 = 0x504D444D)
    (hn : 0 < d.natAt 8 4) : Header.decode d = .ok (Record.readAt d 0) := by
  have hs' := signature_eq_magic_iff.mpr hs
  have hn' : ¬ (Record.readAt d 0 : Header).streamCount = 0 := by
    intro hz
    exact Nat.ne_of_gt hn (streamCount_eq_zero_iff.mp hz)
  rw [Header.decode, Record.readAt?_of_fits (α := Header) hf]
  simp only [hs', hn', ne_eq, not_true_eq_false, if_false]

theorem decode_of_wellFormed (h : WellFormed d) : decode d = ⟨noticesIn d, .ok (inPlace d)⟩ := by
  rw [decode, decodeHeader_of_fits h.head h.signature h.streams]
  simp only [decodeDirectory_of_fits h.directory, Contents.decode,
    Contents.decodeStreams_of_fits h.entries]
  rfl

theorem decode_of_not_wellFormed (h : ¬ WellFormed d) : ∃ r, (decode d).result = .error r := by
  rw [decode, Header.decode]
  by_cases hf : d.Fits 0 (Record.size Header)
  · rw [Record.readAt?_of_fits hf]
    by_cases hs : (Record.readAt d 0 : Header).signature = Header.magic
    · by_cases hn : (Record.readAt d 0 : Header).streamCount = 0
      · simp only [hs, hn, ne_eq, not_true_eq_false, if_false, if_true]
        exact ⟨_, rfl⟩
      · have hpos : 0 < d.natAt 8 4 := Nat.pos_of_ne_zero (mt streamCount_eq_zero_iff.mpr hn)
        simp only [hs, hn, ne_eq, not_true_eq_false, if_false]
        by_cases hd : d.Fits (d.natAt 12 4) (12 * d.natAt 8 4)
        · simp only [decodeDirectory_of_fits hd, Contents.decode, Decoding.map]
          have he : ¬ ∀ e ∈ directoryIn d, e.Fits d := by
            intro he
            exact h
              { head := hf
                signature := signature_eq_magic_iff.mp hs
                streams := hpos
                directory := hd
                entries := he }
          obtain ⟨r, hr⟩ := Contents.decodeStreams_of_not_fits he
          exact ⟨r, by simp only [hr]; rfl⟩
        · rw [Header.decodeDirectory, Header.toNat_directoryRva, Header.toNat_streamCount,
            Record.readAll_of_not_fits (α := DirectoryEntry) hd (.inr hpos)]
          exact ⟨_, rfl⟩
    · simp only [hs, ne_eq, not_false_eq_true, if_true]
      exact ⟨_, rfl⟩
  · rw [Record.readAt?_of_not_fits hf]
    exact ⟨_, rfl⟩

theorem parse_of_wellFormed (source : Source) (h : WellFormed d) :
    parse source d = ⟨noticesIn d, .ok (inPlace d)⟩ := by
  rw [parse_eq, decode_of_wellFormed h]
  rfl

theorem parse_of_not_wellFormed (source : Source) (h : ¬ WellFormed d) :
    ∃ r, (parse source d).result = .error (.rejected r) := by
  obtain ⟨r, hr⟩ := decode_of_not_wellFormed h
  exact ⟨r, by rw [parse_eq, hr]; rfl⟩

theorem parse_eq_ok_iff {source : Source} {m : Dump} :
    (parse source d).result = .ok m ↔ WellFormed d ∧ m = inPlace d := by
  by_cases h : WellFormed d
  · rw [parse_of_wellFormed source h]
    simp [h, eq_comm]
  · obtain ⟨r, hr⟩ := parse_of_not_wellFormed source h
    simp [hr, h]

end Dump

end CrashDump
