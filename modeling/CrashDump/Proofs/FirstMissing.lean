import CrashDump.Proofs.Acceptance
import CrashDump.Proofs.ListCounts

/-! # The first missing piece

An image is read in pieces of fixed size. A parse that rejects it names the first piece that the
image does not hold: of the header, of the directory or, in the first entry that is not taken, of
the stream. Only a region list may be rejected with all of its pieces there, for the size of its
entries.
-/
namespace CrashDump

/-- A stretch of an image that is read at once. -/
structure Piece where
  offset : Nat
  size : Nat
deriving DecidableEq, Repr

namespace Piece
variable {d : Image} {off size count : Nat} {p : Piece} {ps : List Piece}

/-- Pieces of one size, each of which begins where the one before it ends. -/
def row (off size count : Nat) : List Piece :=
  (List.range count).map fun i => ⟨off + size * i, size⟩

def firstMissing? (d : Image) (ps : List Piece) : Option Piece :=
  ps.find? fun p => decide (¬ d.Fits p.offset p.size)

/-- The read that fails at a piece. -/
def shortRead (d : Image) (p : Piece) : ShortRead := ⟨p.offset, p.size, d.size - p.offset⟩

def hex (n : Nat) : String := String.ofList ('0' :: 'x' :: Nat.toDigits 16 n)

/-- What is said of a piece that is missing. -/
def text (d : Image) (p : Piece) : String :=
  s!"Short read at {hex p.offset}: expected {p.size} bytes, got {d.size - p.offset}"

theorem signed_eq_hex (n : Nat) : Hex.signed n = hex n := by
  have hn : ¬ (n : Int) < 0 := by omega
  rw [Hex.signed, if_neg hn, Int.natAbs_natCast, hex, List.nil_append]

theorem message_shortRead (d : Image) (p : Piece) : (p.shortRead d).message = p.text d := by
  unfold ShortRead.message text
  dsimp only [shortRead]
  rw [signed_eq_hex]

theorem message_truncated (k : StreamKind) (rva : UInt32) (d : Image) (p : Piece) :
    (Rejection.truncated k rva (p.shortRead d)).message =
      s!"Truncated {k.name} at {hex rva.toNat}: {p.text d}" := by
  unfold Rejection.message
  dsimp only
  rw [signed_eq_hex, message_shortRead]

theorem firstMissing?_cons_of_fits (h : d.Fits p.offset p.size) :
    firstMissing? d (p :: ps) = firstMissing? d ps :=
  List.find?_cons_of_neg (by simpa using h)

theorem firstMissing?_cons_of_not_fits (h : ¬ d.Fits p.offset p.size) :
    firstMissing? d (p :: ps) = some p :=
  List.find?_cons_of_pos (by simpa using h)

theorem lt_of_firstMissing? (hs : ∀ p ∈ ps, 0 < p.size) (h : firstMissing? d ps = some p) :
    d.size - p.offset < p.size := by
  have hp := hs p (List.mem_of_find?_eq_some h)
  have hm := List.find?_some h
  rw [decide_eq_true_iff, Image.Fits] at hm
  omega

theorem size_pos_of_mem_row (hs : 0 < size) (h : p ∈ row off size count) : 0 < p.size := by
  obtain ⟨i, -, rfl⟩ := List.mem_map.mp h
  exact hs

/-- A row breaks off after as many pieces as the image has room for. -/
theorem firstMissing?_row (hs : 0 < size) (h : (d.size - off) / size < count) :
    firstMissing? d (row off size count) =
      some ⟨off + size * ((d.size - off) / size), size⟩ := by
  have hm := Nat.div_add_mod (d.size - off) size
  have hr := Nat.mod_lt (d.size - off) hs
  rw [firstMissing?, List.find?_eq_some_iff_getElem]
  refine ⟨?_, (d.size - off) / size, by simpa [row] using h, by simp [row], ?_⟩
  · rw [decide_eq_true_iff, Image.Fits]
    dsimp only
    omega
  · intro j hj
    have hj' : size * (j + 1) ≤ size * ((d.size - off) / size) := Nat.mul_le_mul_left size hj
    rw [Nat.mul_succ] at hj'
    simp only [row, List.getElem_map, List.getElem_range, Image.Fits, Bool.not_eq_true',
      decide_eq_false_iff_not, not_not]
    omega

theorem quotient_lt_of_not_fits (hs : 0 < size) (h : ¬ d.Fits off (size * count))
    (hc : off ≤ d.size ∨ 0 < count) : (d.size - off) / size < count := by
  rw [Nat.div_lt_iff_lt_mul hs, Nat.mul_comm]
  have hp : 0 < count → 0 < size * count := Nat.mul_pos hs
  rw [Image.Fits] at h
  omega

/-- A list that is not all there, but whose count is, breaks off in the row of its records. -/
theorem firstMissing?_counted {r : Nat} (hs : 0 < size) (h : d.Fits r 4)
    (hl : ¬ d.Fits (r + 4) (size * count)) :
    firstMissing? d (⟨r, 4⟩ :: row (r + 4) size count) =
      some ⟨r + 4 + size * ((d.size - r - 4) / size), size⟩ := by
  rw [firstMissing?_cons_of_fits h, Nat.sub_sub]
  exact firstMissing?_row hs (quotient_lt_of_not_fits hs hl (.inl h))

end Piece

/-- As many records are read of a run that is cut short as the image has room for. -/
theorem Record.runLength_of_short {α : Type} [Record α] [Record.Readable α] {d : Image}
    {off count : Nat} (h : ¬ d.Fits off (Record.size α * count)) (hc : off ≤ d.size ∨ 0 < count) :
    Record.runLength α d off count = (d.size - off) / Record.size α :=
  Nat.min_eq_right (Nat.le_of_lt
    (Piece.quotient_lt_of_not_fits Record.Readable.size_pos h hc))

/-- The pieces that have to be there of a stream with a tag. Of the other lists than those of
threads and modules only the head is among them. -/
def piecesAt (d : Image) (r : Nat) : (tag : Nat) → List Piece
  | 3 => ⟨r, 4⟩ :: Piece.row (r + 4) 40 (d.natAt r 4)
  | 4 => ⟨r, 4⟩ :: Piece.row (r + 4) 108 (d.natAt r 4)
  | 5 => [⟨r, 4⟩]
  | 6 => [⟨r, 168⟩]
  | 7 => [⟨r, 48⟩]
  | 9 => [⟨r, 16⟩]
  | 12 => [⟨r, 16⟩]
  | 15 => [⟨r, 44⟩]
  | 16 => [⟨r, 16⟩]
  | _ => []

theorem size_pos_of_mem_piecesAt {d : Image} {r tag : Nat} {p : Piece}
    (h : p ∈ piecesAt d r tag) : 0 < p.size := by
  unfold piecesAt at h
  split at h
  case h_1 =>
    rcases List.mem_cons.mp h with rfl | h
    · exact Nat.succ_pos _
    · exact Piece.size_pos_of_mem_row (by decide) h
  case h_2 =>
    rcases List.mem_cons.mp h with rfl | h
    · exact Nat.succ_pos _
    · exact Piece.size_pos_of_mem_row (by decide) h
  case h_10 => cases h
  all_goals
    obtain rfl := List.mem_singleton.mp h
    exact Nat.succ_pos _

open Piece

namespace StreamKind
variable {d : Image} {r : Nat} {k : StreamKind}

/-- The piece after which a stream breaks off. -/
def brokenAt (d : Image) (r : Nat) (k : StreamKind) : Piece :=
  if d.Fits r k.headSize then
    ⟨r + 4 + k.recordSize * ((d.size - r - 4) / k.recordSize), k.recordSize⟩
  else ⟨r, k.headSize⟩

/-- A stream that is not taken breaks off, unless its entries are of another size. -/
theorem firstMissing?_piecesAt (h : ¬ k.Fits d r)
    (hs : ¬ (k = .memoryInfoList ∧ d.Fits r 16)) :
    firstMissing? d (piecesAt d r k.tag.toNat) = some (k.brokenAt d r) := by
  by_cases hh : d.Fits r k.headSize
  · rw [brokenAt, if_pos hh]
    cases k with
    | threadList => exact firstMissing?_counted (by decide) hh fun hl => h ⟨hh, hl⟩
    | moduleList => exact firstMissing?_counted (by decide) hh fun hl => h ⟨hh, hl⟩
    | memoryInfoList => exact absurd ⟨rfl, hh⟩ hs
    | _ => exact absurd hh h
  · rw [brokenAt, if_neg hh]
    cases k <;> exact firstMissing?_cons_of_not_fits hh

theorem brokenAt_of_list {n : Nat} (hn : (k.tag.toNat, n) ∈ [(3, 40), (4, 108)])
    (hf : d.Fits r 4) : k.brokenAt d r = ⟨r + 4 + n * ((d.size - r - 4) / n), n⟩ := by
  cases k with
  | threadList =>
    obtain rfl : n = 40 := by simpa [tag] using hn
    exact if_pos hf
  | moduleList =>
    obtain rfl : n = 108 := by simpa [tag] using hn
    exact if_pos hf
  | _ => simp [tag] at hn

theorem decodeKind_of_broken (h : ¬ k.Fits d r) (hs : ¬ (k = .memoryInfoList ∧ d.Fits r 16)) :
    Stream.decodeKind d r k = .error ((k.brokenAt d r).shortRead d) := by
  by_cases hh : d.Fits r k.headSize
  · rw [brokenAt, if_pos hh]
    cases k with
    | threadList =>
      have hl : ¬ d.Fits (r + 4) (40 * d.natAt r 4) := fun hl => h ⟨hh, hl⟩
      rw [Stream.decodeThreads_of_short_list hh hl,
        Record.runLength_of_short (α := Thread) hl (.inl hh), Nat.sub_sub]
      rfl
    | moduleList =>
      have hl : ¬ d.Fits (r + 4) (108 * d.natAt r 4) := fun hl => h ⟨hh, hl⟩
      rw [Stream.decodeModules_of_short_list hh hl,
        Record.runLength_of_short (α := ModuleRecord) hl (.inl hh), Nat.sub_sub]
      rfl
    | memoryInfoList => exact absurd ⟨rfl, hh⟩ hs
    | _ => exact absurd hh h
  · rw [brokenAt, if_neg hh]
    exact Stream.decodeKind_of_short_head hh

end StreamKind

namespace DirectoryEntry
variable {d : Image} {e : DirectoryEntry} {k : StreamKind}

theorem decode_of_foreignSize (ht : e.tag.toNat = 16) (hf : d.Fits e.offset 16)
    (hs : d.natAt (e.offset + 4) 4 ≠ 48) : Stream.decode d e =
      .error (.foreignEntrySize (Record.readAt d e.offset : RegionListHeader).entrySize) := by
  have hk : e.kind? = some .memoryInfoList := kind?_eq_some_iff.mpr ht
  rw [Stream.decode, hk]
  simp only [Stream.decodeRegions_of_foreign_size hf hs]

theorem decode_of_broken (hk : e.kind? = some k) (h : ¬ k.Fits d e.offset)
    (hs : ¬ (k = .memoryInfoList ∧ d.Fits e.offset 16)) : Stream.decode d e =
      .error (.truncated k e.location.rva ((k.brokenAt d e.offset).shortRead d)) := by
  rw [Stream.decode, hk]
  simp only [StreamKind.decodeKind_of_broken h hs]

end DirectoryEntry

namespace Dump
variable {d : Image} {e : DirectoryEntry}

/-- The header is there and is that of a dump with streams. -/
def HeaderHeld (d : Image) : Prop :=
  32 ≤ d.size ∧ d.natAt 0 4 = 0x504D444D ∧ 0 < d.natAt 8 4

/-- A parse that is stopped by the first entry of the directory that is not taken. -/
structure StoppedAt (d : Image) (e : DirectoryEntry) (x : Parsed) : Prop where
  first : ∃ before after, directoryIn d = before ++ e :: after ∧
    (∀ y ∈ before, TagFits d y.offset y.tag.toNat) ∧
    x.notices = before.flatMap fun y => (y.inPlace d).notices
  offends : ¬ TagFits d e.offset e.tag.toNat
  entrySize : e.tag.toNat = 16 → d.Fits e.offset 16 → ∃ found : UInt32,
    found.toNat = d.natAt (e.offset + 4) 4 ∧ found.toNat ≠ 48 ∧
    x.result = .error (.rejected (.foreignEntrySize found)) ∧
    (Rejection.foreignEntrySize found).message =
      s!"Unexpected memory info entry size {d.natAt (e.offset + 4) 4}"
  piece : ¬ (e.tag.toNat = 16 ∧ d.Fits e.offset 16) → ∃ k p, e.kind? = some k ∧
    firstMissing? d (piecesAt d e.offset e.tag.toNat) = some p ∧ d.size - p.offset < p.size ∧
    (∀ n, (e.tag.toNat, n) ∈ [(3, 40), (4, 108)] → d.Fits e.offset 4 →
      p = ⟨e.offset + 4 + n * ((d.size - e.offset - 4) / n), n⟩) ∧
    x.result = .error (.rejected (.truncated k e.location.rva (p.shortRead d))) ∧
    (Rejection.truncated k e.location.rva (p.shortRead d)).message =
      s!"Truncated {k.name} at {hex e.offset}: {p.text d}"

theorem parse_of_short_head (source : Source) (h : ¬ d.Fits 0 32) :
    parse source d = ⟨[], .error (.rejected (.short (Piece.shortRead d ⟨0, 32⟩)))⟩ := by
  rw [parse_eq, decode, Header.decode, Record.readAt?_of_not_fits (α := Header) h]
  rfl

theorem HeaderHeld.decode (h : HeaderHeld d) : Header.decode d = .ok (Record.readAt d 0) :=
  decodeHeader_of_fits (by simpa using h.1) h.2.1 h.2.2

/-- The directory breaks off after as many entries as the image has room for. -/
theorem parse_of_short_directory (source : Source) (h : HeaderHeld d)
    (hd : ¬ d.Fits (d.natAt 12 4) (12 * d.natAt 8 4)) :
    firstMissing? d (row (d.natAt 12 4) 12 (d.natAt 8 4)) =
        some ⟨d.natAt 12 4 + 12 * ((d.size - d.natAt 12 4) / 12), 12⟩ ∧
      parse source d = ⟨[], .error (.rejected (.short (Piece.shortRead d
        ⟨d.natAt 12 4 + 12 * ((d.size - d.natAt 12 4) / 12), 12⟩)))⟩ := by
  have hq := quotient_lt_of_not_fits (by decide) hd (.inr h.2.2)
  refine ⟨firstMissing?_row (by decide) hq, ?_⟩
  have hx : (Record.readAt d 0 : Header).decodeDirectory d = .error (.short (Piece.shortRead d
      ⟨d.natAt 12 4 + 12 * ((d.size - d.natAt 12 4) / 12), 12⟩)) := by
    rw [Header.decodeDirectory, Header.toNat_directoryRva, Header.toNat_streamCount,
      Record.readAll_of_not_fits (α := DirectoryEntry) hd (.inr h.2.2),
      Record.runLength_of_short (α := DirectoryEntry) hd (.inr h.2.2)]
    rfl
  rw [parse_eq, decode, h.decode]
  simp only [hx]
  rfl

theorem parse_of_stream_error {log : List Notice} {r : Rejection} (source : Source)
    (h : HeaderHeld d) (hd : d.Fits (d.natAt 12 4) (12 * d.natAt 8 4))
    (hx : Contents.decodeStreams d (directoryIn d) = ⟨log, .error r⟩) :
    parse source d = ⟨log, .error (.rejected r)⟩ := by
  rw [parse_eq, decode, h.decode]
  simp only [decodeDirectory_of_fits hd, Contents.decode, Decoding.map, hx]
  rfl

theorem stoppedAt_parse (source : Source) (h : HeaderHeld d)
    (hd : d.Fits (d.natAt 12 4) (12 * d.natAt 8 4)) {before after : List DirectoryEntry}
    (hes : directoryIn d = before ++ e :: after) (hb : ∀ y ∈ before, y.Fits d)
    (he : ¬ e.Fits d) : StoppedAt d e (parse source d) := by
  have hx : ∀ {r}, Stream.decode d e = .error r → parse source d =
      ⟨before.flatMap fun y => (y.inPlace d).notices, .error (.rejected r)⟩ := by
    intro r hr
    apply parse_of_stream_error source h hd
    rw [hes]
    exact Contents.decodeStreams_of_error hb hr
  constructor
  case first =>
    obtain ⟨r, hr⟩ := DirectoryEntry.decode_of_not_fits he
    refine ⟨before, after, hes, fun y hy => (y.fits_iff_tagFits d).mp (hb y hy), ?_⟩
    rw [hx hr]
  case offends =>
    rw [← DirectoryEntry.fits_iff_tagFits]
    exact he
  case entrySize =>
    intro ht hf
    have hs : d.natAt (e.offset + 4) 4 ≠ 48 := by
      intro hs
      rw [DirectoryEntry.fits_iff_tagFits, ht] at he
      exact he ⟨hf, hs⟩
    have hn := RegionListHeader.toNat_entrySize d e.offset
    refine ⟨_, hn, by rw [hn]; exact hs, by rw [hx (DirectoryEntry.decode_of_foreignSize ht hf hs)],
      ?_⟩
    rw [← hn]
    rfl
  case piece =>
    intro hp
    obtain ⟨k, hk, hkf⟩ := DirectoryEntry.exists_kind_of_not_fits he
    have ht := DirectoryEntry.kind?_eq_some_iff.mp hk
    have hr : ¬ (k = .memoryInfoList ∧ d.Fits e.offset 16) := by
      rintro ⟨rfl, hf⟩
      exact hp ⟨ht, hf⟩
    have hm := StreamKind.firstMissing?_piecesAt hkf hr
    refine ⟨k, k.brokenAt d e.offset, hk, by rw [ht]; exact hm,
      lt_of_firstMissing? (fun _ => size_pos_of_mem_piecesAt) hm, ?_,
      by rw [hx (DirectoryEntry.decode_of_broken hk hkf hr)], ?_⟩
    · rw [ht]
      exact fun n hn hf => StreamKind.brokenAt_of_list hn hf
    · exact message_truncated k _ _ _

/-- An image that is rejected lacks a piece, and the first that it lacks is named. -/
theorem parse_firstMissing (source : Source) (d : Image) :
    (¬ d.Fits 0 32 → d.size < 32 ∧
      parse source d = ⟨[], .error (.rejected (.short (Piece.shortRead d ⟨0, 32⟩)))⟩ ∧
      (Rejection.short (Piece.shortRead d ⟨0, 32⟩)).message = Piece.text d ⟨0, 32⟩) ∧
    (HeaderHeld d → ¬ d.Fits (d.natAt 12 4) (12 * d.natAt 8 4) → ∃ p,
      firstMissing? d (row (d.natAt 12 4) 12 (d.natAt 8 4)) = some p ∧
      p = ⟨d.natAt 12 4 + 12 * ((d.size - d.natAt 12 4) / 12), 12⟩ ∧
      d.size - p.offset < p.size ∧
      parse source d = ⟨[], .error (.rejected (.short (p.shortRead d)))⟩ ∧
      (Rejection.short (p.shortRead d)).message = p.text d) ∧
    (HeaderHeld d → d.Fits (d.natAt 12 4) (12 * d.natAt 8 4) →
      (∀ m, (parse source d).result ≠ .ok m) → ∃ e, StoppedAt d e (parse source d)) := by
  refine ⟨fun h => ?_, fun hh hd => ?_, fun hh hd hm => ?_⟩
  · have hs : d.size < 32 := by simpa using h
    exact ⟨hs, parse_of_short_head source h, message_shortRead d _⟩
  · obtain ⟨hp, hx⟩ := parse_of_short_directory source hh hd
    have hs : ∀ p ∈ row (d.natAt 12 4) 12 (d.natAt 8 4), 0 < p.size :=
      fun p hp => size_pos_of_mem_row (by decide) hp
    exact ⟨_, hp, rfl, lt_of_firstMissing? hs hp, hx, message_shortRead d _⟩
  · have hw : ¬ ∀ e ∈ directoryIn d, e.Fits d := by
      intro he
      exact hm _ (parse_eq_ok_iff.mpr ⟨⟨by simpa using hh.1, hh.2.1, hh.2.2, hd, he⟩, rfl⟩)
    obtain ⟨before, e, after, hes, hb, he⟩ := DirectoryEntry.exists_first_not_fits hw
    exact ⟨e, stoppedAt_parse source hh hd hes hb he⟩

/-! ## Images that break off -/

/-- A header that nothing follows. -/
def headerAlone : Image := ⟨(Record.pack loneHeader).toArray⟩

/-- A list of two threads that breaks off five bytes into the second. -/
def brokenThreads : Image := loneStream ⟨3, ⟨84, 44⟩⟩ (bytesOfNat 4 2 ++ List.replicate 45 0)

theorem size_headerAlone : headerAlone.size = 32 := Record.length_pack loneHeader

theorem natAt_headerAlone : headerAlone.natAt 0 4 = 0x504D444D ∧ headerAlone.natAt 8 4 = 1 ∧
    headerAlone.natAt 12 4 = 32 :=
  natAt_of_holds_loneHeader (Image.holds_toArray _)

theorem size_brokenThreads : brokenThreads.size = 93 := size_loneStream _ _

theorem directoryIn_brokenThreads : directoryIn brokenThreads = [⟨3, ⟨84, 44⟩⟩] :=
  directoryIn_loneStream _ _

theorem brokenThreads_held : HeaderHeld brokenThreads ∧
    brokenThreads.Fits (brokenThreads.natAt 12 4) (12 * brokenThreads.natAt 8 4) := by
  obtain ⟨hg, hn, hp⟩ : brokenThreads.natAt 0 4 = 0x504D444D ∧ brokenThreads.natAt 8 4 = 1 ∧
      brokenThreads.natAt 12 4 = 32 := natAt_loneStream _ _
  rw [HeaderHeld, Image.Fits, hn, hp, size_brokenThreads]
  exact ⟨⟨by decide, hg, Nat.one_pos⟩, by decide⟩

theorem brokenThreads_rejected (m : Dump) :
    (parse (.file .usual) brokenThreads).result ≠ .ok m := by
  intro hm
  have hc : brokenThreads.natAt 44 4 = 2 := (holds_payload _ _).left.natAt (by decide)
  have he := (parse_eq_ok_iff.mp hm).1.entries ⟨3, ⟨84, 44⟩⟩
    (by rw [directoryIn_brokenThreads]; exact List.mem_singleton_self _)
  rw [DirectoryEntry.fits_iff_tagFits] at he
  have hl : 48 + 40 * brokenThreads.natAt 44 4 ≤ brokenThreads.size := he.2
  rw [hc, size_brokenThreads] at hl
  exact absurd hl (by decide)

theorem brokenImages_firstMissing :
    parse (.file .usual) ⟨#[]⟩ = ⟨[], .error (.rejected (.short ⟨0, 32, 0⟩))⟩ ∧
    parse (.file .usual) headerAlone = ⟨[], .error (.rejected (.short ⟨32, 12, 0⟩))⟩ ∧
    ∃ r, (parse (.file .usual) brokenThreads).result = .error (.rejected r) ∧ r.message =
      "Truncated ThreadListStream at 0x2c: Short read at 0x58: expected 40 bytes, got 5" := by
  obtain ⟨hhead, -, -⟩ := parse_firstMissing (.file .usual) ⟨#[]⟩
  obtain ⟨-, hdirectory, -⟩ := parse_firstMissing (.file .usual) headerAlone
  obtain ⟨-, -, hstream⟩ := parse_firstMissing (.file .usual) brokenThreads
  refine ⟨(hhead (by decide)).2.1, ?_, ?_⟩
  · obtain ⟨hg, hn, hp⟩ := natAt_headerAlone
    rw [HeaderHeld, Image.Fits, hn, hp, size_headerAlone] at hdirectory
    obtain ⟨p, -, rfl, -, hx, -⟩ := hdirectory ⟨Nat.le_refl 32, hg, Nat.one_pos⟩ (by decide)
    rw [hx, shortRead, size_headerAlone]
    rfl
  · obtain ⟨hh, hd⟩ := brokenThreads_held
    obtain ⟨e, hstop⟩ := hstream hh hd brokenThreads_rejected
    obtain ⟨before, after, hes, -, -⟩ := hstop.first
    have he : e ∈ [⟨3, ⟨84, 44⟩⟩] := by
      rw [← directoryIn_brokenThreads, hes]
      exact List.mem_append_right _ List.mem_cons_self
    obtain rfl := List.mem_singleton.mp he
    obtain ⟨k, p, hk, -, -, hplace, hx, hm⟩ := hstop.piece (by decide)
    obtain rfl : StreamKind.threadList = k := Option.some.inj hk
    have hp : p = ⟨48 + 40 * ((brokenThreads.size - 44 - 4) / 40), 40⟩ :=
      hplace 40 (by decide) (by rw [Image.Fits, size_brokenThreads]; decide)
    have ht : p.text brokenThreads = "Short read at 0x58: expected 40 bytes, got 5" := by
      unfold text
      simp only [hp, size_brokenThreads]
      decide
    refine ⟨_, hx, hm.trans ?_⟩
    rw [ht]
    decide

end Dump

end CrashDump
