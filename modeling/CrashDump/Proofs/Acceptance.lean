import CrashDump.Proofs.DumpInPlace

/-! # Acceptance

Which images parse, in terms of their bytes alone: the words at fixed offsets of the header,
of each directory entry and of each stream, and the size of the image.
-/
namespace CrashDump

/-- What a directory entry with a tag asks of the image at its offset. -/
def TagFits (d : Image) (r : Nat) : (tag : Nat) → Prop
  | 3 => r + 4 ≤ d.size ∧ r + 4 + 40 * d.natAt r 4 ≤ d.size
  | 4 => r + 4 ≤ d.size ∧ r + 4 + 108 * d.natAt r 4 ≤ d.size
  | 5 => r + 4 ≤ d.size
  | 6 => r + 168 ≤ d.size
  | 7 => r + 48 ≤ d.size
  | 9 => r + 16 ≤ d.size
  | 12 => r + 16 ≤ d.size
  | 15 => r + 44 ≤ d.size
  | 16 => r + 16 ≤ d.size ∧ d.natAt (r + 4) 4 = 48
  | _ => True

instance (d : Image) (r tag : Nat) : Decidable (TagFits d r tag) := by
  unfold TagFits
  split <;> infer_instance

theorem StreamKind.fits_iff_tagFits (d : Image) (r : Nat) (k : StreamKind) :
    k.Fits d r ↔ TagFits d r k.tag.toNat := by
  cases k <;> exact Iff.rfl

theorem tagFits_of_not_tag {d : Image} {r tag : Nat}
    (h : ∀ k : StreamKind, tag ≠ k.tag.toNat) : TagFits d r tag := by
  unfold TagFits
  split
  · exact absurd rfl (h .threadList)
  · exact absurd rfl (h .moduleList)
  · exact absurd rfl (h .memoryList)
  · exact absurd rfl (h .exception)
  · exact absurd rfl (h .systemInfo)
  · exact absurd rfl (h .memory64List)
  · exact absurd rfl (h .handleData)
  · exact absurd rfl (h .miscInfo)
  · exact absurd rfl (h .memoryInfoList)
  · trivial

theorem DirectoryEntry.fits_iff_tagFits (d : Image) (e : DirectoryEntry) :
    e.Fits d ↔ TagFits d e.offset e.tag.toNat := by
  rw [Fits]
  cases hk : e.kind? with
  | none =>
    have hne := kind?_eq_none_iff.mp hk
    exact iff_of_true trivial (tagFits_of_not_tag hne)
  | some k =>
    rw [StreamKind.ofTag?_eq_some_iff.mp hk]
    exact k.fits_iff_tagFits d _

/-- The condition on the bytes of an image for it to be a dump. -/
structure Acceptable (d : Image) : Prop where
  head : 32 ≤ d.size
  signature : d.natAt 0 4 = 0x504D444D
  streams : 0 < d.natAt 8 4
  directory : d.natAt 12 4 + 12 * d.natAt 8 4 ≤ d.size
  entries : ∀ i < d.natAt 8 4,
    TagFits d (d.natAt (d.natAt 12 4 + 12 * i + 8) 4) (d.natAt (d.natAt 12 4 + 12 * i) 4)

theorem acceptable_iff (d : Image) : Acceptable d ↔
    32 ≤ d.size ∧ d.natAt 0 4 = 0x504D444D ∧ 0 < d.natAt 8 4 ∧
      d.natAt 12 4 + 12 * d.natAt 8 4 ≤ d.size ∧ ∀ i < d.natAt 8 4,
        TagFits d (d.natAt (d.natAt 12 4 + 12 * i + 8) 4) (d.natAt (d.natAt 12 4 + 12 * i) 4) :=
  ⟨fun h => ⟨h.head, h.signature, h.streams, h.directory, h.entries⟩,
    fun ⟨a, b, c, e, f⟩ => ⟨a, b, c, e, f⟩⟩

instance (d : Image) : Decidable (Acceptable d) := decidable_of_iff' _ (acceptable_iff d)

theorem Dump.forall_directoryIn_fits_iff (d : Image) : (∀ e ∈ directoryIn d, e.Fits d) ↔
    ∀ i < d.natAt 8 4,
      TagFits d (d.natAt (d.natAt 12 4 + 12 * i + 8) 4) (d.natAt (d.natAt 12 4 + 12 * i) 4) := by
  simp [directoryIn, Record.run, DirectoryEntry.fits_iff_tagFits]

theorem wellFormed_iff_acceptable (d : Image) : Dump.WellFormed d ↔ Acceptable d := by
  constructor
  · intro h
    exact ⟨by simpa using h.head, h.signature, h.streams, h.directory,
      (Dump.forall_directoryIn_fits_iff d).mp h.entries⟩
  · intro h
    exact ⟨by simpa using h.head, h.signature, h.streams, h.directory,
      (Dump.forall_directoryIn_fits_iff d).mpr h.entries⟩

theorem Dump.parse_of_acceptable {source : Source} {d : Image} (h : Acceptable d) :
    (parse source d).result = .ok (inPlace d) :=
  parse_eq_ok_iff.mpr ⟨(wellFormed_iff_acceptable d).mpr h, rfl⟩

/-- Exactly the acceptable images parse. Any other is rejected: whatever its counts and offsets,
no fault of an access leaves the parse. -/
theorem parse_accepts_iff (source : Source) (d : Image) :
    ((∃ m, (Dump.parse source d).result = .ok m) ↔ Acceptable d) ∧
      (Acceptable d ∨ ∃ r, (Dump.parse source d).result = .error (.rejected r)) := by
  rw [← wellFormed_iff_acceptable]
  constructor
  · constructor
    · rintro ⟨m, hm⟩
      exact (Dump.parse_eq_ok_iff.mp hm).1
    · intro h
      exact ⟨Dump.inPlace d, Dump.parse_eq_ok_iff.mpr ⟨h, rfl⟩⟩
  · by_cases h : Dump.WellFormed d
    · exact .inl h
    · exact .inr (Dump.parse_of_not_wellFormed source h)

end CrashDump
