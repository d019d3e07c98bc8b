import CrashDump.Proofs.DumpInPlace

/-! # Images that go on

Where an image goes on beyond the end of another, all that was read of the other is read again.
A run of records that the end cut short goes on too, and a name that ran past the end may now be
there in full.
-/
namespace CrashDump

namespace Image
variable {d e : Image} {off n width : Nat}

/-- The second image begins with the bytes of the first. -/
structure Begins (d e : Image) : Prop where
  fits : e.Fits 0 d.size
  slice : e.slice 0 d.size = d

theorem begins_append (d extra : Image) : d.Begins (d ++ extra) where
  fits := by
    rw [Fits, ByteArray.size_append]
    omega
  slice := ByteArray.extract_append_eq_left (Nat.zero_add _)

namespace Begins

theorem size_le (h : d.Begins e) : d.size ≤ e.size := by
  have hf := h.fits
  omega

theorem fits_of_fits (h : d.Begins e) (hf : d.Fits off n) : e.Fits off n :=
  Nat.le_trans hf h.size_le

theorem same (h : d.Begins e) (hf : d.Fits off n) : e.Same off d off n := by
  intro i hi
  have hb := byteAt_slice h.fits (i := off + i) (by omega)
  rw [h.slice, Nat.zero_add] at hb
  exact hb.symm

theorem natAt (h : d.Begins e) (hf : d.Fits off width) : e.natAt off width = d.natAt off width :=
  (h.same hf).natAt

end Begins

end Image

namespace Record
variable {α : Type} [Record α] {d e : Image} {off : Nat}

theorem readAt_of_begins (h : d.Begins e) (hf : d.Fits off (size α)) :
    readAt e off = (readAt d off : α) := readAt_same (h.same hf)

theorem run_of_begins (h : d.Begins e) {count : Nat} (hf : d.Fits off (size α * count)) :
    run α e off count = run α d off count := run_same (h.same hf)

theorem run_prefix (d : Image) (off : Nat) {k l : Nat} (h : k ≤ l) :
    run α d off k <+: run α d off l := by
  have hr : (List.range l).take k = List.range k := by
    rw [List.take_range, Nat.min_eq_left h]
  rw [run, run, ← hr]
  exact (List.take_prefix _ _).map _

theorem runLength_le_of_begins (h : d.Begins e) (off count : Nat) :
    runLength α d off count ≤ runLength α e off count := by
  have hq : (d.size - off) / size α ≤ (e.size - off) / size α :=
    Nat.div_le_div_right (Nat.sub_le_sub_right h.size_le off)
  rw [runLength, runLength]
  omega

variable [Readable α]

/-- What a run takes of an image it also takes of one that goes on. -/
theorem run_taken_of_begins (h : d.Begins e) (off count : Nat) :
    run α e off (runLength α d off count) = run α d off (runLength α d off count) := by
  by_cases hf : d.Fits off (size α)
  · refine run_of_begins h ((runLength_eq_iff (by omega)).mp ?_)
    rw [runLength, runLength]
    omega
  · rw [runLength_of_not_fits hf, run_zero, run_zero]

/-- A run goes on with its image. -/
theorem run_taken_prefix (h : d.Begins e) (off count : Nat) :
    run α d off (runLength α d off count) <+: run α e off (runLength α e off count) := by
  rw [← run_taken_of_begins h]
  exact run_prefix e off (runLength_le_of_begins h off count)

/-- A run that was not cut short stays what it was. -/
theorem run_taken_eq (h : d.Begins e) {count : Nat} (hc : count ≤ runLength α d off count) :
    run α e off (runLength α e off count) = run α d off (runLength α d off count) := by
  have hl := runLength_le_of_begins (α := α) h off count
  have hle : runLength α e off count ≤ count := Nat.min_le_left _ _
  have hx : runLength α e off count = runLength α d off count := by omega
  rw [hx, run_taken_of_begins h]

/-- A run that was complete is complete where the image goes on. -/
theorem readAll_of_begins (h : d.Begins e) {count : Nat} {rs : List α}
    (hx : readAll d off count = .ok rs) : readAll e off count = .ok rs := by
  rw [readAll, readRun_eq, runCut] at hx ⊢
  by_cases hc : runLength α d off count < count
  · rw [if_pos hc] at hx
    cases hx
  · have hl := runLength_le_of_begins (α := α) h off count
    rw [if_neg hc] at hx
    rw [if_neg (by omega), run_taken_eq h (Nat.not_lt.mp hc)]
    exact hx

end Record

/-! ## Names -/

/-- The name at an offset, or its length, runs past the end of the image. -/
def NameCut (d : Image) (rva : Nat) : Prop :=
  rva ≠ 0 ∧ (¬ d.Fits rva 4 ∨
    isNameLength (d.natAt rva 4) ∧ ¬ d.Fits (rva + 4) (d.natAt rva 4))

instance (d : Image) (rva : Nat) : Decidable (NameCut d rva) :=
  inferInstanceAs (Decidable (_ ∧ _))

/-- The second name is the first one, or supplies one that was not there. -/
def NameCompleted (x y : Option String) : Prop := x = none ∨ y = x

section Names
variable {d e : Image} {rva : Nat}

theorem nameAt_eq_none_of_cut (hc : NameCut d rva) : nameAt d rva = none := by
  obtain ⟨-, hf | ⟨-, hf⟩⟩ := hc
  · rw [nameAt, if_neg fun h => hf h.2]
  · rw [nameAt]
    split
    · exact if_neg fun h => hf h.2
    · rfl

theorem nameAt_of_not_cut (h : d.Begins e) (hc : ¬ NameCut d rva) :
    nameAt e rva = nameAt d rva := by
  by_cases h0 : rva = 0
  · rw [nameAt, nameAt, if_neg fun hx => hx.1 h0, if_neg fun hx => hx.1 h0]
  · have hf : d.Fits rva 4 := by
      by_contra hf
      exact hc ⟨h0, .inl hf⟩
    have hn := h.natAt hf
    have hf' := h.fits_of_fits hf
    by_cases hl : isNameLength (d.natAt rva 4)
    · have hb : d.Fits (rva + 4) (d.natAt rva 4) := by
        by_contra hb
        exact hc ⟨h0, .inr ⟨hl, hb⟩⟩
      have hb' := h.fits_of_fits hb
      simp [nameAt, hf, hf', hn, hl, hb, hb', (h.same hb).slice hb' hb]
    · simp [nameAt, hn, hl]

theorem nameAt_completed (h : d.Begins e) (rva : Nat) :
    NameCompleted (nameAt d rva) (nameAt e rva) := by
  by_cases hc : NameCut d rva
  · exact .inl (nameAt_eq_none_of_cut hc)
  · exact .inr (nameAt_of_not_cut h hc)

end Names

end CrashDump
