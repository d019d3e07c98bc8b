import CrashDump.Cursor.Basic
import CrashDump.Proofs.RecordRuns

/-! # Accesses of an open cursor

What a seek, a read, a record and a name give at a place of the image. A name leaves the
cursor where it was by every way out and depends on the image and its offset alone.
-/
namespace CrashDump

section Bind
variable {ε σ α β : Type} {x : EStateM ε σ α} {f : α → EStateM ε σ β} {s s' : σ}

theorem bind_ok {a : α} (h : x s = .ok a s') : (x >>= f) s = f a s' := by
  simp only [bind, EStateM.bind, h]

theorem bind_error {e : ε} (h : x s = .error e s') : (x >>= f) s = .error e s' := by
  simp only [bind, EStateM.bind, h]

end Bind

namespace Record

theorem toNat_readAt_uint32 (d : Image) (off : Nat) :
    (readAt d off : UInt32).toNat = d.natAt off 4 :=
  d.toNat_ofNat_natAt4 off

end Record

namespace Source

/-- Counts are refused from here on. -/
def limit (s : Source) : Nat := min s.countLimit s.roomLimit

theorem pageSize_lt_limit (s : Source) : pageSize < s.limit := by
  have hc : pageSize < Cursor.reach - 33 := by decide
  cases s with
  | memory => exact Nat.lt_of_lt_of_le hc (Nat.sub_le _ _)
  | file room => exact Nat.lt_min.mpr ⟨hc, room.page⟩

theorem refusal?_eq_none_iff {s : Source} {n : Nat} : s.refusal? n = none ↔ n < s.limit := by
  rw [refusal?, limit]
  split_ifs with hc hr
  · exact iff_of_false nofun (by omega)
  · exact iff_of_false nofun (by omega)
  · exact iff_of_true rfl (by omega)

theorem refusal?_of_page (s : Source) {n : Nat} (h : n ≤ pageSize) : s.refusal? n = none :=
  refusal?_eq_none_iff.mpr (Nat.lt_of_le_of_lt h s.pageSize_lt_limit)

theorem refusal?_eq_some {s : Source} {n : Nat} {f : Fault} (h : s.refusal? n = some f) :
    f = .tooMany ∨ f = .noRoom := by
  rw [refusal?] at h
  split_ifs at h
  · exact .inl (Option.some.inj h).symm
  · exact .inr (Option.some.inj h).symm

theorem refusal?_memory_of_le {n : Nat} (h : Cursor.reach ≤ n) :
    memory.refusal? n = some .tooMany := by
  rw [refusal?, countLimit, if_pos h]

theorem refusal?_memory_of_lt {n : Nat} (h : n < Cursor.reach) : memory.refusal? n = none :=
  refusal?_eq_none_iff.mpr h

end Source

namespace Cursor
variable {d : Image} {s : Source} {p : Nat}

theorem seek_eq {offset : Nat} (h : offset < reach) :
    seek offset ⟨d, some p, s⟩ = .ok () ⟨d, some offset, s⟩ := by
  have hr : ¬ ((offset : Int) < -(reach : Int) ∨ (reach : Int) ≤ offset) := by omega
  have hn : ¬ ((offset : Int) < 0) := by omega
  simp only [seek, if_neg hr, if_neg hn, Option.isNone_some, Bool.false_eq_true, if_false,
    Int.toNat_natCast]

theorem seek_of_le {offset : Nat} {c : Cursor} (h : reach ≤ offset) :
    seek offset c = .error .tooFar c := by
  rw [seek, if_pos (by omega)]

/-- To read no bytes any place will do, also one past the end. -/
theorem readExact_of_le {n : Nat} (hn : s.refusal? n = none) (h : n ≤ d.size - p) :
    readExact n ⟨d, some p, s⟩ = .ok (d.slice p n) ⟨d, some (p + n), s⟩ := by
  have hg : min n (d.size - p) = n := by omega
  have hc : ¬ ((n : Int) < 0) := by omega
  simp [readExact, hc, hn, hg]

theorem readExact_of_lt {n : Nat} (hn : s.refusal? n = none) (h : d.size - p < n) :
    readExact n ⟨d, some p, s⟩ =
      .error (.short ⟨p, n, d.size - p⟩) ⟨d, some (p + (d.size - p)), s⟩ := by
  have hg : min n (d.size - p) = d.size - p := by omega
  have hne : ¬ (d.size - p = n) := by omega
  have hc : ¬ ((n : Int) < 0) := by omega
  simp [readExact, hc, hn, hg, hne]

theorem readExact_of_refusal {n : Nat} {f : Fault} (hn : s.refusal? n = some f) :
    readExact n ⟨d, some p, s⟩ = .error f ⟨d, some p, s⟩ := by
  have hc : ¬ ((n : Int) < 0) := by omega
  simp [readExact, hc, hn]

section Records
variable {α : Type} [Record α] [Record.Readable α]

theorem readRecord_of_fits (h : d.Fits p (Record.size α)) :
    readRecord α ⟨d, some p, s⟩ =
      .ok (Record.readAt d p) ⟨d, some (p + Record.size α), s⟩ := by
  have hr := readExact_of_le (s.refusal?_of_page (Record.Readable.size_le (α := α)))
    (show Record.size α ≤ d.size - p by omega)
  simp only [readRecord, bind, EStateM.bind, hr, Record.readAt_slice h]
  rfl

theorem readRecord_of_not_fits (h : ¬ d.Fits p (Record.size α)) :
    readRecord α ⟨d, some p, s⟩ =
      .error (.short ⟨p, Record.size α, d.size - p⟩) ⟨d, some (p + (d.size - p)), s⟩ := by
  have hpos := Record.Readable.size_pos (α := α)
  have hr := readExact_of_lt (s.refusal?_of_page (Record.Readable.size_le (α := α)))
    (show d.size - p < Record.size α by omega)
  simp only [readRecord, bind, EStateM.bind, hr]

end Records

/-- What an access gives, with the cursor it leaves. -/
def result {α : Type} (c : Cursor) : Except Fault α → EStateM.Result Fault Cursor α
  | .ok a => .ok a c
  | .error f => .error f c

@[simp] theorem result_eq_ok_iff {α : Type} {c : Cursor} {r : Except Fault α} {a : α} :
    c.result r = .ok a c ↔ r = .ok a := by
  cases r <;> simp [result]

@[simp] theorem result_eq_error_iff {α : Type} {c : Cursor} {r : Except Fault α} {f : Fault} :
    c.result r = .error f c ↔ r = .error f := by
  cases r <;> simp [result]

/-- A saved block gives what its block gives and leaves the cursor where it was, wherever the
block left it. -/
theorem saved_eq {α : Type} {block : Access α} {q : Nat} {r : Except Fault α} (hp : p < reach)
    (h : block ⟨d, some p, s⟩ = result ⟨d, some q, s⟩ r) :
    saved block ⟨d, some p, s⟩ = result ⟨d, some p, s⟩ r := by
  cases r with
  | ok a => simp only [saved, h, result, seek_eq hp]
  | error f => simp only [saved, h, result, seek_eq hp]

/-- By whichever way the reading of a name ends, the cursor is open somewhere. -/
theorem nameHere_eq (rva : Nat) :
    ∃ q, nameHere ⟨d, some rva, s⟩ =
      .ok (if d.Fits rva 4 ∧ isNameLength (d.natAt rva 4) ∧ d.Fits (rva + 4) (d.natAt rva 4)
        then some (asciiOfUtf16 (d.slice (rva + 4) (d.natAt rva 4)).bytes) else none)
        ⟨d, some q, s⟩ := by
  by_cases h4 : d.Fits rva 4
  · have hr := readRecord_of_fits (s := s) (α := UInt32) h4
    have hn := Record.toNat_readAt_uint32 d rva
    by_cases hl : isNameLength (d.natAt rva 4)
    · have hlt : 0 < d.natAt rva 4 ∧ d.natAt rva 4 < nameLimit := by
        simpa [isNameLength] using hl
      have hroom : d.natAt rva 4 ≤ pageSize := Nat.le_trans (Nat.le_of_lt hlt.2) (by decide)
      by_cases hb : d.Fits (rva + 4) (d.natAt rva 4)
      · have hx := readExact_of_le (s.refusal?_of_page hroom)
          (show d.natAt rva 4 ≤ d.size - (rva + 4) by omega)
        refine ⟨rva + 4 + d.natAt rva 4, ?_⟩
        simp [nameHere, orNone, bind, EStateM.bind, hr, hn, hl, hx, h4, hb, pure, EStateM.pure]
      · have hx := readExact_of_lt (s.refusal?_of_page hroom)
          (show d.size - (rva + 4) < d.natAt rva 4 by omega)
        refine ⟨rva + 4 + (d.size - (rva + 4)), ?_⟩
        simp [nameHere, orNone, bind, EStateM.bind, hr, hn, hl, hx, hb]
    · refine ⟨rva + 4, ?_⟩
      simp [nameHere, orNone, bind, EStateM.bind, hr, hn, hl, pure, EStateM.pure]
  · have hr := readRecord_of_not_fits (s := s) (α := UInt32) h4
    refine ⟨rva + (d.size - rva), ?_⟩
    simp [nameHere, orNone, bind, EStateM.bind, hr, h4]

/-- Reading a name gives what stands in the image at its offset and does not move the cursor. -/
theorem readName_eq (hp : p < reach) {rva : Nat} (hr : rva < reach) :
    readName rva ⟨d, some p, s⟩ = .ok (nameAt d rva) ⟨d, some p, s⟩ := by
  by_cases h0 : rva = 0
  · subst h0
    rfl
  · have hne : ¬ ((rva : Int) = 0) := by omega
    obtain ⟨q, hq⟩ := nameHere_eq (d := d) (s := s) rva
    have hb : (do seek rva; nameHere) ⟨d, some p, s⟩ = nameHere ⟨d, some rva, s⟩ := by
      simp only [bind, EStateM.bind, seek_eq hr]
    have hv : nameAt d rva =
        if d.Fits rva 4 ∧ isNameLength (d.natAt rva 4) ∧ d.Fits (rva + 4) (d.natAt rva 4)
        then some (asciiOfUtf16 (d.slice (rva + 4) (d.natAt rva 4)).bytes) else none := by
      simp only [nameAt]
      split <;> split <;> simp_all
    rw [readName, if_neg hne, hv]
    exact saved_eq (r := .ok _) hp (hb.trans hq)

end Cursor

end CrashDump
