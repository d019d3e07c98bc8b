import CrashDump.Proofs.OneImage
import CrashDump.Proofs.SavedBlocks

/-! # Joined reads

A read passes over all of its bytes or stops at the end of the image. So two reads one after the
other come to the read of both counts at once: they give the same bytes, fail together and leave
the cursor at the same place.
-/
namespace CrashDump.Cursor
variable {d : Image} {p n k : Nat} {c c' : Cursor} {b : Image}

theorem readExact_memory (h : n < reach) : readExact n ⟨d, some p, .memory⟩ =
    if n ≤ d.size - p then .ok (d.slice p n) ⟨d, some (p + n), .memory⟩
    else .error (.short ⟨p, n, d.size - p⟩) ⟨d, some (max p d.size), .memory⟩ := by
  have hs := Source.refusal?_memory_of_lt h
  split_ifs with hn
  · exact readExact_of_le hs hn
  · have hp : p + (d.size - p) = max p d.size := by omega
    rw [readExact_of_lt hs (Nat.lt_of_not_le hn), hp]

theorem size_of_readExact {count : Int} (h : readExact count c = .ok b c') :
    (b.size : Int) = count := by
  obtain ⟨d, place, s⟩ := c
  unfold readExact at h
  split_ifs at h with hneg
  cases place with
  | none => cases h
  | some p =>
    obtain ⟨n, rfl⟩ := Int.eq_ofNat_of_zero_le (Int.not_lt.mp hneg)
    dsimp only at h
    cases hr : s.refusal? n with
    | some f =>
      simp only [Int.toNat_natCast, hr] at h
      cases h
    | none =>
      simp only [Int.toNat_natCast, hr] at h
      split_ifs at h with hgot
      cases h
      rw [Image.slice, ByteArray.size_extract]
      omega

def readTwice (n k : Int) : Access Image := do
  let b ← readExact n
  let b' ← readExact k
  return b ++ b'

theorem readTwice_eq_ok_iff {i j : Int} : readTwice i j c = .ok b c' ↔
    ∃ b₁ b₂ c₁, readExact i c = .ok b₁ c₁ ∧ readExact j c₁ = .ok b₂ c' ∧ b₁ ++ b₂ = b := by
  constructor
  · intro h
    cases h₁ : readExact i c with
    | error f c₁ =>
      rw [readTwice, bind_error h₁] at h
      cases h
    | ok b₁ c₁ =>
      cases h₂ : readExact j c₁ with
      | error f c₂ =>
        rw [readTwice, bind_ok h₁, bind_error h₂] at h
        cases h
      | ok b₂ c₂ =>
        rw [readTwice, bind_ok h₁, bind_ok h₂] at h
        cases h
        exact ⟨b₁, b₂, c₁, rfl, h₂, rfl⟩
  · rintro ⟨b₁, b₂, c₁, h₁, h₂, rfl⟩
    rw [readTwice, bind_ok h₁, bind_ok h₂]
    rfl

/-- The first count decides which of two reads is short, and nothing else. -/
theorem readTwice_memory (h : n + k < reach) : readTwice n k ⟨d, some p, .memory⟩ =
    if n + k ≤ d.size - p then .ok (d.slice p (n + k)) ⟨d, some (p + (n + k)), .memory⟩
    else .error (.short (if n ≤ d.size - p then ⟨p + n, k, d.size - (p + n)⟩
      else ⟨p, n, d.size - p⟩)) ⟨d, some (max p d.size), .memory⟩ := by
  have hn := readExact_memory (d := d) (p := p) (n := n) (by omega)
  have hk := readExact_memory (d := d) (p := p + n) (n := k) (by omega)
  by_cases hle : n ≤ d.size - p
  · rw [if_pos hle] at hn
    rw [if_pos hle]
    by_cases hboth : n + k ≤ d.size - p
    · rw [if_pos (by omega)] at hk
      rw [if_pos hboth, readTwice_eq_ok_iff]
      refine ⟨_, _, _, hn, ?_, d.slice_append_slice p n k⟩
      rw [hk, Nat.add_assoc]
    · have hend : max (p + n) d.size = max p d.size := by omega
      rw [if_neg (by omega), hend] at hk
      rw [if_neg hboth, readTwice, bind_ok hn, bind_error hk]
  · rw [if_neg hle] at hn
    rw [if_neg hle, if_neg (by omega), readTwice, bind_error hn]

theorem runScript_cons (c : Cursor) (s : Step) (steps : List Step) :
    (runScript c (s :: steps)).2 = (runScript (s.run c).2 steps).2 := rfl

/-- A script goes on behind the bytes that a read passed over, all that it was asked for or not. -/
theorem runScript_read (h : n < reach) (steps : List Step) :
    (runScript ⟨d, some p, .memory⟩ (.read n :: steps)).2 =
      (runScript ⟨d, some (max p (min (p + n) d.size)), .memory⟩ steps).2 := by
  have hrun : ((Step.read n).run ⟨d, some p, .memory⟩).2 =
      ⟨d, some (max p (min (p + n) d.size)), .memory⟩ := by
    have hn := readExact_memory (d := d) (p := p) h
    rw [Step.run, traceOf]
    by_cases hle : n ≤ d.size - p
    · have hp : p + n = max p (min (p + n) d.size) := by omega
      rw [if_pos hle, hp] at hn
      rw [bind_ok hn]
      rfl
    · have hp : max p d.size = max p (min (p + n) d.size) := by omega
      rw [if_neg hle, hp] at hn
      rw [bind_error hn]
  rw [runScript_cons, hrun]

structure ReadsJoined (d : Image) (p n k : Nat) : Prop where
  joined : ∀ b c', readExact (n + k : Nat) ⟨d, some p, .memory⟩ = .ok b c' ↔
    ∃ b₁ b₂ c₁, readExact n ⟨d, some p, .memory⟩ = .ok b₁ c₁ ∧
      readExact k c₁ = .ok b₂ c' ∧ b₁ ++ b₂ = b
  passed : ∀ b c', readExact (n + k : Nat) ⟨d, some p, .memory⟩ = .ok b c' →
    c' = ⟨d, some (p + n + k), .memory⟩
  short : ∀ f c', readExact (n + k : Nat) ⟨d, some p, .memory⟩ = .error f c' →
    f = .short ⟨p, n + k, d.size - p⟩ ∧ d.size - p < n + k ∧
      c' = ⟨d, some (max p d.size), .memory⟩ ∧
      ∃ f', readTwice n k ⟨d, some p, .memory⟩ = .error f' c'
  tried : (runScript ⟨d, some p, .memory⟩ [.read n, .read k]).2 =
    (runScript ⟨d, some p, .memory⟩ [.read (n + k : Nat)]).2

/-- Reads from memory are joined without a trace. From any source, a read gives as many bytes as it
was asked for. -/
theorem readExact_joined :
    (∀ (d : Image) (p n k : Nat), n + k < reach → ReadsJoined d p n k) ∧
      ∀ (c : Cursor) (count : Int) b c', readExact count c = .ok b c' → (b.size : Int) = count := by
  refine ⟨fun d p n k h => ?_, fun c count b c' => size_of_readExact⟩
  have hone := readExact_memory (d := d) (p := p) h
  have htwo := readTwice_memory (d := d) (p := p) h
  have htried : (runScript ⟨d, some p, .memory⟩ [.read n, .read k]).2 =
      (runScript ⟨d, some p, .memory⟩ [.read (n + k : Nat)]).2 := by
    rw [runScript_read (by omega), runScript_read (by omega), runScript_read h]
    congr 4
    omega
  by_cases hle : n + k ≤ d.size - p
  · rw [if_pos hle] at hone htwo
    constructor
    case joined =>
      intro b c'
      rw [← readTwice_eq_ok_iff, hone, htwo]
    case passed =>
      intro b c' hb
      rw [hone] at hb
      cases hb
      rw [Nat.add_assoc]
    case short =>
      intro f c' hf
      cases hone.symm.trans hf
    case tried => exact htried
  · rw [if_neg hle] at hone htwo
    constructor
    case joined =>
      intro b c'
      rw [← readTwice_eq_ok_iff, hone, htwo]
      exact iff_of_false nofun nofun
    case passed =>
      intro b c' hb
      cases hone.symm.trans hb
    case short =>
      intro f c' hf
      rw [hone] at hf
      cases hf
      exact ⟨rfl, Nat.lt_of_not_le hle, rfl, _, htwo⟩
    case tried => exact htried

theorem fourBytes_joined : 2 + 1 < reach ∧ 2 + 2 < reach ∧ 0 + 1 < reach ∧
    ReadsJoined fourBytes 1 2 1 ∧ ReadsJoined fourBytes 1 2 2 ∧ ReadsJoined fourBytes 9 0 1 ∧
    (∃ b, readExact 3 ⟨fourBytes, some 1, .memory⟩ = .ok b ⟨fourBytes, some 4, .memory⟩ ∧
      b.bytes = [66, 67, 68] ∧ (b.size : Int) = 3) ∧
    readExact 4 ⟨fourBytes, some 1, .memory⟩ =
      .error (.short ⟨1, 4, 3⟩) ⟨fourBytes, some 4, .memory⟩ := by
  obtain ⟨hjoined, hsize⟩ := readExact_joined
  have hread : readExact 3 ⟨fourBytes, some 1, .memory⟩ =
      .ok (fourBytes.slice 1 3) ⟨fourBytes, some 4, .memory⟩ := rfl
  exact ⟨by decide, by decide, by decide, hjoined _ _ _ _ (by decide), hjoined _ _ _ _ (by decide),
    hjoined _ _ _ _ (by decide), ⟨_, hread, rfl, hsize _ _ _ _ hread⟩, rfl⟩

end CrashDump.Cursor
