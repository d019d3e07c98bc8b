import CrashDump.Proofs.HeldBytes

/-! # Written names

A text is written as its length in bytes and its UTF-16 units. Reading it back keeps the ASCII
characters other than NUL, since no unit of any other character is in their range, and gives
nothing for a text whose length does not pass for that of a name.
-/
namespace CrashDump

/-- One unit, or two surrogates. -/
def charUnits (c : Char) : List Nat :=
  if c.toNat < 0x10000 then [c.toNat]
  else [0xD800 + (c.toNat - 0x10000) / 0x400, 0xDC00 + (c.toNat - 0x10000) % 0x400]

def textBytes (s : String) : List UInt8 := (s.toList.flatMap charUnits).flatMap (bytesOfNat 2)

def writeName (s : String) : List UInt8 := bytesOfNat 4 (textBytes s).length ++ textBytes s

def isNameChar (c : Char) : Bool := 0 < c.toNat && c.toNat < 128

/-- What is read back of a written text. -/
def keptName (s : String) : Option String :=
  if isNameLength (textBytes s).length then some (String.ofList (s.toList.filter isNameChar))
  else none

theorem charUnits_lt (c : Char) : ∀ u ∈ charUnits c, u < 0x10000 := by
  intro u hu
  have hc : c.toNat < 0x110000 := by
    have hv := c.valid
    simp only [UInt32.isValidChar, Nat.isValidChar] at hv
    rw [Char.toNat]
    omega
  rw [charUnits] at hu
  split at hu
  · rw [List.mem_singleton.mp hu]
    assumption
  · simp only [List.mem_cons, List.not_mem_nil, or_false] at hu
    omega

theorem utf16Units_flatMap {us : List Nat} (h : ∀ u ∈ us, u < 0x10000) :
    utf16Units (us.flatMap (bytesOfNat 2)) = us := by
  induction us with
  | nil => rfl
  | cons u us ih =>
    have hu := h u List.mem_cons_self
    change utf16Units (UInt8.ofNat u :: UInt8.ofNat (u / 256) :: us.flatMap (bytesOfNat 2)) = _
    rw [utf16Units, ih fun v hv => h v (List.mem_cons_of_mem u hv), UInt8.toNat_ofNat',
      UInt8.toNat_ofNat']
    congr 1
    omega

theorem utf16Units_textBytes (s : String) :
    utf16Units (textBytes s) = s.toList.flatMap charUnits := by
  refine utf16Units_flatMap ?_
  intro u hu
  obtain ⟨c, -, hc⟩ := List.mem_flatMap.mp hu
  exact charUnits_lt c u hc

theorem filter_charUnits (c : Char) :
    ((charUnits c).filter fun u => 0 < u && u < 128).map Char.ofNat =
      [c].filter isNameChar := by
  rw [charUnits]
  split
  · by_cases h : isNameChar c
    · rw [List.filter_cons_of_pos h, List.filter_cons_of_pos (by simpa [isNameChar] using h)]
      simp
    · rw [List.filter_cons_of_neg h, List.filter_cons_of_neg (by simpa [isNameChar] using h)]
      rfl
  · have hk : ¬ isNameChar c := by
      simp only [isNameChar, Bool.and_eq_true, decide_eq_true_eq]
      omega
    rw [List.filter_cons_of_neg hk, List.filter_cons_of_neg (by simp; omega),
      List.filter_cons_of_neg (by simp; omega)]
    rfl

theorem asciiOfUtf16_textBytes (s : String) :
    asciiOfUtf16 (textBytes s) = String.ofList (s.toList.filter isNameChar) := by
  rw [asciiOfUtf16, utf16Units_textBytes]
  congr 1
  induction s.toList with
  | nil => rfl
  | cons c cs ih =>
    rw [List.flatMap_cons, List.filter_append, List.map_append, ih, filter_charUnits,
      ← List.filter_append, List.singleton_append]

theorem nameAt_of_holds {d : Image} {rva : Nat} {s : String} (h : d.Holds rva (writeName s))
    (h0 : rva ≠ 0) (hs : d.size < 2 ^ 32) : nameAt d rva = keptName s := by
  have ht := h.right
  rw [length_bytesOfNat] at ht
  have hl := h.left.fits
  have hr := ht.fits
  rw [length_bytesOfNat] at hl
  have hn : d.natAt rva 4 = (textBytes s).length := h.left.natAt (by omega)
  rw [nameAt, if_pos ⟨h0, hl⟩]
  simp only [hn, keptName]
  by_cases hk : isNameLength (textBytes s).length
  · rw [if_pos ⟨hk, hr⟩, if_pos hk, ht.slice, asciiOfUtf16_textBytes]
  · rw [if_neg fun hp => hk hp.1, if_neg hk]

end CrashDump
