import CrashDump.Proofs.DumpBounds
import CrashDump.Proofs.WrittenNames

/-! # Stored names

A name is read where its length passes for that of one and all its bytes are there, and nowhere
else. However the reading ends, the cursor is back in its place. Of the text of a name the ASCII
characters other than NUL are kept: no unit of another character passes for one, and a text that is
cut between two units is read part by part.
-/
namespace CrashDump

/-! ## Kept characters -/

section Texts
variable {xs : List UInt8}

theorem utf16Units_append (h : xs.length % 2 = 0) (ys : List UInt8) :
    utf16Units (xs ++ ys) = utf16Units xs ++ utf16Units ys := by
  fun_induction utf16Units xs with
  | case1 low high rest ih =>
    have hr : rest.length % 2 = 0 := by
      rw [List.length_cons, List.length_cons] at h
      omega
    rw [List.cons_append, List.cons_append, utf16Units, ih hr, List.cons_append]
  | case2 xs hx =>
    rcases xs with _ | ⟨b, _ | ⟨b', rest⟩⟩
    · rfl
    · cases h
    · exact absurd rfl (hx b b' rest)

theorem asciiOfUtf16_append (h : xs.length % 2 = 0) (ys : List UInt8) :
    asciiOfUtf16 (xs ++ ys) = asciiOfUtf16 xs ++ asciiOfUtf16 ys := by
  rw [asciiOfUtf16, utf16Units_append h, List.filter_append, List.map_append, String.ofList_append]
  rfl

theorem length_textBytes (s : String) : (textBytes s).length % 2 = 0 := by
  rw [textBytes, length_flatMap_of_length fun u => length_bytesOfNat 2 u]
  exact Nat.mul_mod_right 2 _

theorem asciiOfUtf16_textBytes_asciiOfUtf16 (xs : List UInt8) :
    asciiOfUtf16 (textBytes (asciiOfUtf16 xs)) = asciiOfUtf16 xs := by
  have hk : ∀ c ∈ (asciiOfUtf16 xs).toList, isNameChar c = true := by
    intro c hc
    have hb := isAscii_of_mem_asciiOfUtf16 hc
    simp only [isNameChar, Bool.and_eq_true, decide_eq_true_eq]
    omega
  rw [asciiOfUtf16_textBytes, List.filter_eq_self.mpr hk, String.ofList_toList]

/-- Decoding is a filter of characters. A byte left over does no harm, texts are decoded part by
part, and what was decoded once is not decoded further. -/
theorem asciiOfUtf16_filters :
    (∀ s : String,
      let kept := String.ofList (s.toList.filter fun c => 1 ≤ c.toNat ∧ c.toNat ≤ 127)
      asciiOfUtf16 (textBytes s) = kept ∧ ∀ b, asciiOfUtf16 (textBytes s ++ [b]) = kept) ∧
    (∀ xs ys : List UInt8, xs.length % 2 = 0 →
      asciiOfUtf16 (xs ++ ys) = asciiOfUtf16 xs ++ asciiOfUtf16 ys) ∧
    ∀ xs : List UInt8, asciiOfUtf16 (textBytes (asciiOfUtf16 xs)) = asciiOfUtf16 xs := by
  refine ⟨?_, fun xs ys h => asciiOfUtf16_append h ys, asciiOfUtf16_textBytes_asciiOfUtf16⟩
  intro s kept
  have hp : isNameChar = fun c : Char => decide (1 ≤ c.toNat ∧ c.toNat ≤ 127) := by
    funext c
    apply Bool.eq_iff_iff.mpr
    simp only [isNameChar, Bool.and_eq_true, decide_eq_true_eq]
    omega
  have hs : asciiOfUtf16 (textBytes s) = kept := by rw [asciiOfUtf16_textBytes, hp]
  refine ⟨hs, fun b => ?_⟩
  have hb : asciiOfUtf16 [b] = "" := rfl
  rw [asciiOfUtf16_append (length_textBytes s), hs, hb, String.append_empty]

theorem smiley_filtered :
    let xs := textBytes (String.ofList ['a', Char.ofNat 0x1F600])
    xs.length % 2 = 0 ∧
      asciiOfUtf16 (xs ++ [98, 0, 99]) = asciiOfUtf16 xs ++ asciiOfUtf16 [98, 0, 99] ∧
      asciiOfUtf16 (xs ++ [98, 0, 99]) = "ab" :=
  ⟨by decide, asciiOfUtf16_filters.2.1 _ _ (by decide), by decide⟩

end Texts

/-! ## Names in an image -/

/-- A name stands at an offset that is not zero: the length of its text, which passes for that of
a name, and then all of the text. -/
structure NameStands (d : Image) (rva : Int) (s : String) : Prop where
  offset : 0 < rva
  head : rva + 4 ≤ d.size
  length : 0 < d.natAt rva.toNat 4 ∧ d.natAt rva.toNat 4 < 2048
  whole : rva + 4 + d.natAt rva.toNat 4 ≤ d.size
  text : s = asciiOfUtf16 (d.slice (rva.toNat + 4) (d.natAt rva.toNat 4)).bytes

theorem nameAt_eq_some_iff {d : Image} {rva : Nat} {s : String} :
    nameAt d rva = some s ↔ NameStands d rva s := by
  have hl : isNameLength (d.natAt rva 4) = true ↔ 0 < d.natAt rva 4 ∧ d.natAt rva 4 < 2048 := by
    simp only [isNameLength, Bool.and_eq_true, decide_eq_true_eq]
    exact Iff.rfl
  simp only [nameAt]
  constructor
  · intro h
    split_ifs at h with h4 hn
    have hn' := hl.mp hn.1
    refine ⟨by omega, by omega, hn', ?_, (Option.some.inj h).symm⟩
    rw [Int.toNat_natCast]
    omega
  · rintro ⟨h0, h4, hn, hw, rfl⟩
    rw [Int.toNat_natCast] at hn hw
    rw [if_pos ⟨by omega, by omega⟩, if_pos ⟨hl.mpr hn, by omega⟩]
    rfl

namespace Cursor
variable {d : Image} {p : Nat}

structure ReadsName (d : Image) (rva : Int) (r : Except Fault (Option String)) : Prop where
  named : ∀ s, r = .ok (some s) ↔ NameStands d rva s
  nameless : r = .ok none ↔ (0 ≤ rva ∧ rva < reach) ∧ ∀ s, ¬ NameStands d rva s
  negative : r = .error .negativeSeek ↔ -(reach : Int) ≤ rva ∧ rva < 0
  tooFar : r = .error .tooFar ↔ rva < -(reach : Int) ∨ reach ≤ rva

theorem lt_reach_of_nameStands {rva : Int} {s : String} (hd : d.size < reach)
    (h : NameStands d rva s) : 0 ≤ rva ∧ rva < reach := by
  have h0 := h.offset
  have h4 := h.head
  omega

theorem readsName_nameAt {rva : Nat} (hr : rva < reach) :
    ReadsName d rva (.ok (nameAt d rva)) := by
  constructor
  case named =>
    intro s
    rw [Except.ok.injEq, nameAt_eq_some_iff]
  case nameless =>
    have hn : (∀ s, ¬ NameStands d rva s) ↔ nameAt d rva = none := by
      simp only [← nameAt_eq_some_iff, Option.eq_none_iff_forall_ne_some]
    rw [Except.ok.injEq, hn]
    exact ⟨fun h => ⟨by omega, h⟩, fun h => h.2⟩
  case negative => exact iff_of_false nofun (by omega)
  case tooFar => exact iff_of_false nofun (by omega)

theorem readsName_of_fault {rva : Int} {f : Fault} (hd : d.size < reach)
    (h : f = .tooFar ∧ (rva < -(reach : Int) ∨ reach ≤ rva) ∨
      f = .negativeSeek ∧ -(reach : Int) ≤ rva ∧ rva < 0) : ReadsName d rva (.error f) := by
  constructor
  case named =>
    intro s
    refine iff_of_false nofun fun hs => ?_
    have hr := lt_reach_of_nameStands hd hs
    omega
  case nameless =>
    refine iff_of_false nofun fun hr => ?_
    omega
  case negative =>
    rcases h with ⟨rfl, h⟩ | ⟨rfl, h⟩
    · exact iff_of_false nofun (by omega)
    · exact iff_of_true rfl h
  case tooFar =>
    rcases h with ⟨rfl, h⟩ | ⟨rfl, h⟩
    · exact iff_of_true rfl h
    · exact iff_of_false nofun (by omega)

theorem readName_of_seek {rva : Int} {f : Fault} (hp : p < reach) (h0 : rva ≠ 0)
    (h : seek rva ⟨d, some p, .memory⟩ = .error f ⟨d, some p, .memory⟩) :
    readName rva ⟨d, some p, .memory⟩ = result ⟨d, some p, .memory⟩ (.error f) := by
  rw [readName, if_neg h0]
  exact saved_eq hp (bind_error h)

/-- The name at any offset is read as it stands, it is missing, or the offset is refused. In every
case the cursor stays in its place, also past the end of the image. -/
theorem readName_outcome (hd : d.size < reach) (hp : p < reach) (rva : Int) :
    ∃ r, readName rva ⟨d, some p, .memory⟩ = result ⟨d, some p, .memory⟩ r ∧
      ReadsName d rva r := by
  -- a position out of reach is refused as such before its sign is looked at
  by_cases hfar : rva < -(reach : Int) ∨ reach ≤ rva
  · have h0 : rva ≠ 0 := by
      rintro rfl
      exact absurd hfar (by decide)
    exact ⟨_, readName_of_seek hp h0 (if_pos hfar), readsName_of_fault hd (.inl ⟨rfl, hfar⟩)⟩
  · by_cases hneg : rva < 0
    · have hs : seek rva ⟨d, some p, .memory⟩ = .error .negativeSeek ⟨d, some p, .memory⟩ := by
        simp only [seek, if_neg hfar, Option.isNone_some, Bool.false_eq_true, if_false, if_pos hneg]
      exact ⟨_, readName_of_seek hp (by omega) hs,
        readsName_of_fault hd (.inr ⟨rfl, by omega, hneg⟩)⟩
    · obtain ⟨off, rfl⟩ := Int.eq_ofNat_of_zero_le (Int.not_lt.mp hneg)
      have hr : off < reach := by omega
      exact ⟨_, readName_eq hp hr, readsName_nameAt hr⟩

def namedImage : Image := ⟨([0, 0, 0, 0] ++ writeName "Hi").toArray⟩

/-- A name that ends with the image, read from past the end. -/
theorem namedImage_readName : namedImage.size < reach ∧ 100 < reach ∧
    NameStands namedImage 4 "Hi" ∧
    ∃ r, readName 4 ⟨namedImage, some 100, .memory⟩ =
        result ⟨namedImage, some 100, .memory⟩ r ∧
      ReadsName namedImage 4 r ∧ r = .ok (some "Hi") := by
  have hs : NameStands namedImage 4 "Hi" :=
    ⟨by decide, by decide, by decide, by decide, by decide⟩
  obtain ⟨r, hr, hx⟩ := readName_outcome (d := namedImage) (p := 100) (by decide) (by decide) 4
  exact ⟨by decide, by decide, hs, r, hr, hx, (hx.named _).mpr hs⟩

/-- An offset may be too far below zero to be refused as negative. -/
theorem readName_farBelow : namedImage.size < reach ∧ 5 < reach ∧
    readName (-0x8000000000000001) ⟨namedImage, some 5, .memory⟩ =
      .error .tooFar ⟨namedImage, some 5, .memory⟩ ∧
    readName (-0x8000000000000001) ⟨namedImage, some 5, .memory⟩ ≠
      .error .negativeSeek ⟨namedImage, some 5, .memory⟩ :=
  ⟨by decide, by decide, rfl, nofun⟩

end Cursor

end CrashDump
