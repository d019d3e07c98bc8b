import CrashDump.Proofs.HeldBytes
import CrashDump.Proofs.Literals
import CrashDump.Text.Hex
import Mathlib.Algebra.BigOperators.Ring.List

/-! # Numbers in hexadecimal

A number as wide as some bytes is written with two digits for each of them, the last byte first, so
that nothing of the bytes is lost. Any integer written with its base mark is a literal of itself.
-/
namespace CrashDump

/-! ## Numbers and their bytes -/

theorem natOfBytes_lt (bs : List UInt8) : natOfBytes bs < 256 ^ bs.length := by
  induction bs with
  | nil => exact Nat.one_pos
  | cons b bs ih =>
    have hb := b.toNat_lt
    rw [natOfBytes, List.length_cons, Nat.pow_succ]
    omega

theorem bytesOfNat_natOfBytes (bs : List UInt8) : bytesOfNat bs.length (natOfBytes bs) = bs := by
  induction bs with
  | nil => rfl
  | cons b bs ih => rw [List.length_cons, natOfBytes, bytesOfNat_cons, ih]

/-- Each byte counts by its place. -/
theorem natOfBytes_eq_sum (bs : List UInt8) : natOfBytes bs =
    ((List.range bs.length).map fun i => (bs.getD i 0).toNat * 256 ^ i).sum := by
  induction bs with
  | nil => rfl
  | cons b bs ih =>
    have hstep : ((List.range bs.length).map fun i => ((b :: bs).getD (i + 1) 0).toNat *
        256 ^ (i + 1)).sum = 256 * natOfBytes bs := by
      rw [ih, ← List.sum_map_mul_left]
      apply congrArg List.sum
      apply List.map_congr_left
      intro i _
      rw [List.getD_cons_succ, Nat.pow_succ]
      ac_rfl
    rw [List.length_cons, List.range_succ_eq_map, List.map_cons, List.sum_cons, List.map_map,
      natOfBytes, ← hstep, Nat.pow_zero, Nat.mul_one]
    rfl

namespace Hex

/-- The last digits of a number, as many as are asked for. -/
def digits : (width : Nat) → Nat → List Char
  | 0, _ => []
  | width + 1, n => digits width (n / 16) ++ [Nat.digitChar (n % 16)]

theorem digits_zero (width : Nat) : digits width 0 = List.replicate width '0' := by
  induction width with
  | zero => rfl
  | succ width ih => rw [digits, Nat.zero_div, ih, List.replicate_succ']; rfl

/-- Zeros fill up the digits of a number to those of its width. The width is not zero, since zero
itself is written with one digit. -/
theorem replicate_append_toDigits {width n : Nat} (hw : 0 < width) (h : n < 16 ^ width) :
    List.replicate (width - (Nat.toDigits 16 n).length) '0' ++ Nat.toDigits 16 n =
      digits width n := by
  induction width generalizing n with
  | zero => exact absurd hw (Nat.lt_irrefl 0)
  | succ width ih =>
    rw [digits]
    by_cases hn : n < 16
    · rw [Nat.toDigits_of_lt_base hn, List.length_singleton, Nat.add_sub_cancel,
        Nat.div_eq_of_lt hn, Nat.mod_eq_of_lt hn, digits_zero]
    · have hn := Nat.not_lt.mp hn
      have hq : n / 16 < 16 ^ width := by
        rw [Nat.pow_succ] at h
        omega
      have hpos : 0 < width := by
        by_contra h0
        obtain rfl : width = 0 := by omega
        omega
      rw [Nat.toDigits_of_base_le (by decide) hn, List.length_append, List.length_singleton,
        Nat.add_sub_add_right, ← List.append_assoc, ih hpos hq]

theorem padded_eq_digits {width n : Nat} (hw : 0 < width) (h : n < 16 ^ width) :
    padded n width = digits width n := by
  have hn : ¬ (n : Int) < 0 := by omega
  rw [padded, if_neg hn, Int.natAbs_natCast, replicate_append_toDigits hw h]

theorem numeral_padded (width n : Nat) :
    Numeral 16 (max width (Nat.log 16 n + 1)) n (padded n width) := by
  have hn : ¬ (n : Int) < 0 := by omega
  rw [padded, if_neg hn, Int.natAbs_natCast]
  exact Numeral.filled (by decide) width n

theorem numeral_padded_of_lt {width n : Nat} (hw : 0 < width) (h : n < 16 ^ width) :
    Numeral 16 width n (padded n width) := by
  have hn : ¬ (n : Int) < 0 := by omega
  rw [padded, if_neg hn, Int.natAbs_natCast]
  exact Numeral.filled_of_lt (by decide) hw h

theorem numeral_byte (b : UInt8) : Numeral 16 2 b.toNat (byte b) := by
  have hb := b.toNat_lt
  refine ⟨[b.toNat / 16, b.toNat % 16], rfl, rfl, ?_, ?_⟩
  · simp only [List.mem_cons, List.not_mem_nil, or_false, forall_eq_or_imp, forall_eq]
    omega
  · rw [List.reverse_cons, List.reverse_singleton, List.singleton_append, Nat.ofDigits_cons,
      Nat.ofDigits_singleton]
    exact Nat.mod_add_div b.toNat 16

/-- Each byte has two digits of its own. -/
theorem digits_natOfBytes (bs : List UInt8) :
    digits (2 * bs.length) (natOfBytes bs) = bs.reverse.flatMap byte := by
  -- the first byte is the lowest, and its two digits are the last ones
  induction bs with
  | nil => rfl
  | cons b bs ih =>
    have hb := b.toNat_lt
    have h0 : (b.toNat + 256 * natOfBytes bs) % 16 = b.toNat % 16 := by omega
    have h1 : (b.toNat + 256 * natOfBytes bs) / 16 % 16 = b.toNat / 16 := by omega
    have h2 : (b.toNat + 256 * natOfBytes bs) / 16 / 16 = natOfBytes bs := by omega
    rw [List.length_cons, Nat.mul_succ, natOfBytes, digits, digits, h0, h1, h2, ih,
      List.reverse_cons, List.flatMap_append, List.append_assoc, List.flatMap_singleton, byte]
    rfl

theorem length_flatMap_byte (bs : List UInt8) : (bs.flatMap byte).length = 2 * bs.length := by
  induction bs with
  | nil => rfl
  | cons b bs ih =>
    rw [List.flatMap_cons, List.length_append, ih, List.length_cons, Nat.mul_succ, Nat.add_comm]
    rfl

/-- The digits in lower case. -/
def lowerDigits : List Char :=
  ['0', '1', '2', '3', '4', '5', '6', '7', '8', '9', 'a', 'b', 'c', 'd', 'e', 'f']

theorem digitChar_mem : ∀ n < 16, Nat.digitChar n ∈ lowerDigits := by decide

theorem mem_byte {b : UInt8} {c : Char} (h : c ∈ byte b) : c ∈ lowerDigits := by
  have hb := b.toNat_lt
  simp only [byte, List.mem_cons, List.not_mem_nil, or_false] at h
  rcases h with rfl | rfl
  · exact digitChar_mem _ (by omega)
  · exact digitChar_mem _ (by omega)

theorem wide_natOfBytes {bs : List UInt8} (h : bs ≠ []) :
    wide (natOfBytes bs) (2 * bs.length) =
      String.ofList ('0' :: 'x' :: bs.reverse.flatMap byte) := by
  have hl := List.length_pos_iff.mpr h
  have hlt : natOfBytes bs < 16 ^ (2 * bs.length) := by
    rw [Nat.pow_mul]
    exact natOfBytes_lt bs
  rw [wide, padded_eq_digits (by omega) hlt, digits_natOfBytes]

end Hex

/-! ## Widths -/

section Widths
variable {room : Room} {n : Nat}

theorem fieldWidth_of_limit_le (h : 2 ^ 63 ≤ n) : fieldWidth room n = .error .invalid :=
  if_pos (.inr (Int.ofNat_le.mpr h))

theorem fieldWidth_of_lt_limit (h : n < 2 ^ 63) :
    fieldWidth room n = if room.limit ≤ n then .error .noRoom else .ok n := by
  have hlimit : ¬ ((n : Int) < 0 ∨ (widthLimit : Int) ≤ n) := by
    rintro (h0 | hl)
    · omega
    · exact absurd (Int.ofNat_le.mp hl) (Nat.not_le.mpr h)
  rw [fieldWidth, if_neg hlimit, if_congr Int.ofNat_le rfl rfl, Int.toNat_natCast]

end Widths

/-! ## Literals -/

/-- Every integer has a literal. -/
theorem IntegerLiteral.parse?_signed (v : Int) : parse? (Hex.signed v) = some v := by
  have hsign : Sign (if v < 0 then ['-'] else []) v.natAbs v := by
    split_ifs with hv
    · have hn : v = -(v.natAbs : Int) := by omega
      rw [hn, Int.natAbs_neg, Int.natAbs_natCast]
      exact .minus
    · have hn : v = (v.natAbs : Int) := by omega
      rw [hn, Int.natAbs_natCast]
      exact .none
  exact parse?_of_writes (writes_of_bare (bare_of_spells hsign (.letter (by decide))
    (spells_toDigits (by decide) v.natAbs) fun h => absurd h (by decide)))

end CrashDump
