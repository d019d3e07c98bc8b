import Mathlib.Data.Nat.Digits.Lemmas

/-! # Numerals

A number in a base, written with a given count of digits. There is just one such text, it gives the
number back, and where the counts agree the texts are ordered as the numbers are.
-/
namespace CrashDump

/-- Digits in lower case, as many as `width`, of which the first counts most. -/
def Numeral (base width n : Nat) (cs : List Char) : Prop :=
  ∃ ks : List Nat, cs = ks.map Nat.digitChar ∧ ks.length = width ∧ (∀ k ∈ ks, k < base) ∧
    Nat.ofDigits base ks.reverse = n

theorem digitChar_code : ∀ k < 16,
    (Nat.digitChar k).toNat = if k < 10 then 48 + k else 87 + k := by decide

theorem digitChar_lt_iff {k j : Nat} (hk : k < 16) (hj : j < 16) :
    Nat.digitChar k < Nat.digitChar j ↔ k < j := by
  have hlt : Nat.digitChar k < Nat.digitChar j ↔
      (Nat.digitChar k).toNat < (Nat.digitChar j).toNat := Iff.rfl
  rw [hlt, digitChar_code k hk, digitChar_code j hj]
  split_ifs <;> omega

theorem digitChar_injOn {k j : Nat} (hk : k < 16) (hj : j < 16)
    (h : Nat.digitChar k = Nat.digitChar j) : k = j := by
  have hkj := mt (digitChar_lt_iff hk hj).mpr
  have hjk := mt (digitChar_lt_iff hj hk).mpr
  rw [h] at hkj hjk
  exact Nat.le_antisymm (Nat.not_lt.mp (hjk (Char.lt_irrefl _)))
    (Nat.not_lt.mp (hkj (Char.lt_irrefl _)))

theorem map_digitChar_injOn {base : Nat} (h16 : base ≤ 16) {ks js : List Nat}
    (hk : ∀ k ∈ ks, k < base) (hj : ∀ j ∈ js, j < base)
    (h : ks.map Nat.digitChar = js.map Nat.digitChar) : ks = js := by
  induction ks generalizing js with
  | nil => exact (List.map_eq_nil_iff.mp h.symm).symm
  | cons k ks ih =>
    obtain ⟨j, js, rfl, hkj, hrest⟩ := List.map_eq_cons_iff.mp h.symm
    obtain ⟨hk0, hks⟩ := List.forall_mem_cons.mp hk
    obtain ⟨hj0, hjs⟩ := List.forall_mem_cons.mp hj
    rw [digitChar_injOn (by omega) (by omega) hkj, ih hks hjs hrest.symm]

/-- The first digit that differs decides. -/
theorem ofDigits_lt_iff {base : Nat} (h1 : 1 < base) {ks js : List Nat}
    (hl : ks.length = js.length) (hk : ∀ k ∈ ks, k < base) (hj : ∀ j ∈ js, j < base) :
    Nat.ofDigits base ks.reverse < Nat.ofDigits base js.reverse ↔ ks < js := by
  induction ks generalizing js with
  | nil =>
    obtain rfl := List.eq_nil_of_length_eq_zero hl.symm
    simp
  | cons k ks ih =>
    obtain ⟨j, js, rfl⟩ := List.exists_cons_of_length_eq_add_one hl.symm
    have hl' : ks.length = js.length := Nat.succ.inj hl
    obtain ⟨-, hks⟩ := List.forall_mem_cons.mp hk
    obtain ⟨-, hjs⟩ := List.forall_mem_cons.mp hj
    have hrest := ih hl' hks hjs
    have hklt := Nat.ofDigits_lt_base_pow_length h1 (l := ks.reverse) fun x hx =>
      hks x (List.mem_reverse.mp hx)
    have hjlt := Nat.ofDigits_lt_base_pow_length h1 (l := js.reverse) fun x hx =>
      hjs x (List.mem_reverse.mp hx)
    rw [List.length_reverse] at hklt hjlt
    rw [hl'] at hklt
    rw [Nat.ofDigits_reverse_cons, Nat.ofDigits_reverse_cons, hl', List.cons_lt_cons_iff]
    rcases Nat.lt_trichotomy k j with hkj | rfl | hjk
    · have hstep : base ^ js.length * (k + 1) ≤ base ^ js.length * j := Nat.mul_le_mul_left _ hkj
      rw [Nat.mul_succ] at hstep
      exact iff_of_true (by omega) (.inl hkj)
    · simpa using hrest
    · have hstep : base ^ js.length * (j + 1) ≤ base ^ js.length * k := Nat.mul_le_mul_left _ hjk
      rw [Nat.mul_succ] at hstep
      refine iff_of_false (by omega) ?_
      rintro (h | ⟨rfl, -⟩)
      · omega
      · omega

namespace Numeral
variable {base width n m j : Nat} {cs ds : List Char}

theorem length_eq (h : Numeral base width n cs) : cs.length = width := by
  obtain ⟨ks, rfl, hl, -, -⟩ := h
  rw [List.length_map, hl]

theorem mem_digitChar (h : Numeral base width n cs) {c : Char} (hc : c ∈ cs) :
    ∃ k < base, c = Nat.digitChar k := by
  obtain ⟨ks, rfl, -, hk, -⟩ := h
  obtain ⟨k, hkm, rfl⟩ := List.mem_map.mp hc
  exact ⟨k, hk k hkm, rfl⟩

theorem le_code (h16 : base ≤ 16) (h : Numeral base width n cs) {c : Char} (hc : c ∈ cs) :
    48 ≤ c.toNat := by
  obtain ⟨k, hk, rfl⟩ := h.mem_digitChar hc
  rw [digitChar_code k (by omega)]
  split_ifs <;> omega

/-- Texts of one width are in the order of their numbers. -/
theorem lt_iff (h1 : 1 < base) (h16 : base ≤ 16) (h : Numeral base width n cs)
    (h' : Numeral base width m ds) : cs < ds ↔ n < m := by
  obtain ⟨ks, rfl, hl, hk, rfl⟩ := h
  obtain ⟨js, rfl, hl', hj, rfl⟩ := h'
  rw [ofDigits_lt_iff h1 (hl.trans hl'.symm) hk hj]
  clear hl hl'
  induction ks generalizing js with
  | nil => cases js <;> simp
  | cons k ks ih =>
    cases js with
    | nil => simp
    | cons j js =>
      obtain ⟨hk0, hks⟩ := List.forall_mem_cons.mp hk
      obtain ⟨hj0, hjs⟩ := List.forall_mem_cons.mp hj
      have hk16 : k < 16 := by omega
      have hj16 : j < 16 := by omega
      rw [List.map_cons, List.map_cons, List.cons_lt_cons_iff, List.cons_lt_cons_iff,
        digitChar_lt_iff hk16 hj16, ih hks js hjs]
      refine or_congr_right (and_congr_left fun _ => ?_)
      exact ⟨digitChar_injOn hk16 hj16, congrArg Nat.digitChar⟩

/-- A text of digits writes one number. -/
theorem number_unique (h1 : 1 < base) (h16 : base ≤ 16) (h : Numeral base width n cs)
    (h' : Numeral base width m cs) : n = m := by
  have hnm := mt (h.lt_iff h1 h16 h').mpr (List.lt_irrefl cs)
  have hmn := mt (h'.lt_iff h1 h16 h).mpr (List.lt_irrefl cs)
  omega

/-- The digits that a number has of itself. -/
theorem toDigits (h1 : 1 < base) (n : Nat) :
    Numeral base (Nat.log base n + 1) n (Nat.toDigits base n) := by
  induction n using Nat.strong_induction_on with
  | _ n ih =>
    by_cases hn : n < base
    · refine ⟨[n], Nat.toDigits_of_lt_base hn, ?_, by simpa using hn, Nat.ofDigits_singleton⟩
      rw [Nat.log_of_lt hn]
      rfl
    · have hle := Nat.not_lt.mp hn
      have hq : n / base < n := Nat.div_lt_self (by omega) h1
      obtain ⟨ks, hc, hl, hk, hv⟩ := ih (n / base) hq
      refine ⟨ks ++ [n % base], ?_, ?_, ?_, ?_⟩
      · rw [Nat.toDigits_of_base_le h1 hle, hc, List.map_append]
        rfl
      · rw [List.length_append, hl, List.length_singleton, Nat.log_of_one_lt_of_le h1 hle]
      · intro k hkm
        rcases List.mem_append.mp hkm with hkm | hkm
        · exact hk k hkm
        · rw [List.mem_singleton.mp hkm]
          exact Nat.mod_lt n (by omega)
      · rw [List.reverse_append, List.reverse_singleton, List.singleton_append, Nat.ofDigits_cons,
          hv]
        exact Nat.mod_add_div n base

theorem length_toDigits (h1 : 1 < base) (n : Nat) :
    (Nat.toDigits base n).length = Nat.log base n + 1 := (toDigits h1 n).length_eq

/-- Zeros in front do not count. -/
theorem zeros (h0 : 0 < base) (j : Nat) (h : Numeral base width n cs) :
    Numeral base (j + width) n (List.replicate j '0' ++ cs) := by
  obtain ⟨ks, rfl, rfl, hk, rfl⟩ := h
  refine ⟨List.replicate j 0 ++ ks, ?_, ?_, ?_, ?_⟩
  · rw [List.map_append, List.map_replicate]
    rfl
  · rw [List.length_append, List.length_replicate]
  · intro k hkm
    rcases List.mem_append.mp hkm with hkm | hkm
    · rw [List.eq_of_mem_replicate hkm]
      exact h0
    · exact hk k hkm
  · rw [List.reverse_append, List.reverse_replicate, Nat.ofDigits_append_replicate_zero]

/-- Zeros fill up a number that is not as wide as asked for. -/
theorem filled (h1 : 1 < base) (width n : Nat) :
    Numeral base (max width (Nat.log base n + 1)) n
      (List.replicate (width - (Nat.toDigits base n).length) '0' ++ Nat.toDigits base n) := by
  have h := (toDigits h1 n).zeros (by omega) (width - (Nat.toDigits base n).length)
  rw [length_toDigits h1] at h ⊢
  have hw : width - (Nat.log base n + 1) + (Nat.log base n + 1) =
      max width (Nat.log base n + 1) := by omega
  rwa [hw] at h

theorem filled_of_lt (h1 : 1 < base) (hw : 0 < width) (hn : n < base ^ width) :
    Numeral base width n
      (List.replicate (width - (Nat.toDigits base n).length) '0' ++ Nat.toDigits base n) := by
  have hlog : Nat.log base n < width := by
    by_cases h0 : n = 0
    · rw [h0, Nat.log_zero_right]
      exact hw
    · exact Nat.log_lt_of_lt_pow h0 hn
  have hmax : max width (Nat.log base n + 1) = width := by omega
  have h := filled h1 width n
  rwa [hmax] at h

/-- Only zero is written with a zero in front. -/
theorem eq_zero_of_head? (h1 : 1 < base) {ks : List Nat}
    (h : ks.map Nat.digitChar = Nat.toDigits base n) (hk : ∀ k ∈ ks, k < base)
    (hv : Nat.ofDigits base ks.reverse = n) (h0 : ks.head? = some 0) : n = 0 := by
  by_contra hn
  obtain ⟨js, rfl⟩ : ∃ js, ks = 0 :: js := by
    cases ks with
    | nil => cases h0
    | cons k js => exact ⟨js, by rw [Option.some.inj h0]⟩
  have hl := congrArg List.length h
  rw [List.length_map, length_toDigits h1, List.length_cons, Nat.add_right_cancel_iff] at hl
  have hlt := Nat.ofDigits_lt_base_pow_length h1 (l := js.reverse) fun k hkm =>
    hk k (List.mem_cons_of_mem _ (List.mem_reverse.mp hkm))
  rw [Nat.ofDigits_reverse_zero_cons] at hv
  rw [List.length_reverse, hl, hv] at hlt
  exact absurd (Nat.pow_log_le_self base hn) (Nat.not_le.mpr hlt)

end Numeral

end CrashDump
