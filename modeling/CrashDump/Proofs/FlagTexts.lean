import CrashDump.Proofs.Acceptance
import CrashDump.Proofs.Calendar
import CrashDump.Proofs.HeldBytes
import Mathlib.Data.Int.Bitwise
import Mathlib.Data.Nat.Bitwise

/-! # Flag texts

A set of flags is shown by the names of its bits, in ascending order and with bars between them. As
each name stands for one bit, the values of the names shown make up the bits that were set. A
protection with a bit of no name is shown as unknown; the contents of a dump are shown by those of
their bits that have one.
-/
namespace CrashDump

namespace Codes
variable {t : Codes} {flags i : Nat} {es : List (String × Nat)} {e : String × Nat}

/-! ## Tables of bits -/

/-- The value has one bit at most. -/
def IsBit (n : Nat) : Prop := n = 0 ∨ n = 2 ^ n.log2

instance (n : Nat) : Decidable (IsBit n) := inferInstanceAs (Decidable (_ ∨ _))

/-- Each name stands for a bit of its own, but for names of no bit at all. -/
structure IsFlags (t : Codes) : Prop where
  bits : ∀ e ∈ t.entries, IsBit e.2
  ascending : t.entries.Pairwise fun e f => e.2 < f.2
  names : (t.entries.map (·.1)).Nodup
  plain : t.entries.all (fun e => !e.1.toList.contains '|') = true

theorem isFlags_protections : protections.IsFlags := by
  constructor <;> decide

theorem isFlags_contents : contents.IsFlags := by
  constructor <;> decide

theorem IsBit.testBit_iff {n : Nat} (h : IsBit n) : n.testBit i = true ↔ n = 2 ^ i := by
  rcases h with rfl | hn
  · have hpos := Nat.two_pow_pos i
    rw [Nat.zero_testBit]
    exact iff_of_false Bool.false_ne_true (by omega)
  · rw [hn, Nat.testBit_two_pow, decide_eq_true_eq, Nat.pow_right_inj (by decide)]

/-- Of one bit, all or nothing is set. -/
theorem IsBit.and_eq {n : Nat} (h : IsBit n) (flags : Nat) :
    n &&& flags = 0 ∨ n &&& flags = n := by
  rcases h with rfl | hn
  · exact .inl (Nat.zero_and flags)
  · rw [hn, Nat.two_pow_and]
    cases flags.testBit n.log2 with
    | false => exact .inl rfl
    | true => exact .inr (Nat.mul_one _)

theorem union_append (es : List (String × Nat)) (e : String × Nat) :
    union ⟨es ++ [e]⟩ = union ⟨es⟩ ||| e.2 := by
  rw [union, List.foldl_append]
  rfl

theorem setIn_append (es : List (String × Nat)) (e : String × Nat) (flags : Nat) :
    setIn ⟨es ++ [e]⟩ flags = setIn ⟨es⟩ flags ++ if e.2 &&& flags = 0 then [] else [e] := by
  rw [setIn, List.filter_append]
  by_cases h : e.2 &&& flags = 0
  · simp [setIn, h]
  · rw [if_neg h, List.filter_cons_of_pos (by simpa using h)]
    rfl

theorem testBit_union_iff (hb : ∀ e ∈ es, IsBit e.2) :
    (union ⟨es⟩).testBit i = true ↔ ∃ e ∈ es, e.2 = 2 ^ i := by
  induction es using List.reverseRecOn with
  | nil => simp [union]
  | append_singleton es e ih =>
    have he := (hb e (by simp)).testBit_iff (i := i)
    have hes := ih fun f hf => hb f (List.mem_append_left _ hf)
    rw [union_append, Nat.testBit_or, Bool.or_eq_true, hes, he]
    simp only [List.mem_append, List.mem_singleton, or_and_right, exists_or, exists_eq_left]

theorem union_lt (hb : ∀ e ∈ es, IsBit e.2) (hi : ∀ e ∈ es, e.2 < 2 ^ i) :
    union ⟨es⟩ < 2 ^ i := by
  apply Nat.lt_pow_two_of_testBit
  intro j hj
  by_contra hbit
  obtain ⟨e, he, hej⟩ := (testBit_union_iff hb).mp (Bool.eq_true_of_not_eq_false hbit)
  have hle : 2 ^ i ≤ 2 ^ j := Nat.pow_le_pow_right (by decide) hj
  have hlt := hi e he
  omega

/-- The values of the flags that are set make up the bits that the table names. -/
theorem sum_setIn (hb : ∀ e ∈ es, IsBit e.2) (ha : es.Pairwise fun e f => e.2 < f.2)
    (flags : Nat) : ((setIn ⟨es⟩ flags).map (·.2)).sum = flags &&& union ⟨es⟩ := by
  -- the last entry has the highest bit, so its value is added without a carry
  induction es using List.reverseRecOn with
  | nil => simp [setIn, union]
  | append_singleton es e ih =>
    obtain ⟨has, -, hlast⟩ := List.pairwise_append.mp ha
    have hbs : ∀ f ∈ es, IsBit f.2 := fun f hf => hb f (List.mem_append_left _ hf)
    have hlt : ∀ f ∈ es, f.2 < e.2 := fun f hf => hlast f hf e (by simp)
    have hone : ((if e.2 &&& flags = 0 then [] else [e]).map (·.2)).sum = e.2 &&& flags := by
      split_ifs with h0
      · exact h0.symm
      · exact (Or.resolve_left ((hb e (by simp)).and_eq flags) h0).symm
    rw [setIn_append, List.map_append, List.sum_append, ih hbs has, hone, union_append,
      Nat.and_or_distrib_left, Nat.and_comm e.2]
    rcases hb e (by simp) with h0 | h2
    · simp [h0]
    · rw [h2] at hlt ⊢
      have hlow : flags &&& union ⟨es⟩ < 2 ^ e.2.log2 :=
        Nat.lt_of_le_of_lt Nat.and_le_right (union_lt hbs hlt)
      rw [Nat.and_two_pow, Nat.mul_comm, Nat.or_comm, ← Nat.two_pow_add_eq_or_of_lt hlow,
        Nat.add_comm]

/-! ## Texts of flags -/

/-- The text gives flags of the table with bars between them: each by its name and none twice, in
ascending order, and of values that make up the number. -/
def Spells (t : Codes) (n : Int) (text : String) : Prop :=
  ∃ es : List (String × Nat), text.toList.splitOn '|' = es.map (fun e => e.1.toList) ∧
    (∀ e ∈ es, e ∈ t.entries ∧ e.2 ≠ 0) ∧ (es.map (·.1)).Nodup ∧
    es.Pairwise (fun e f => e.2 < f.2) ∧ ((es.map (·.2)).sum : Nat) = n

theorem mem_setIn : e ∈ t.setIn flags ↔ e ∈ t.entries ∧ e.2 &&& flags ≠ 0 := by
  rw [setIn, List.mem_filter, bne_iff_ne]

theorem spells_setIn (h : t.IsFlags) (hne : t.setIn flags ≠ []) :
    t.Spells (flags &&& t.union : Nat) ("|".intercalate ((t.setIn flags).map (·.1))) := by
  have hsub : (t.setIn flags).Sublist t.entries := List.filter_sublist
  refine ⟨t.setIn flags, ?_, ?_, h.names.sublist (hsub.map _), h.ascending.sublist hsub, ?_⟩
  · have hbar : "|".toList = ['|'] := rfl
    rw [String.toList_intercalate, hbar, List.map_map]
    apply List.splitOn_intercalate
    · intro cs hcs
      obtain ⟨e, he, rfl⟩ := List.mem_map.mp hcs
      have hp := List.all_eq_true.mp h.plain e (mem_setIn.mp he).1
      simpa using hp
    · simpa using hne
  · intro e he
    obtain ⟨hm, hz⟩ := mem_setIn.mp he
    refine ⟨hm, ?_⟩
    intro h0
    rw [h0, Nat.zero_and] at hz
    exact hz rfl
  · rw [sum_setIn h.bits h.ascending]

/-- A text without a bar names one flag at most. -/
theorem Spells.mem_entries {n : Int} {text : String} (h : t.Spells n text)
    (hbar : '|' ∉ text.toList) : ∃ v ≠ 0, (text, v) ∈ t.entries := by
  obtain ⟨es, hs, hm, -⟩ := h
  rw [List.splitOn_eq_singleton hbar] at hs
  obtain ⟨e, hes, he⟩ := List.map_eq_singleton_iff.mp hs.symm
  obtain ⟨hmem, hz⟩ := hm e (by simp [hes])
  obtain ⟨name, v⟩ := e
  obtain rfl : name = text := String.toList_inj.mp he
  exact ⟨v, hz, hmem⟩

/-! ## Bits without a name -/

/-- A bit of the number is one that no entry of the table has. A number below zero has all but
finitely many bits set. -/
def Outside (t : Codes) (p : Int) : Prop :=
  ∃ i, p.testBit i = true ∧ ∀ e ∈ t.entries, e.2 ≠ 2 ^ i

theorem outside_iff (h : t.IsFlags) (p : Int) :
    t.Outside p ↔ ((p.toNat &&& t.union : Nat) : Int) ≠ p := by
  have hname : ∀ i, (∀ e ∈ t.entries, e.2 ≠ 2 ^ i) ↔ t.union.testBit i = false := by
    intro i
    rw [← Bool.not_eq_true, testBit_union_iff h.bits]
    simp only [not_exists, not_and, ne_eq]
  rw [Outside]
  simp only [hname]
  cases p with
  | ofNat n =>
    have hbit : ∀ i, (Int.ofNat n).testBit i = n.testBit i := fun _ => rfl
    have hn : ((n &&& t.union : Nat) : Int) ≠ Int.ofNat n ↔ n &&& t.union ≠ n :=
      not_congr Int.ofNat_inj
    simp only [hbit]
    refine Iff.trans ?_ hn.symm
    constructor
    · rintro ⟨i, hi, hu⟩ hand
      rw [← hand, Nat.testBit_and, hu, Bool.and_false] at hi
      cases hi
    · intro hand
      by_contra hno
      refine hand (Nat.eq_of_testBit_eq fun i => ?_)
      rw [Nat.testBit_and]
      cases hi : n.testBit i with
      | false => rfl
      | true =>
        by_contra hu
        exact hno ⟨i, hi, Bool.eq_false_of_not_eq_true hu⟩
  | negSucc n =>
    have hlarge : ∀ k, k ≤ n + t.union → k.testBit (n + t.union) = false := by
      intro k hk
      exact Nat.testBit_lt_two_pow (Nat.lt_of_le_of_lt hk Nat.lt_two_pow_self)
    refine iff_of_true ⟨n + t.union, ?_, hlarge _ (by omega)⟩ (by omega)
    have hbit : (Int.negSucc n).testBit (n + t.union) = !n.testBit (n + t.union) := rfl
    rw [hbit, hlarge n (by omega)]
    rfl

theorem and_union_of_mem (h : t.IsFlags) (he : e ∈ t.entries) : e.2 &&& t.union = e.2 := by
  refine ((h.bits e he).and_eq t.union).elim (fun h0 => ?_) id
  rcases h.bits e he with hz | hb
  · rw [hz, Nat.zero_and]
  · have hu : t.union.testBit e.2.log2 = true := (testBit_union_iff h.bits).mpr ⟨e, he, hb⟩
    rw [hb, Nat.two_pow_and, hu] at h0
    exact absurd h0 (by simp)

/-- Bits that the table does not name make no difference. -/
theorem setIn_and_union (h : t.IsFlags) (flags : Nat) :
    t.setIn (flags &&& t.union) = t.setIn flags := by
  refine List.filter_congr fun e he => ?_
  have hand : e.2 &&& (flags &&& t.union) = e.2 &&& flags := by
    rw [Nat.and_comm flags, ← Nat.and_assoc, and_union_of_mem h he]
  rw [hand]

end Codes

open Codes

/-! ## Protections -/

namespace Wording
variable {p : Int}

/-- What the text of a protection says. -/
structure TellsProtection (p : Int) (text : String) : Prop where
  absent : text = "N/A" ↔ p = 0
  unknown : text = "PAGE_UNKNOWN" ↔ p ≠ 0 ∧ protections.Outside p
  named : p ≠ 0 → ¬ protections.Outside p → protections.Spells p text

theorem foldl_values (es : List (String × Nat)) :
    es.foldl (fun n hit => n + (hit.2 : Int)) 0 = ((es.map (·.2)).sum : Nat) := by
  induction es using List.reverseRecOn with
  | nil => rfl
  | append_singleton es e ih => simp [List.foldl_append, ih]

theorem protection_eq (h0 : p ≠ 0) : protection p =
    if ((p.toNat &&& protections.union : Nat) : Int) = p
    then "|".intercalate ((protections.setIn p.toNat).map (·.1)) else "PAGE_UNKNOWN" := by
  have hsum := sum_setIn isFlags_protections.bits isFlags_protections.ascending p.toNat
  rw [protection, if_neg h0]
  simp only [foldl_values]
  rw [hsum]

theorem protection_of_outside (h0 : p ≠ 0) (h : protections.Outside p) :
    protection p = "PAGE_UNKNOWN" := by
  rw [protection_eq h0, if_neg ((outside_iff isFlags_protections p).mp h)]

theorem spells_protection (h0 : p ≠ 0) (h : ¬ protections.Outside p) :
    protections.Spells p (protection p) := by
  have hp := not_not.mp (mt (outside_iff isFlags_protections p).mpr h)
  have hne : protections.setIn p.toNat ≠ [] := by
    intro hnil
    have hsum := sum_setIn isFlags_protections.bits isFlags_protections.ascending p.toNat
    rw [hnil] at hsum
    rw [← hsum] at hp
    exact h0 hp.symm
  have hs := spells_setIn isFlags_protections hne
  rw [hp] at hs
  rwa [protection_eq h0, if_pos hp]

theorem tellsProtection (p : Int) : TellsProtection p (protection p) := by
  by_cases h0 : p = 0
  · subst h0
    exact ⟨iff_of_true rfl rfl, iff_of_false (by decide) fun h => h.1 rfl, fun h => absurd rfl h⟩
  · by_cases h : protections.Outside p
    · have htext := protection_of_outside h0 h
      exact ⟨iff_of_false (by rw [htext]; decide) h0, iff_of_true htext ⟨h0, h⟩,
        fun _ hno => absurd h hno⟩
    · have hs := spells_protection h0 h
      have hno : ∀ text : String, '|' ∉ text.toList →
          text ∉ protections.entries.map (·.1) → protection p ≠ text := by
        rintro text hbar hm rfl
        obtain ⟨v, -, hv⟩ := hs.mem_entries hbar
        exact hm (List.mem_map_of_mem hv)
      exact ⟨iff_of_false (hno _ (by decide) (by decide)) h0,
        iff_of_false (hno _ (by decide) (by decide)) fun hu => h hu.2, fun _ _ => hs⟩

end Wording

/-! ## Contents of a dump -/

/-- What the text of the flags of a dump says. -/
structure TellsContents (f : Nat) (text : String) : Prop where
  absent : text = "MiniDumpNormal" ↔ ∀ e ∈ contents.entries, e.2 &&& f = 0
  named : (∃ e ∈ contents.entries, e.2 &&& f ≠ 0) →
    contents.Spells (f &&& contents.union : Nat) text

theorem Table.flags_eq {h : Header} {f : Nat} (hf : h.flags.toNat = f &&& contents.union) :
    Table.flags h = if contents.setIn f = [] then "MiniDumpNormal"
      else "|".intercalate ((contents.setIn f).map (·.1)) := by
  rw [Table.flags, Header.flagNames, hf, setIn_and_union isFlags_contents]
  cases contents.setIn f with
  | nil => rfl
  | cons e es => rfl

theorem Codes.setIn_eq_nil_iff {t : Codes} {flags : Nat} :
    t.setIn flags = [] ↔ ∀ e ∈ t.entries, e.2 &&& flags = 0 := by
  simp only [List.eq_nil_iff_forall_not_mem, mem_setIn, not_and, ne_eq, not_not]

theorem tellsContents_flags {h : Header} {f : Nat} (hf : h.flags.toNat = f &&& contents.union) :
    TellsContents f (Table.flags h) := by
  rw [Table.flags_eq hf]
  by_cases hnil : contents.setIn f = []
  · have hno := setIn_eq_nil_iff.mp hnil
    rw [if_pos hnil]
    exact ⟨iff_of_true rfl hno, fun ⟨e, he, hz⟩ => absurd (hno e he) hz⟩
  · have hs := spells_setIn isFlags_contents hnil
    rw [if_neg hnil]
    refine ⟨iff_of_false ?_ (mt setIn_eq_nil_iff.mpr hnil), fun _ => hs⟩
    -- the name of no contents stands in the table, but for no bit
    intro htext
    rw [htext] at hs
    obtain ⟨v, hv, hm⟩ := hs.mem_entries (by decide)
    have hzero : ∀ e ∈ contents.entries, e.1 = "MiniDumpNormal" → e.2 = 0 := by decide
    exact hv (hzero _ hm rfl)

theorem Header.toNat_flags (d : Image) (off : Nat) :
    (Record.readAt d off : Header).flags.toNat = d.natAt (off + 24) 8 &&& contents.union := by
  have hread : (Record.readAt d off : Header).flags =
      UInt64.ofNat (d.natAt (off + 24) 8) &&& UInt64.ofNat contents.union := rfl
  rw [hread, UInt64.toNat_and, d.toNat_ofNat_natAt8, uint64_toNat_ofNat (by decide)]

/-! ## Texts of dumps -/

/-- A dump with these flags and an empty stream. -/
def flagged (f : Nat) : Image :=
  ⟨(bytesOfNat 4 0x504D444D ++ (bytesOfNat 4 0xA793 ++ (bytesOfNat 4 1 ++ (bytesOfNat 4 32 ++
    (bytesOfNat 8 0 ++ (bytesOfNat 8 f ++ (bytesOfNat 4 0xFFFF ++ bytesOfNat 8 0))))))).toArray⟩

theorem acceptable_flagged (f : Nat) : Acceptable (flagged f) ∧
    (f < 2 ^ 64 → (flagged f).natAt 24 8 = f) := by
  have h0 : (flagged f).Holds 0 _ := Image.holds_toArray _
  have h4 := h0.right
  have h8 := h4.right
  have h12 := h8.right
  have h16 := h12.right
  have h24 := h16.right
  have h32 := h24.right
  simp only [length_bytesOfNat, Nat.reduceAdd] at h4 h8 h12 h16 h24 h32
  have hsize : (flagged f).size = 44 := by
    simp [flagged, ByteArray.size]
  have hcount : (flagged f).natAt 8 4 = 1 := h8.left.natAt (by decide)
  have hrva : (flagged f).natAt 12 4 = 32 := h12.left.natAt (by decide)
  have htag : (flagged f).natAt 32 4 = 0xFFFF := h32.left.natAt (by decide)
  refine ⟨?_, fun hf => h24.left.natAt hf⟩
  constructor
  case head => rw [hsize]; decide
  case signature => exact h0.left.natAt (by decide)
  case streams => rw [hcount]; decide
  case directory => rw [hcount, hrva, hsize]
  case entries =>
    intro i hi
    rw [hcount, Nat.lt_one_iff] at hi
    rw [hi, hrva, htag]
    trivial

/-- A protection of any number, and the flags of any dump, are told by the names of their bits. All
flags can stand in a dump. -/
theorem flag_texts_exact :
    (∀ p : Int, Wording.TellsProtection p (Wording.protection p)) ∧
    (∀ source, ∀ f < 2 ^ 64, ∃ d m, (Dump.parse source d).result = .ok m ∧ d.natAt 24 8 = f) ∧
    ∀ source d m, (Dump.parse source d).result = .ok m →
      ∃ text, (Table.header m).field? "Flags" = some text ∧ TellsContents (d.natAt 24 8) text := by
  refine ⟨Wording.tellsProtection, fun source f hf => ?_, fun source d m hm => ?_⟩
  · obtain ⟨ha, hflags⟩ := acceptable_flagged f
    exact ⟨_, _, Dump.parse_of_acceptable ha, hflags hf⟩
  · obtain ⟨-, rfl⟩ := Dump.parse_eq_ok_iff.mp hm
    exact ⟨_, rfl, tellsContents_flags (Header.toNat_flags d 0)⟩

/-- Two bits with a name and one without, a protection of two bits and one below zero. -/
theorem flags_told_of_three_bits : 0x8000000000000003 < 2 ^ 64 ∧
    (Dump.parse (.file .usual) (flagged 0x8000000000000003)).result =
      .ok (Dump.inPlace (flagged 0x8000000000000003)) ∧
    (∃ text, (Table.header (Dump.inPlace (flagged 0x8000000000000003))).field? "Flags" = some text ∧
      text = "MiniDumpWithDataSegs|MiniDumpWithFullMemory" ∧
      TellsContents 0x8000000000000003 text) ∧
    Wording.TellsProtection 6 "PAGE_READONLY|PAGE_READWRITE" ∧
    Wording.TellsProtection (-1) "PAGE_UNKNOWN" := by
  obtain ⟨hprotection, -, hcontents⟩ := flag_texts_exact
  obtain ⟨ha, hflags⟩ := acceptable_flagged 0x8000000000000003
  have hm : (Dump.parse (.file .usual) (flagged 0x8000000000000003)).result = .ok _ :=
    Dump.parse_of_acceptable ha
  have hsix : Wording.protection 6 = "PAGE_READONLY|PAGE_READWRITE" := by decide
  have hminus : Wording.protection (-1) = "PAGE_UNKNOWN" := by decide
  obtain ⟨text, htext, htold⟩ := hcontents _ _ _ hm
  rw [hflags (by decide)] at htold
  have hshown : text = "MiniDumpWithDataSegs|MiniDumpWithFullMemory" := by
    obtain rfl := Option.some_inj.mp htext
    have hf := Header.toNat_flags (flagged 0x8000000000000003) 0
    rw [hflags (by decide)] at hf
    exact (Table.flags_eq hf).trans (by decide)
  exact ⟨by decide, hm, ⟨text, htext, hshown, htold⟩, hsix ▸ hprotection 6,
    hminus ▸ hprotection (-1)⟩

end CrashDump
