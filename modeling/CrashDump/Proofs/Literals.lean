import CrashDump.Command.Request
import CrashDump.Proofs.Numerals
import Mathlib.Data.List.TakeWhile

/-! # The grammar of integer literals

A literal is blanks, a sign or none, a base mark or none, digits with single underscores between
them, and blanks again. A text is read as an integer just where it is a literal, and the integer is
the one that its digits write.
-/
namespace CrashDump.IntegerLiteral

/-! ## Grammar -/

/-- A digit of a base, in either case. -/
def IsDigit (base k : Nat) (c : Char) : Prop :=
  k < base ∧ (c = Nat.digitChar k ∨ c = (Nat.digitChar k).toUpper)

/-- Some digits, and nothing between them. -/
def Digits (base : Nat) (cs : List Char) (ks : List Nat) : Prop :=
  cs ≠ [] ∧ List.Forall₂ (IsDigit base) ks cs

/-- Groups of digits, with one underscore between a group and the next. -/
inductive Grouped (base : Nat) : List Char → List Nat → Prop
  | group {cs ks} : Digits base cs ks → Grouped base cs ks
  | scored {cs ks ds js} : Digits base cs ks → Grouped base ds js →
      Grouped base (cs ++ '_' :: ds) (ks ++ js)

/-- The letters of base marks. -/
def letters : List (Char × Nat) :=
  [('x', 16), ('X', 16), ('o', 8), ('O', 8), ('b', 2), ('B', 2)]

/-- What may stand before the digits: nothing where they are decimal, otherwise a base mark, and
after that an underscore or none. -/
inductive Mark : List Char → Nat → Prop
  | decimal : Mark [] 10
  | letter {c base} : (c, base) ∈ letters → Mark ['0', c] base
  | scored {c base} : (c, base) ∈ letters → Mark ['0', c, '_'] base

/-- Decimal digits are not too many, and the first is zero only if all are. -/
def Allowed (base : Nat) (ks : List Nat) : Prop :=
  base = 10 → ks.length ≤ 4300 ∧ (ks.head? = some 0 → ∀ k ∈ ks, k = 0)

/-- Signs, and the integer that a number stands for after each. -/
inductive Sign : List Char → Nat → Int → Prop
  | none {n} : Sign [] n n
  | plus {n} : Sign ['+'] n n
  | minus {n} : Sign ['-'] n (-n)

def blanks : List Char := [' ', '\t', '\n', Char.ofNat 11, Char.ofNat 12, '\r']

/-- A literal without sign. -/
def Unsigned (cs : List Char) (n : Nat) : Prop :=
  ∃ mark base digits ks, cs = mark ++ digits ∧ Mark mark base ∧ Grouped base digits ks ∧
    Allowed base ks ∧ Nat.ofDigits base ks.reverse = n

/-- A literal without the blanks around it. -/
def Bare (cs : List Char) (v : Int) : Prop :=
  ∃ sign body n, cs = sign ++ body ∧ Unsigned body n ∧ Sign sign n v

/-- The text is a literal of the integer. -/
def Writes (s : String) (v : Int) : Prop :=
  ∃ front cs back, s.toList = front ++ (cs ++ back) ∧ (∀ c ∈ front, c ∈ blanks) ∧
    (∀ c ∈ back, c ∈ blanks) ∧ Bare cs v

/-! ## Digits -/

section Digits
variable {base k : Nat} {c : Char} {cs ds : List Char} {ks js : List Nat}

theorem digitChar_toUpper_code : ∀ k < 16,
    (Nat.digitChar k).toUpper.toNat = if k < 10 then 48 + k else 55 + k := by decide

theorem isDigit_iff (hb : base ≤ 16) : IsDigit base k c ↔
    k < base ∧ (c.toNat = 48 + k ∧ k < 10 ∨ (c.toNat = 87 + k ∨ c.toNat = 55 + k) ∧ 10 ≤ k) := by
  refine and_congr_right fun hk => ?_
  have hk16 : k < 16 := by omega
  rw [← Char.toNat_inj, ← Char.toNat_inj, digitChar_code k hk16, digitChar_toUpper_code k hk16]
  split_ifs <;> omega

theorem digit?_eq_some_iff (hb : base ≤ 16) : digit? base c = some k ↔ IsDigit base k c := by
  rw [isDigit_iff hb]
  simp only [digit?]
  split_ifs <;> simp only [Option.some.injEq, false_iff] <;> omega

/-- Neither a sign nor an underscore is a digit. -/
theorem isDigit_code (hb : base ≤ 16) (h : IsDigit base k c) : 48 ≤ c.toNat ∧ c.toNat < 103 ∧
    c.toNat ≠ 95 := by
  have hc := (isDigit_iff hb).mp h
  omega

theorem digits?_single (h : IsDigit base k c) (hb : base ≤ 16) : digits? base [c] = some [k] := by
  rw [digits?, (digit?_eq_some_iff hb).mpr h, Option.map_some]

theorem digits?_cons (hb : base ≤ 16) (h : IsDigit base k c) (hne : cs ≠ [])
    (hhead : ∀ c' ∈ cs.head?, c' ≠ '_') :
    digits? base (c :: cs) = (digits? base cs).map (k :: ·) := by
  -- the rule for an underscore between two digits does not apply
  rw [digits?.eq_4 base c cs hne fun ds hds => hhead '_' (by rw [hds]; rfl) rfl,
    (digit?_eq_some_iff hb).mpr h, Option.bind_some]

theorem Digits.head (hb : base ≤ 16) (h : Digits base cs ks) : ∀ c ∈ cs.head?, c ≠ '_' := by
  obtain ⟨hne, hd⟩ := h
  rintro c hc rfl
  cases hd with
  | nil => exact hne rfl
  | cons hk hd =>
    cases hc
    exact (isDigit_code hb hk).2.2 rfl

/-- Digits before something are read before it. -/
theorem digits?_append (hb : base ≤ 16) (h : Digits base cs ks) (ds : List Char) :
    digits? base (cs ++ '_' :: ds) = (digits? base ds).map (ks ++ ·) := by
  obtain ⟨hne, hd⟩ := h
  induction hd with
  | nil => exact absurd rfl hne
  | @cons k c ks cs hk hd ih =>
    cases cs with
    | nil =>
      cases hd
      rw [List.singleton_append, digits?, (digit?_eq_some_iff hb).mpr hk, Option.bind_some]
      rfl
    | cons c' cs =>
      have hrest := ih (List.cons_ne_nil c' cs)
      have hhead : ∀ x ∈ (c' :: cs ++ '_' :: ds).head?, x ≠ '_' := fun x hx =>
        Digits.head hb ⟨List.cons_ne_nil c' cs, hd⟩ x hx
      have hne' : c' :: cs ++ '_' :: ds ≠ [] := List.cons_ne_nil _ _
      rw [List.cons_append, digits?_cons hb hk hne' hhead, hrest, Option.map_map]
      rfl

theorem digits?_of_digits (hb : base ≤ 16) (h : Digits base cs ks) :
    digits? base cs = some ks := by
  obtain ⟨hne, hd⟩ := h
  induction hd with
  | nil => exact absurd rfl hne
  | @cons k c ks cs hk hd ih =>
    by_cases hcs : cs = []
    · subst hcs
      cases hd
      exact digits?_single hk hb
    · rw [digits?_cons hb hk hcs (Digits.head hb ⟨hcs, hd⟩), ih hcs, Option.map_some]

theorem digits?_of_grouped (hb : base ≤ 16) (h : Grouped base cs ks) :
    digits? base cs = some ks := by
  induction h with
  | group h => exact digits?_of_digits hb h
  | scored h _ ih => rw [digits?_append hb h, ih, Option.map_some]

theorem Digits.single (h : IsDigit base k c) : Digits base [c] [k] :=
  ⟨List.cons_ne_nil c [], .cons h .nil⟩

theorem Digits.cons (hk : IsDigit base k c) (h : Digits base cs ks) :
    Digits base (c :: cs) (k :: ks) :=
  ⟨List.cons_ne_nil c cs, .cons hk h.2⟩

theorem Grouped.cons (hk : IsDigit base k c) (h : Grouped base cs ks) :
    Grouped base (c :: cs) (k :: ks) := by
  cases h with
  | group h => exact .group (h.cons hk)
  | scored h hg => exact .scored (h.cons hk) hg

theorem grouped_of_digits? (hb : base ≤ 16) (h : digits? base cs = some ks) :
    Grouped base cs ks := by
  -- the recursion of the reader: a last digit, a digit before an underscore, any other digit
  fun_induction digits? base cs generalizing ks with
  | case1 => cases h
  | case2 c =>
    obtain ⟨k, hk, rfl⟩ := Option.map_eq_some_iff.mp h
    exact .group (.single ((digit?_eq_some_iff hb).mp hk))
  | case3 c cs ih =>
    obtain ⟨k, hk, h⟩ := Option.bind_eq_some_iff.mp h
    obtain ⟨js, hjs, rfl⟩ := Option.map_eq_some_iff.mp h
    exact .scored (.single ((digit?_eq_some_iff hb).mp hk)) (ih hjs)
  | case4 c cs _ _ ih =>
    obtain ⟨k, hk, h⟩ := Option.bind_eq_some_iff.mp h
    obtain ⟨js, hjs, rfl⟩ := Option.map_eq_some_iff.mp h
    exact (ih hjs).cons ((digit?_eq_some_iff hb).mp hk)

theorem digits?_eq_some_iff (hb : base ≤ 16) : digits? base cs = some ks ↔ Grouped base cs ks :=
  ⟨grouped_of_digits? hb, digits?_of_grouped hb⟩

theorem Digits.mem (h : Digits base cs ks) : ∀ c ∈ cs, ∃ k, IsDigit base k c := by
  obtain ⟨-, hd⟩ := h
  induction hd with
  | nil => exact nofun
  | cons hk _ ih =>
    rintro c (_ | ⟨_, hc⟩)
    · exact ⟨_, hk⟩
    · exact ih c hc

theorem Grouped.mem (h : Grouped base cs ks) :
    ∀ c ∈ cs, c = '_' ∨ ∃ k, IsDigit base k c := by
  induction h with
  | group h => exact fun c hc => .inr (h.mem c hc)
  | scored h _ ih =>
    intro c hc
    rcases List.mem_append.mp hc with hc | hc
    · exact .inr (h.mem c hc)
    · rcases List.mem_cons.mp hc with rfl | hc
      · exact .inl rfl
      · exact ih c hc

theorem Digits.lt (h : Digits base cs ks) : ∀ k ∈ ks, k < base := by
  obtain ⟨-, hd⟩ := h
  induction hd with
  | nil => exact nofun
  | cons hk _ ih => exact List.forall_mem_cons.mpr ⟨hk.1, ih⟩

theorem Grouped.lt (h : Grouped base cs ks) : ∀ k ∈ ks, k < base := by
  induction h with
  | group h => exact h.lt
  | scored h _ ih => exact List.forall_mem_append.mpr ⟨h.lt, ih⟩

theorem Grouped.head (hb : base ≤ 16) (h : Grouped base cs ks) : ∀ c ∈ cs.head?, c ≠ '_' := by
  cases h with
  | group h => exact h.head hb
  | @scored ds _ _ _ h _ =>
    obtain ⟨c, ds, rfl⟩ := List.exists_cons_of_ne_nil h.1
    exact fun x hx => h.head hb x hx

theorem Grouped.ne_nil (h : Grouped base cs ks) : cs ≠ [] := by
  cases h with
  | group h => exact h.1
  | scored h _ => exact List.append_ne_nil_of_left_ne_nil h.1 _

theorem value_eq_ofDigits (base : Nat) (ks : List Nat) :
    value base ks = Nat.ofDigits base ks.reverse := by
  induction ks using List.reverseRecOn with
  | nil => rfl
  | append_singleton ks k ih =>
    rw [value, List.foldl_append, ← value, ih, List.reverse_append, List.reverse_singleton,
      List.singleton_append, Nat.ofDigits_cons]
    exact Nat.add_comm _ _

theorem ofDigits_eq_zero_iff (h0 : 0 < base) :
    Nat.ofDigits base ks.reverse = 0 ↔ ∀ k ∈ ks, k = 0 := by
  induction ks with
  | nil => simp
  | cons k ks ih =>
    have hp : 0 < base ^ ks.length := Nat.pow_pos h0
    rw [Nat.ofDigits_reverse_cons, Nat.add_eq_zero_iff, ih, Nat.mul_eq_zero, List.forall_mem_cons]
    constructor
    · rintro ⟨hks, h | hk⟩
      · omega
      · exact ⟨hk, hks⟩
    · rintro ⟨hk, hks⟩
      exact ⟨hks, .inr hk⟩

end Digits

/-! ## Literals -/

section Literals
variable {base n : Nat} {c : Char} {cs : List Char} {v : Int}

theorem decimal?_eq_some_iff : decimal? cs = some n ↔
    ∃ ks, Grouped 10 cs ks ∧ Allowed 10 ks ∧ Nat.ofDigits 10 ks.reverse = n := by
  have hallowed : ∀ ks, Allowed 10 ks ↔
      ks.length ≤ Decimal.maxDigits ∧ (ks.head? = some 0 → value 10 ks = 0) := by
    intro ks
    rw [value_eq_ofDigits, ofDigits_eq_zero_iff (by decide)]
    exact ⟨fun h => h rfl, fun h _ => h⟩
  simp only [decimal?, Option.bind_eq_some_iff, digits?_eq_some_iff (by decide : 10 ≤ 16)]
  refine exists_congr fun ks => and_congr_right fun _ => ?_
  rw [hallowed, ← value_eq_ofDigits]
  split_ifs with h
  · rw [Option.some.injEq, and_iff_right h]
  · exact iff_of_false nofun fun hx => h hx.1

theorem base_of_mem_letters : ∀ e ∈ letters, (1 < e.2 ∧ e.2 ≤ 16) ∧ e.2 ≠ 10 := by decide

theorem based?_of_grouped {ks : List Nat} (hb : base ≤ 16) (h : Grouped base cs ks) :
    based? base cs = some (Nat.ofDigits base ks.reverse) ∧
      based? base ('_' :: cs) = some (Nat.ofDigits base ks.reverse) := by
  have hd := digits?_of_grouped hb h
  rw [← value_eq_ofDigits]
  constructor
  · rw [based?, hd, Option.map_some]
    rintro ds rfl
    exact h.head hb '_' rfl rfl
  · rw [based?, hd, Option.map_some]

theorem grouped_of_based? (hb : base ≤ 16) (h : based? base cs = some n) :
    ∃ ds ks, (cs = ds ∨ cs = '_' :: ds) ∧ Grouped base ds ks ∧
      Nat.ofDigits base ks.reverse = n := by
  obtain ⟨ks, hd, rfl⟩ := Option.map_eq_some_iff.mp h
  refine ⟨_, ks, ?_, grouped_of_digits? hb hd, (value_eq_ofDigits base ks).symm⟩
  split
  · exact .inr rfl
  · exact .inl rfl

theorem magnitude?_letter (h : (c, base) ∈ letters) (cs : List Char) :
    magnitude? ('0' :: c :: cs) = based? base cs := by
  simp only [letters, List.mem_cons, Prod.mk.injEq, List.not_mem_nil, or_false] at h
  rcases h with ⟨rfl, rfl⟩ | ⟨rfl, rfl⟩ | ⟨rfl, rfl⟩ | ⟨rfl, rfl⟩ | ⟨rfl, rfl⟩ | ⟨rfl, rfl⟩ <;> rfl

theorem magnitude?_decimal (h : ∀ c ds, cs = '0' :: c :: ds → ∀ base, (c, base) ∉ letters) :
    magnitude? cs = decimal? cs := by
  fun_cases magnitude? cs with
  | case1 c cs hc =>
    rcases hc with rfl | rfl
    · exact absurd (by decide) (h 'x' cs rfl 16)
    · exact absurd (by decide) (h 'X' cs rfl 16)
  | case2 c cs _ hc =>
    rcases hc with rfl | rfl
    · exact absurd (by decide) (h 'o' cs rfl 8)
    · exact absurd (by decide) (h 'O' cs rfl 8)
  | case3 c cs _ _ hc =>
    rcases hc with rfl | rfl
    · exact absurd (by decide) (h 'b' cs rfl 2)
    · exact absurd (by decide) (h 'B' cs rfl 2)
  | case4 => rfl
  | case5 => rfl

theorem letters_code : ∀ e ∈ letters, 57 < e.1.toNat ∧ e.1.toNat < 127 ∧ e.1.toNat ≠ 95 := by
  decide

theorem magnitude?_of_unsigned (h : Unsigned cs n) : magnitude? cs = some n := by
  obtain ⟨mark, base, digits, ks, rfl, hm, hg, ha, rfl⟩ := h
  cases hm with
  | decimal =>
    rw [List.nil_append, magnitude?_decimal, decimal?_eq_some_iff]
    · exact ⟨ks, hg, ha, rfl⟩
    · rintro c ds rfl base hc
      have hcode := letters_code _ hc
      rcases hg.mem c (by simp) with rfl | ⟨k, hk⟩
      · exact hcode.2.2 rfl
      · have hk := (isDigit_iff (by decide)).mp hk
        dsimp only at hcode
        omega
  | letter hc =>
    have hb := (base_of_mem_letters _ hc).1.2
    exact (magnitude?_letter hc digits).trans (based?_of_grouped hb hg).1
  | scored hc =>
    have hb := (base_of_mem_letters _ hc).1.2
    exact (magnitude?_letter hc _).trans (based?_of_grouped hb hg).2

theorem unsigned_of_magnitude? (h : magnitude? cs = some n) : Unsigned cs n := by
  by_cases hc : ∃ c ds base, cs = '0' :: c :: ds ∧ (c, base) ∈ letters
  · obtain ⟨c, ds, base, rfl, hc⟩ := hc
    have hb := base_of_mem_letters _ hc
    rw [magnitude?_letter hc] at h
    obtain ⟨ds', ks, rfl | rfl, hg, hn⟩ := grouped_of_based? hb.1.2 h
    · exact ⟨_, base, ds, ks, rfl, .letter hc, hg, fun h10 => absurd h10 hb.2, hn⟩
    · exact ⟨_, base, ds', ks, rfl, .scored hc, hg, fun h10 => absurd h10 hb.2, hn⟩
  · rw [magnitude?_decimal fun c ds hcs base hcb => hc ⟨c, ds, base, hcs, hcb⟩] at h
    obtain ⟨ks, hg, ha, hn⟩ := decimal?_eq_some_iff.mp h
    exact ⟨[], 10, cs, ks, rfl, .decimal, hg, ha, hn⟩

theorem Mark.base_bounds {mark : List Char} (h : Mark mark base) : 1 < base ∧ base ≤ 16 := by
  cases h with
  | decimal => decide
  | letter hc => exact (base_of_mem_letters _ hc).1
  | scored hc => exact (base_of_mem_letters _ hc).1

theorem Mark.code {mark : List Char} (h : Mark mark base) :
    ∀ c ∈ mark, 48 ≤ c.toNat ∧ c.toNat < 127 := by
  intro c hc
  cases h with
  | decimal => cases hc
  | letter hl =>
    have hcode := letters_code _ hl
    dsimp only at hcode
    simp only [List.mem_cons, List.not_mem_nil, or_false] at hc
    rcases hc with rfl | rfl
    · decide
    · omega
  | scored hl =>
    have hcode := letters_code _ hl
    dsimp only at hcode
    simp only [List.mem_cons, List.not_mem_nil, or_false] at hc
    rcases hc with rfl | rfl | rfl
    · decide
    · omega
    · decide

/-- A literal without sign has no character below the digits. -/
theorem Unsigned.code (h : Unsigned cs n) : ∀ c ∈ cs, 48 ≤ c.toNat ∧ c.toNat < 127 := by
  obtain ⟨mark, base, digits, ks, rfl, hm, hg, -, -⟩ := h
  intro c hc
  rcases List.mem_append.mp hc with hc | hc
  · exact hm.code c hc
  · rcases hg.mem c hc with rfl | ⟨k, hk⟩
    · decide
    · have hcode := isDigit_code hm.base_bounds.2 hk
      omega

theorem Unsigned.ne_nil (h : Unsigned cs n) : cs ≠ [] := by
  obtain ⟨mark, base, digits, ks, rfl, -, hg, -, -⟩ := h
  exact List.append_ne_nil_of_right_ne_nil _ hg.ne_nil

theorem signed?_of_bare (h : Bare cs v) : signed? cs = some v := by
  obtain ⟨sign, body, n, rfl, hu, hs⟩ := h
  have hn := magnitude?_of_unsigned hu
  cases hs with
  | none =>
    rw [List.nil_append, signed?, hn]
    · rfl
    · rintro ds rfl
      have hcode := hu.code '-' (by simp)
      exact absurd hcode.1 (by decide)
    · rintro ds rfl
      have hcode := hu.code '+' (by simp)
      exact absurd hcode.1 (by decide)
  | plus =>
    rw [List.singleton_append, signed?, hn]
    rfl
  | minus =>
    rw [List.singleton_append, signed?, hn]
    rfl

theorem bare_of_signed? (h : signed? cs = some v) : Bare cs v := by
  have hbody : ∀ {f : Int → Int} {ds : List Char},
      (do let n ← magnitude? ds; pure (n : Int)).map f = some v →
        ∃ n : Nat, Unsigned ds n ∧ f n = v := by
    intro f ds h
    cases hn : magnitude? ds with
    | none =>
      rw [hn] at h
      cases h
    | some n =>
      rw [hn] at h
      exact ⟨n, unsigned_of_magnitude? hn, Option.some.inj h⟩
  unfold signed? at h
  split at h
  · obtain ⟨n, hu, rfl⟩ := hbody h
    exact ⟨['-'], _, n, rfl, hu, .minus⟩
  · obtain ⟨n, hu, rfl⟩ := hbody h
    exact ⟨['+'], _, n, rfl, hu, .plus⟩
  · obtain ⟨n, hu, rfl⟩ := hbody h
    exact ⟨[], _, n, rfl, hu, .none⟩

/-- A bare literal has no blanks. -/
theorem Bare.code (h : Bare cs v) : ∀ c ∈ cs, 43 ≤ c.toNat ∧ c.toNat < 127 := by
  obtain ⟨sign, body, n, rfl, hu, hs⟩ := h
  intro c hc
  rcases List.mem_append.mp hc with hc | hc
  · cases hs with
    | none => cases hc
    | plus =>
      obtain rfl := List.mem_singleton.mp hc
      decide
    | minus =>
      obtain rfl := List.mem_singleton.mp hc
      decide
  · have hcode := hu.code c hc
    omega

theorem Bare.ne_nil (h : Bare cs v) : cs ≠ [] := by
  obtain ⟨sign, body, n, rfl, hu, -⟩ := h
  exact List.append_ne_nil_of_right_ne_nil _ hu.ne_nil

end Literals

/-! ## Texts -/

section Texts
variable {c : Char} {cs front back : List Char} {s : String} {v : Int}

theorem plain_codes : ∀ n < 128, plain (Char.ofNat n) = Char.ofNat n ∧
    (CharClass.isBlank (Char.ofNat n) = true ↔ Char.ofNat n ∈ blanks) := by decide

theorem plain_of_ascii (h : c.toNat < 128) : plain c = c := by
  have hc := (plain_codes c.toNat h).1
  rwa [Char.ofNat_toNat] at hc

theorem isBlank_iff_of_ascii (h : c.toNat < 128) : CharClass.isBlank c = true ↔ c ∈ blanks := by
  have hc := (plain_codes c.toNat h).2
  rwa [Char.ofNat_toNat] at hc

theorem forall_lt_of_all {k : Nat} (h : cs.all (fun c => c.toNat < k) = true) :
    ∀ c ∈ cs, c.toNat < k :=
  fun c hc => of_decide_eq_true (List.all_eq_true.mp h c hc)

theorem blanks_code : ∀ c ∈ blanks, c.toNat < 43 := forall_lt_of_all (by decide)

theorem trim_append (hf : ∀ c ∈ front, CharClass.isBlank c = true)
    (hb : ∀ c ∈ back, CharClass.isBlank c = true) (hne : cs ≠ [])
    (hcs : ∀ c ∈ cs, CharClass.isBlank c = false) : trim (front ++ (cs ++ back)) = cs := by
  have hkeep : ∀ ds es : List Char, ds ≠ [] → (∀ c ∈ ds, CharClass.isBlank c = false) →
      (ds ++ es).dropWhile CharClass.isBlank = ds ++ es := by
    intro ds es hds h
    obtain ⟨d, ds, rfl⟩ := List.exists_cons_of_ne_nil hds
    rw [List.cons_append, List.dropWhile_cons, h d List.mem_cons_self]
    rfl
  have hback : ∀ c ∈ back.reverse, CharClass.isBlank c = true := fun c hc =>
    hb c (List.mem_reverse.mp hc)
  have hrev := hkeep cs.reverse [] (by simpa using hne) fun c hc =>
    hcs c (List.mem_reverse.mp hc)
  rw [List.append_nil] at hrev
  rw [trim, List.dropWhile_append_of_pos hf, hkeep cs back hne hcs, List.reverse_append,
    List.dropWhile_append_of_pos hback, hrev, List.reverse_reverse]

theorem exists_trim (cs : List Char) : ∃ front back, cs = front ++ (trim cs ++ back) ∧
    (∀ c ∈ front, CharClass.isBlank c = true) ∧ ∀ c ∈ back, CharClass.isBlank c = true := by
  refine ⟨cs.takeWhile CharClass.isBlank,
    ((cs.dropWhile CharClass.isBlank).reverse.takeWhile CharClass.isBlank).reverse, ?_, ?_, ?_⟩
  · rw [trim, ← List.reverse_append, List.takeWhile_append_dropWhile, List.reverse_reverse,
      List.takeWhile_append_dropWhile]
  · exact fun c hc => List.mem_takeWhile_imp hc
  · exact fun c hc => List.mem_takeWhile_imp (List.mem_reverse.mp hc)

/-- Every literal is read as its integer. -/
theorem parse?_of_writes (h : Writes s v) : parse? s = some v := by
  obtain ⟨front, cs, back, hs, hf, hb, hbare⟩ := h
  have hblank : ∀ c ∈ blanks, CharClass.isBlank c = true := fun c hc =>
    (isBlank_iff_of_ascii ((blanks_code c hc).trans (by decide))).mpr hc
  have hplain : ∀ c ∈ cs, plain c = c := fun c hc =>
    plain_of_ascii ((hbare.code c hc).2.trans (by decide))
  have hbody : ∀ c ∈ cs, CharClass.isBlank c = false := by
    intro c hc
    have hcode := hbare.code c hc
    by_contra hx
    rw [Bool.not_eq_false, isBlank_iff_of_ascii (by omega)] at hx
    have hlow := blanks_code c hx
    omega
  rw [parse?, hs, trim_append (fun c hc => hblank c (hf c hc)) (fun c hc => hblank c (hb c hc))
    hbare.ne_nil hbody, List.map_congr_left hplain, List.map_id', signed?_of_bare hbare]

/-- What is read as an integer, of a text of plain characters, is a literal of it. -/
theorem writes_of_parse? (ha : ∀ c ∈ s.toList, c.toNat < 128) (h : parse? s = some v) :
    Writes s v := by
  obtain ⟨front, back, hs, hf, hb⟩ := exists_trim s.toList
  have hmem : ∀ c, c ∈ front ∨ c ∈ trim s.toList ∨ c ∈ back → c.toNat < 128 := by
    intro c hc
    apply ha
    rw [hs, List.mem_append, List.mem_append]
    exact hc
  refine ⟨front, trim s.toList, back, hs, ?_, ?_, ?_⟩
  · exact fun c hc => (isBlank_iff_of_ascii (hmem c (.inl hc))).mp (hf c hc)
  · exact fun c hc => (isBlank_iff_of_ascii (hmem c (.inr (.inr hc)))).mp (hb c hc)
  · rw [parse?, List.map_congr_left fun c hc => plain_of_ascii (hmem c (.inr (.inl hc))),
      List.map_id'] at h
    exact bare_of_signed? h

theorem integer_eq_ok_iff : Settings.integer s = .ok v ↔ parse? s = some v := by
  rw [Settings.integer]
  cases parse? s with
  | none => exact iff_of_false nofun nofun
  | some n => rw [Except.ok.injEq, Option.some.injEq]

theorem integer_eq_error (h : parse? s = none) : Settings.integer s = .error (.notInteger s) := by
  rw [Settings.integer, h]

theorem writes_of_bare (h : Bare cs v) : Writes (String.ofList cs) v :=
  ⟨[], cs, [], by simp, nofun, nofun, h⟩

/-- A text of a number: its digits in either case, and underscores where they may stand. -/
def Spells (base n : Nat) (digits : List Char) : Prop :=
  ∃ ks, Grouped base digits ks ∧ ks.map Nat.digitChar = Nat.toDigits base n

theorem digits_map {base : Nat} {ks : List Nat} {f : Nat → Char} (hne : ks ≠ [])
    (h : ∀ k ∈ ks, IsDigit base k (f k)) : Digits base (ks.map f) ks :=
  ⟨mt List.map_eq_nil_iff.mp hne, List.forall₂_map_right_iff.mpr (List.forall₂_same.mpr h)⟩

theorem spells_toDigits {base : Nat} (h1 : 1 < base) (n : Nat) :
    Spells base n (Nat.toDigits base n) := by
  obtain ⟨ks, hks, hl, hk, -⟩ := Numeral.toDigits h1 n
  have hne : ks ≠ [] := List.ne_nil_of_length_eq_add_one hl
  refine ⟨ks, ?_, hks.symm⟩
  rw [hks]
  exact .group (digits_map hne fun k hkm => ⟨hk k hkm, .inl rfl⟩)

/-- Every text of a number is a literal of it, with each mark of the base and each sign that
fits. -/
theorem bare_of_spells {sign mark digits : List Char} {base n : Nat} (hs : Sign sign n v)
    (hm : Mark mark base) (h : Spells base n digits)
    (hl : base = 10 → (Nat.toDigits base n).length ≤ 4300) : Bare (sign ++ (mark ++ digits)) v := by
  obtain ⟨ks, hg, hks⟩ := h
  have h1 := hm.base_bounds.1
  obtain ⟨js, hjs, -, hj, hv⟩ := Numeral.toDigits h1 n
  obtain rfl : ks = js := map_digitChar_injOn hm.base_bounds.2 hg.lt hj (hks.trans hjs)
  refine ⟨sign, mark ++ digits, n, rfl, ⟨mark, base, digits, ks, rfl, hm, hg, ?_, hv⟩, hs⟩
  intro h10
  refine ⟨?_, fun h0 => ?_⟩
  · rw [← List.length_map Nat.digitChar, hks]
    exact hl h10
  · rw [← ofDigits_eq_zero_iff (Nat.zero_lt_of_lt h1), hv]
    exact Numeral.eq_zero_of_head? h1 hks hj hv h0

/-- A text is read as the integer that it is a literal of, and refused if it is none. All texts of
an integer are literals of it. -/
theorem integer_reads_literals :
    (∀ s : String, (∀ c ∈ s.toList, c.toNat < 128) →
      (∀ v, Settings.integer s = .ok v ↔ Writes s v) ∧
        ((∀ v, ¬ Writes s v) → Settings.integer s = .error (.notInteger s))) ∧
    ∀ (v : Int) (sign mark digits : List Char) (base : Nat), Sign sign v.natAbs v →
      Mark mark base → Spells base v.natAbs digits →
      (base = 10 → (Nat.toDigits base v.natAbs).length ≤ 4300) →
      Settings.integer (String.ofList (sign ++ (mark ++ digits))) = .ok v := by
  constructor
  · intro s ha
    have hiff : ∀ v, parse? s = some v ↔ Writes s v := fun v =>
      ⟨writes_of_parse? ha, parse?_of_writes⟩
    refine ⟨fun v => integer_eq_ok_iff.trans (hiff v), fun h => ?_⟩
    apply integer_eq_error
    rw [Option.eq_none_iff_forall_ne_some]
    exact fun v hv => h v ((hiff v).mp hv)
  · intro v sign mark digits base hs hm hd hl
    exact integer_eq_ok_iff.mpr (parse?_of_writes (writes_of_bare (bare_of_spells hs hm hd hl)))

/-- A literal with blanks, a sign, underscores and both cases, a text with an underscore before its
mark, and a decimal text with an underscore. -/
theorem mixed_literals :
    (∀ c ∈ " -0x_fF_0\n".toList, c.toNat < 128) ∧ Writes " -0x_fF_0\n" (-0xff0) ∧
    (∀ c ∈ "0_x1".toList, c.toNat < 128) ∧ (∀ v, ¬ Writes "0_x1" v) ∧
    Settings.integer "0_x1" = .error (.notInteger "0_x1") ∧
    Spells 10 1000 ['1', '_', '0', '0', '0'] ∧ Settings.integer "-1_000" = .ok (-1000) := by
  have ha : ∀ c ∈ " -0x_fF_0\n".toList, c.toNat < 128 := forall_lt_of_all (by decide)
  have hb : ∀ c ∈ "0_x1".toList, c.toNat < 128 := forall_lt_of_all (by decide)
  have hn : ∀ v, ¬ Writes "0_x1" v := by
    intro v hv
    have hx := ((integer_reads_literals.1 _ hb).1 v).mpr hv
    have he : Settings.integer "0_x1" = .error (.notInteger "0_x1") := by decide
    rw [he] at hx
    cases hx
  have hs : Spells 10 1000 ['1', '_', '0', '0', '0'] :=
    ⟨[1, 0, 0, 0], (digits?_eq_some_iff (by decide)).mp (by decide), by decide⟩
  refine ⟨ha, ((integer_reads_literals.1 _ ha).1 _).mp (by decide), hb, hn,
    (integer_reads_literals.1 _ hb).2 hn, hs, ?_⟩
  exact integer_reads_literals.2 (-1000) ['-'] [] ['1', '_', '0', '0', '0'] 10 (.minus (n := 1000))
    .decimal hs (by decide)

end Texts

end CrashDump.IntegerLiteral
