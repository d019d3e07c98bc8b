import CrashDump.Cursor.Script
import CrashDump.Proofs.RestingReads

/-! # Saved blocks

Saved blocks nest like a stack. However a block ends, the cursor is back where it was, unless it
was closed on the way; the first step that fails ends every block around it with its own fault. A
cursor that was closed makes every block around that end with the fault of a closed source.
-/
namespace CrashDump

variable {α β : Type}

namespace Cursor
variable {c c' c'' : Cursor}

theorem Alike.trans (h : c.Alike c') (h' : c'.Alike c'') : c.Alike c'' where
  image := h.image.trans h'.image
  source := h.source.trans h'.source
  isOpen := h.isOpen.trans h'.isOpen
  left := h.left
  right := h'.right

theorem Alike.eq_of_some {d : Image} {p : Nat} {s : Source} (h : Alike ⟨d, some p, s⟩ c) :
    ∃ q < reach, c = ⟨d, some q, s⟩ := by
  obtain ⟨d', place, s'⟩ := c
  obtain ⟨rfl, rfl, ho, -, hr⟩ := h
  cases place with
  | none => cases ho
  | some q => exact ⟨q, hr q rfl, rfl⟩

end Cursor

namespace Access

/-- An access that keeps a cursor on its image, within reach, and closed if it was. -/
def Stays (a : Access α) : Prop :=
  ∀ c : Cursor, c.image.size < Cursor.reach → c.InReach → ∃ c' r, a c = c'.result r ∧ c.Alike c'

theorem stays_pure (x : α) : Stays (pure x) := by
  intro c _ hc
  exact ⟨c, .ok x, rfl, hc.alike⟩

theorem Stays.bind {a : Access α} {f : α → Access β} (ha : a.Stays) (hf : ∀ x, (f x).Stays) :
    (a >>= f).Stays := by
  intro c hd hc
  obtain ⟨c', r, h, hl⟩ := ha c hd hc
  cases r with
  | error e => exact ⟨c', .error e, bind_error h, hl⟩
  | ok x =>
    obtain ⟨c'', r', h', hl'⟩ := hf x c' (hl.image ▸ hd) hl.right
    exact ⟨c'', r', (bind_ok h).trans h', hl.trans hl'⟩

end Access

namespace Cursor
open Access

theorem stays_tell : Stays tell := by
  intro c _ hc
  obtain ⟨d, place, s⟩ := c
  cases place with
  | none => exact ⟨_, .error .closed, rfl, hc.alike⟩
  | some p => exact ⟨_, .ok p, rfl, hc.alike⟩

theorem stays_seek (offset : Int) : Stays (seek offset) := by
  intro c _ hc
  obtain ⟨d, place, s⟩ := c
  cases place with
  | none =>
    obtain ⟨f, hf⟩ := seek_closed offset d s
    exact ⟨_, .error f, hf, hc.alike⟩
  | some p =>
    obtain ⟨q, hq, -, hs⟩ | ⟨f, hf⟩ := seek_open offset
    · exact ⟨_, .ok (), hs d p s, alike_of_lt (hc p rfl) hq⟩
    · exact ⟨_, .error f, hf d p s, hc.alike⟩

/-- A read passes over bytes of the image at most. -/
theorem stays_readExact (count : Int) : Stays (readExact count) := by
  intro c hd hc
  obtain ⟨d, place, s⟩ := c
  by_cases hn : count < 0
  · exact ⟨_, .error (.negativeCount count), if_pos hn, hc.alike⟩
  · obtain ⟨n, rfl⟩ := Int.eq_ofNat_of_zero_le (Int.not_lt.mp hn)
    cases place with
    | none => exact ⟨_, .error .closed, by rw [readExact, if_neg hn]; rfl, hc.alike⟩
    | some p =>
      have hp := hc p rfl
      cases hs : s.refusal? n with
      | some f => exact ⟨_, .error f, readExact_of_refusal hs, hc.alike⟩
      | none =>
        dsimp only at hd
        by_cases hfit : n ≤ d.size - p
        · refine ⟨_, .ok (d.slice p n), readExact_of_le hs hfit, alike_of_lt hp ?_⟩
          omega
        · refine ⟨_, .error (.short ⟨p, n, d.size - p⟩), readExact_of_lt hs (Nat.lt_of_not_le hfit),
            alike_of_lt hp ?_⟩
          omega

theorem stays_readRecord (α : Type) [Record α] : Stays (readRecord α) :=
  (stays_readExact _).bind fun _ => stays_pure _

theorem stays_orNone {a : Access (Option α)} (ha : a.Stays) : (orNone a).Stays := by
  intro c hd hc
  obtain ⟨c', r, h, hl⟩ := ha c hd hc
  cases r with
  | ok x => exact ⟨c', .ok x, by simp only [orNone, h, result], hl⟩
  | error f =>
    cases f with
    | short read => exact ⟨c', .ok none, by simp only [orNone, h, result], hl⟩
    | _ => exact ⟨c', .error _, by simp only [orNone, h, result]; rfl, hl⟩

theorem stays_saved {block : Access α} (hb : block.Stays) : (saved block).Stays := by
  intro c hd hc
  obtain ⟨d, place, s⟩ := c
  cases place with
  | none => exact ⟨_, .error .closed, rfl, hc.alike⟩
  | some p =>
    obtain ⟨c', r, h, hl⟩ := hb _ hd hc
    obtain ⟨q, -, rfl⟩ := hl.eq_of_some
    exact ⟨_, r, saved_eq (hc p rfl) h, hc.alike⟩

theorem stays_nameHere : Stays nameHere := by
  apply stays_orNone
  refine (stays_readRecord UInt32).bind fun n => ?_
  by_cases h : isNameLength n.toNat
  · simp only [h, if_true]
    exact (stays_readExact _).bind fun _ => stays_pure _
  · simp only [h, Bool.false_eq_true, if_false]
    exact stays_pure _

theorem stays_readName (rva : Int) : Stays (readName rva) := by
  unfold readName
  split
  · exact stays_pure _
  · exact stays_saved ((stays_seek rva).bind fun _ => stays_nameHere)

/-! ## The order in which steps end -/

def Trace.place : Trace → Option Nat
  | .value _ place => place
  | .failed _ place => place
  | .block _ _ place => place

mutual

/-- The steps that were executed, in the order in which they ended, each with what it did. A saved
block comes after all that was executed in it. -/
def Step.ended : Step → Trace → List (Step × Trace)
  | .saved block, .block inner fault place =>
    endedIn block inner ++ [(.saved block, .block inner fault place)]
  | s, t => [(s, t)]

def endedIn : List Step → List Trace → List (Step × Trace)
  | s :: block, t :: inner => s.ended t ++ endedIn block inner
  | _, _ => []

end

theorem endedIn_nil (block : List Step) : endedIn block [] = [] := by
  cases block <;> rfl

/-- Steps end well up to the first that fails. That one is no block, and after it end only the
blocks around it, all with its fault. -/
inductive Stops : List (Step × Trace) → Option Fault → Prop
  | whole {xs : List (Step × Trace)} (h : ∀ x ∈ xs, x.2.fault? = none) : Stops xs none
  | failed {pre outer : List (Step × Trace)} {s : Step} {f : Fault} {place : Option Nat}
      (hpre : ∀ x ∈ pre, x.2.fault? = none)
      (houter : ∀ x ∈ outer, ∃ block inner place, x = (.saved block, .block inner (some f) place)) :
      Stops (pre ++ (s, .failed f place) :: outer) (some f)

namespace Stops
variable {xs ys : List (Step × Trace)} {fault : Option Fault}

/-- Steps that all succeed have no part in how the rest ends. -/
theorem append (h : Stops xs none) (h' : Stops ys fault) : Stops (xs ++ ys) fault := by
  cases h with
  | whole hxs =>
    cases h' with
    | whole hys =>
      refine .whole ?_
      intro x hx
      rcases List.mem_append.mp hx with hx | hx
      · exact hxs x hx
      · exact hys x hx
    | failed hpre houter =>
      rw [← List.append_assoc]
      refine .failed ?_ houter
      intro x hx
      rcases List.mem_append.mp hx with hx | hx
      · exact hxs x hx
      · exact hpre x hx

/-- A block that can go back lets out what its steps let out. -/
theorem saved (h : Stops xs fault) (block : List Step) (inner : List Trace)
    (place : Option Nat) : Stops (xs ++ [(.saved block, .block inner fault place)]) fault := by
  cases h with
  | whole hxs =>
    refine (whole hxs).append (.whole ?_)
    intro x hx
    rw [List.mem_singleton.mp hx]
    rfl
  | failed hpre houter =>
    rw [List.append_assoc, List.cons_append]
    refine .failed hpre ?_
    intro x hx
    rcases List.mem_append.mp hx with hx | hx
    · exact houter x hx
    · exact ⟨block, inner, place, List.mem_singleton.mp hx⟩

end Stops

/-- Whether the cursor was closed by one of the steps. -/
def Closes (xs : List (Step × Trace)) : Prop := Step.close ∈ xs.map Prod.fst

theorem closes_append {xs ys : List (Step × Trace)} :
    Closes (xs ++ ys) ↔ Closes xs ∨ Closes ys := by
  rw [Closes, List.map_append, List.mem_append, Closes, Closes]

theorem closes_saved {xs : List (Step × Trace)} {block : List Step} {t : Trace} :
    Closes (xs ++ [(.saved block, t)]) ↔ Closes xs := by
  simp [Closes]

/-- If the cursor is closed within a block, the block ends with the fault of a closed source. -/
def EndsClosed (x : Step × Trace) : Prop :=
  ∀ block inner fault place, x = (.saved block, .block inner fault place) →
    Closes (endedIn block inner) → fault = some .closed ∧ place = none

/-- How steps that ended with a fault, or without one, took one cursor to another. -/
structure Settled (c c' : Cursor) (xs : List (Step × Trace)) (fault : Option Fault) : Prop where
  image : c.image = c'.image
  source : c.source = c'.source
  inReach : c'.InReach
  stops : c.place ≠ none → ¬ Closes xs → c'.place ≠ none ∧ Stops xs fault
  closes : c.place = none ∨ Closes xs → c'.place = none
  blocks : ∀ x ∈ xs, EndsClosed x

namespace Settled
variable {xs ys : List (Step × Trace)} {fault : Option Fault}

theorem nil (hc : c.InReach) : Settled c c [] none where
  image := rfl
  source := rfl
  inReach := hc
  stops ho _ := ⟨ho, .whole (List.forall_mem_nil _)⟩
  closes h := by
    rcases h with h | h
    · exact h
    · cases h
  blocks := List.forall_mem_nil _

theorem append (h : Settled c c' xs none) (h' : Settled c' c'' ys fault) :
    Settled c c'' (xs ++ ys) fault where
  image := h.image.trans h'.image
  source := h.source.trans h'.source
  inReach := h'.inReach
  stops ho hn := by
    rw [closes_append, not_or] at hn
    obtain ⟨ho', hx⟩ := h.stops ho hn.1
    obtain ⟨ho'', hy⟩ := h'.stops ho' hn.2
    exact ⟨ho'', hx.append hy⟩
  closes hx := by
    rw [closes_append, ← or_assoc] at hx
    rcases hx with hx | hy
    · exact h'.closes (.inl (h.closes hx))
    · exact h'.closes (.inr hy)
  blocks x hx := by
    rcases List.mem_append.mp hx with hx | hx
    · exact h.blocks x hx
    · exact h'.blocks x hx

theorem of_alike {s : Step} {t : Trace} (h : c.Alike c') (hs : s ≠ .close)
    (hb : ∀ block, s ≠ .saved block) (ht : Stops [(s, t)] fault) :
    Settled c c' [(s, t)] fault where
  image := h.image
  source := h.source
  inReach := h.right
  stops ho _ := by
    refine ⟨?_, ht⟩
    rw [Option.ne_none_iff_isSome] at ho ⊢
    rw [← h.isOpen]
    exact ho
  closes hx := by
    rcases hx with hx | hx
    · have ho := h.isOpen
      rw [hx] at ho
      exact Option.isNone_iff_eq_none.mp (by simpa using ho.symm)
    · exact absurd (List.mem_singleton.mp hx).symm hs
  blocks x hx := by
    intro block inner fault place he
    rw [List.mem_singleton.mp hx] at he
    cases he
    exact absurd rfl (hb block)

theorem saved_of_open {d : Image} {p : Nat} {s : Source} {block : List Step} {inner : List Trace}
    (hp : p < reach) (h : Settled ⟨d, some p, s⟩ c' (endedIn block inner) fault)
    (ho : c'.place ≠ none) :
    Settled ⟨d, some p, s⟩ ⟨d, some p, s⟩
      ((Step.saved block).ended (.block inner fault (some p))) fault where
  image := rfl
  source := rfl
  inReach := inReach_of_lt hp
  stops hc hn := by
    rw [Step.ended, closes_saved] at hn
    rw [Step.ended]
    exact ⟨hc, (h.stops hc hn).2.saved block inner (some p)⟩
  closes hx := by
    rw [Step.ended, closes_saved] at hx
    exact absurd (h.closes hx) ho
  blocks x hx := by
    rw [Step.ended] at hx
    rcases List.mem_append.mp hx with hx | hx
    · exact h.blocks x hx
    · -- The block itself closed nothing, or the cursor would not have been open after it.
      intro block' inner' fault' place' he hcl
      rw [List.mem_singleton.mp hx] at he
      cases he
      exact absurd (h.closes (.inr hcl)) ho

theorem saved_of_closed {d : Image} {p : Nat} {s : Source} {block : List Step}
    {inner : List Trace} (h : Settled ⟨d, some p, s⟩ c' (endedIn block inner) fault)
    (ho : c'.place = none) :
    Settled ⟨d, some p, s⟩ c' ((Step.saved block).ended (.block inner (some .closed) none))
      (some .closed) where
  image := h.image
  source := h.source
  inReach := h.inReach
  stops hc hn := by
    rw [Step.ended, closes_saved] at hn
    exact absurd ho (h.stops hc hn).1
  closes _ := ho
  blocks x hx := by
    rw [Step.ended] at hx
    rcases List.mem_append.mp hx with hx | hx
    · exact h.blocks x hx
    · intro block' inner' fault' place' he _
      rw [List.mem_singleton.mp hx] at he
      cases he
      exact ⟨rfl, rfl⟩

end Settled

/-! ## Runs -/

/-- The steps of a block as one access, which gives what they did. -/
def blockAccess (block : List Step) : Access (List Trace) := fun c =>
  let (inner, fault, c') := runBlock c block
  c'.result (fault.elim (.ok inner) .error)

/-- As a step, a saved block does what the access to its steps does that is saved. -/
theorem run_saved (block : List Step) (c : Cursor) : ∃ inner fault c',
    (Step.saved block).run c = (.block inner fault c'.place, c') ∧
    saved (blockAccess block) c = c'.result (fault.elim (.ok inner) .error) := by
  rw [Step.run, saved]
  cases hc : c.place with
  | none => exact ⟨[], some .closed, c, by rw [hc], rfl⟩
  | some p =>
    rcases hr : runBlock c block with ⟨inner, fault, c'⟩
    have hb : blockAccess block c = c'.result (fault.elim (.ok inner) .error) := by
      rw [blockAccess, hr]
    rw [hb]
    cases hs : seek p c' with
    | ok u c'' =>
      refine ⟨inner, fault, c'', by simp only [hs], ?_⟩
      cases fault <;> simp only [Option.elim, result, hs]
    | error f c'' =>
      refine ⟨inner, some f, c'', by simp only [hs], ?_⟩
      cases fault <;> simp only [Option.elim, result, hs]

theorem seek_of_closed {p : Nat} (hp : p < reach) (hc : c.place = none) :
    seek p c = .error .closed c := by
  rw [seek, if_neg (by omega), if_pos (by rw [hc]; rfl)]

theorem run_saved_of_open {d : Image} {p q : Nat} {s : Source} {block : List Step}
    {inner : List Trace} {fault : Option Fault} (hp : p < reach)
    (h : runBlock ⟨d, some p, s⟩ block = (inner, fault, ⟨d, some q, s⟩)) :
    (Step.saved block).run ⟨d, some p, s⟩ =
      (.block inner fault (some p), ⟨d, some p, s⟩) := by
  simp only [Step.run, h, seek_eq hp]

theorem run_saved_of_closed {d : Image} {p : Nat} {s : Source} {block : List Step}
    {inner : List Trace} {fault : Option Fault} (hp : p < reach)
    (h : runBlock ⟨d, some p, s⟩ block = (inner, fault, c')) (hc : c'.place = none) :
    (Step.saved block).run ⟨d, some p, s⟩ = (.block inner (some .closed) none, c') := by
  simp only [Step.run, h, seek_of_closed hp hc, hc]

section Blocks
variable {s : Step} {rest : List Step} {t : Trace} {f : Fault}

theorem runBlock_cons_of_fault (h : s.run c = (t, c')) (hf : t.fault? = some f) :
    runBlock c (s :: rest) = ([t], some f, c') := by
  simp only [runBlock, h, hf]

theorem runBlock_cons_of_ok (h : s.run c = (t, c')) (hf : t.fault? = none) :
    runBlock c (s :: rest) = (t :: (runBlock c' rest).1, (runBlock c' rest).2) := by
  simp only [runBlock, h, hf]

end Blocks

/-- A step that is neither a block nor a close leaves the cursor open if it was. -/
theorem traceOf_settled {a : Access Value} (ha : a.Stays) (hd : c.image.size < reach)
    (hc : c.InReach) {s : Step} (hs : s ≠ .close) (hb : ∀ block, s ≠ .saved block) :
    Settled c (traceOf a c).2 [(s, (traceOf a c).1)] (traceOf a c).1.fault? := by
  obtain ⟨c', r, h, hl⟩ := ha c hd hc
  cases r with
  | ok v =>
    simp only [traceOf, h, result]
    refine Settled.of_alike hl hs hb (.whole ?_)
    intro x hx
    rw [List.mem_singleton.mp hx]
    rfl
  | error f =>
    simp only [traceOf, h, result]
    exact Settled.of_alike hl hs hb
      (.failed (List.forall_mem_nil _) (List.forall_mem_nil _))

theorem close_settled (c : Cursor) :
    Settled c (Step.close.run c).2 [(.close, (Step.close.run c).1)] none where
  image := rfl
  source := rfl
  inReach := by
    intro p hp
    cases hp
  stops _ hn := absurd (List.mem_singleton_self _) hn
  closes _ := rfl
  blocks x hx := by
    intro block inner fault place he
    rw [List.mem_singleton.mp hx] at he
    cases he

/-- No step of a block is executed with a closed cursor. -/
theorem saved_settled_of_closed (hc : c.InReach) (ho : c.place = none) (block : List Step) :
    Settled c c [(.saved block, .block [] (some .closed) none)] (some .closed) where
  image := rfl
  source := rfl
  inReach := hc
  stops h := absurd ho h
  closes _ := ho
  blocks x hx := by
    intro block' inner fault place he hcl
    rw [List.mem_singleton.mp hx] at he
    cases he
    exact ⟨rfl, rfl⟩

mutual

/-- Steps and blocks are settled together: the steps of a saved block are smaller than the block. -/
theorem Step.run_settled (s : Step) {c : Cursor} (hd : c.image.size < reach) (hc : c.InReach) :
    Settled c (s.run c).2 (s.ended (s.run c).1) (s.run c).1.fault? := by
  cases s with
  | seek offset =>
    simp only [Step.run, Step.ended]
    exact traceOf_settled ((stays_seek offset).bind fun _ => stays_pure _) hd hc nofun nofun
  | tell =>
    simp only [Step.run, Step.ended]
    exact traceOf_settled (stays_tell.bind fun _ => stays_pure _) hd hc nofun nofun
  | read count =>
    simp only [Step.run, Step.ended]
    exact traceOf_settled ((stays_readExact count).bind fun _ => stays_pure _) hd hc nofun nofun
  | record kind =>
    simp only [Step.run, Step.ended]
    exact traceOf_settled ((stays_readRecord kind.Carrier).bind fun _ => stays_pure _) hd hc
      nofun nofun
  | name rva =>
    simp only [Step.run, Step.ended]
    exact traceOf_settled ((stays_readName rva).bind fun _ => stays_pure _) hd hc nofun nofun
  | close => exact close_settled c
  | saved block =>
    have hx := runBlock_settled block hd hc
    obtain ⟨d, place, src⟩ := c
    cases place with
    | none =>
      simp only [Step.run, Step.ended, endedIn_nil, List.nil_append]
      exact saved_settled_of_closed hc rfl block
    | some p =>
      have hp := hc p rfl
      rcases hr : runBlock ⟨d, some p, src⟩ block with ⟨inner, fault, ⟨d', place, src'⟩⟩
      rw [hr] at hx
      -- Going back fails just if the block left the cursor closed; its own fault is then lost.
      cases place with
      | none =>
        rw [run_saved_of_closed hp hr rfl]
        exact hx.saved_of_closed rfl
      | some q =>
        obtain rfl : d = d' := hx.image
        obtain rfl : src = src' := hx.source
        rw [run_saved_of_open hp hr]
        exact hx.saved_of_open hp nofun

theorem runBlock_settled (block : List Step) {c : Cursor} (hd : c.image.size < reach)
    (hc : c.InReach) :
    Settled c (runBlock c block).2.2 (endedIn block (runBlock c block).1)
      (runBlock c block).2.1 := by
  cases block with
  | nil => exact Settled.nil hc
  | cons s rest =>
    have hs := s.run_settled hd hc
    rcases hr : s.run c with ⟨t, c'⟩
    rw [hr] at hs
    cases hf : t.fault? with
    | some f =>
      rw [runBlock_cons_of_fault hr hf]
      simp only [hf, endedIn, endedIn_nil, List.append_nil] at hs ⊢
      exact hs
    | none =>
      rw [runBlock_cons_of_ok hr hf]
      rw [hf] at hs
      exact hs.append (runBlock_settled rest (hs.image ▸ hd) hs.inReach)

end

/-- A block without a fault ran to its end. -/
theorem length_runBlock (block : List Step) (c : Cursor) (h : (runBlock c block).2.1 = none) :
    (runBlock c block).1.length = block.length := by
  induction block generalizing c with
  | nil => rfl
  | cons s rest ih =>
    rcases hr : s.run c with ⟨t, c'⟩
    cases hf : t.fault? with
    | some f =>
      rw [runBlock_cons_of_fault hr hf] at h
      cases h
    | none =>
      rw [runBlock_cons_of_ok hr hf] at h ⊢
      rw [List.length_cons, List.length_cons, ih c' h]

/-- What follows the step that failed has no part in the run. -/
theorem runBlock_replace (block : List Step) (c : Cursor) (h : (runBlock c block).2.1 ≠ none)
    (later : List Step) :
    runBlock c (block.take (runBlock c block).1.length ++ later) = runBlock c block := by
  induction block generalizing c with
  | nil => exact absurd rfl h
  | cons s rest ih =>
    rcases hr : s.run c with ⟨t, c'⟩
    cases hf : t.fault? with
    | some f =>
      rw [runBlock_cons_of_fault hr hf]
      exact runBlock_cons_of_fault hr hf
    | none =>
      rw [runBlock_cons_of_ok hr hf] at h ⊢
      rw [List.length_cons, List.take_succ_cons, List.cons_append, runBlock_cons_of_ok hr hf,
        ih c' h]

/-- A cursor that was closed stays closed, whatever steps are run on it. -/
theorem runScript_of_closed (steps : List Step) (hd : c.image.size < reach) (hc : c.InReach)
    (ho : c.place = none) : (runScript c steps).2.place = none := by
  induction steps generalizing c with
  | nil => exact ho
  | cons s rest ih =>
    have hs := s.run_settled hd hc
    exact ih (hs.image ▸ hd) hs.inReach (hs.closes (.inl ho))

/-- A saved block leaves an open cursor where it was, whether or not it fails, and fails with the
fault of the first step in it that fails, however deep, after which nothing more is executed. Where
the cursor is closed within it, the block and all blocks around the close end with that fault, and
the cursor stays closed. -/
theorem saved_restores {d : Image} {p : Nat} {s : Source} (hd : d.size < reach) (hp : p < reach)
    (block : List Step) :
    ∃ inner fault c',
      (Step.saved block).run ⟨d, some p, s⟩ = (.block inner fault c'.place, c') ∧
      (¬ Closes (endedIn block inner) → c' = ⟨d, some p, s⟩ ∧ Stops (endedIn block inner) fault ∧
        (fault = none → inner.length = block.length) ∧
        (fault ≠ none → ∀ later, (Step.saved (block.take inner.length ++ later)).run
          ⟨d, some p, s⟩ = (.block inner fault c'.place, c'))) ∧
      (Closes (endedIn block inner) → fault = some .closed ∧ c'.place = none ∧
        (∀ x ∈ endedIn block inner, EndsClosed x) ∧
        ∀ steps, (runScript c' steps).2.place = none) := by
  have hx := runBlock_settled block (c := ⟨d, some p, s⟩) hd (inReach_of_lt hp)
  have hlen := length_runBlock block ⟨d, some p, s⟩
  have hlater := runBlock_replace block ⟨d, some p, s⟩
  rcases hr : runBlock ⟨d, some p, s⟩ block with ⟨inner, fault, ⟨d', place, s'⟩⟩
  rw [hr] at hx hlen hlater
  obtain rfl : d = d' := hx.image
  obtain rfl : s = s' := hx.source
  cases place with
  | none =>
    refine ⟨inner, some .closed, ⟨d, none, s⟩, run_saved_of_closed hp hr rfl, ?_, ?_⟩
    · intro hn
      exact absurd rfl (hx.stops nofun hn).1
    · intro _
      refine ⟨rfl, rfl, hx.blocks, ?_⟩
      intro steps
      exact runScript_of_closed steps hd hx.inReach rfl
  | some q =>
    refine ⟨inner, fault, ⟨d, some p, s⟩, run_saved_of_open hp hr, ?_, ?_⟩
    · intro hn
      refine ⟨rfl, (hx.stops nofun hn).2, hlen, ?_⟩
      intro hf later
      exact run_saved_of_open hp (hlater hf later)
    · intro hcl
      cases hx.closes (.inr hcl)

def fourBytes : Image := ⟨#[65, 66, 67, 68]⟩

/-- The third step is not reached, nor the last step of the block within. -/
def readsPastEnd : List Step := [.read 1, .saved [.seek 0, .read 9, .tell], .tell]

def closesWithin : List Step := [.saved [.seek 1, .close, .close, .read 1], .tell]

theorem nested_saved_restores : fourBytes.size < reach ∧ 2 < reach ∧
    (∃ inner, (Step.saved readsPastEnd).run ⟨fourBytes, some 2, .memory⟩ =
        (.block inner (some (.short ⟨0, 9, 4⟩)) (some 2), ⟨fourBytes, some 2, .memory⟩) ∧
      ¬ Closes (endedIn readsPastEnd inner) ∧
      Stops (endedIn readsPastEnd inner) (some (.short ⟨0, 9, 4⟩))) ∧
    ∃ inner, (Step.saved closesWithin).run ⟨fourBytes, some 2, .memory⟩ =
        (.block inner (some .closed) none, ⟨fourBytes, none, .memory⟩) ∧
      Closes (endedIn closesWithin inner) ∧
      (∀ x ∈ endedIn closesWithin inner, EndsClosed x) ∧
      ∀ steps, (runScript ⟨fourBytes, none, .memory⟩ steps).2.place = none := by
  have hd : fourBytes.size < reach := by decide
  have hp : 2 < reach := by decide
  refine ⟨hd, hp, ?_, ?_⟩
  · obtain ⟨inner, fault, ⟨d', place, s'⟩, hrun, hkept, -⟩ :=
      saved_restores (s := .memory) hd hp readsPastEnd
    have hr : (Step.saved readsPastEnd).run ⟨fourBytes, some 2, .memory⟩ =
        (.block (runBlock ⟨fourBytes, some 2, .memory⟩ readsPastEnd).1
          (some (.short ⟨0, 9, 4⟩)) (some 2), ⟨fourBytes, some 2, .memory⟩) := rfl
    have hsteps : (endedIn readsPastEnd
        (runBlock ⟨fourBytes, some 2, .memory⟩ readsPastEnd).1).map Prod.fst =
          [.read 1, .seek 0, .read 9, .saved [.seek 0, .read 9, .tell]] := rfl
    have hn : ¬ Closes (endedIn readsPastEnd
        (runBlock ⟨fourBytes, some 2, .memory⟩ readsPastEnd).1) := by
      rw [Closes, hsteps]
      simp
    rw [hr] at hrun
    cases hrun
    exact ⟨_, hr, hn, (hkept hn).2.1⟩
  · obtain ⟨inner, fault, ⟨d', place, s'⟩, hrun, -, hclosed⟩ :=
      saved_restores (s := .memory) hd hp closesWithin
    have hr : (Step.saved closesWithin).run ⟨fourBytes, some 2, .memory⟩ =
        (.block (runBlock ⟨fourBytes, some 2, .memory⟩ closesWithin).1
          (some .closed) none, ⟨fourBytes, none, .memory⟩) := rfl
    have hsteps : (endedIn closesWithin
        (runBlock ⟨fourBytes, some 2, .memory⟩ closesWithin).1).map Prod.fst =
          [.seek 1, .close, .close, .read 1, .saved [.seek 1, .close, .close, .read 1]] := rfl
    have hcl : Closes (endedIn closesWithin
        (runBlock ⟨fourBytes, some 2, .memory⟩ closesWithin).1) := by
      rw [Closes, hsteps]
      simp
    rw [hr] at hrun
    cases hrun
    obtain ⟨-, -, hends, hstays⟩ := hclosed hcl
    exact ⟨_, hr, hcl, hends, hstays⟩

end Cursor

end CrashDump
