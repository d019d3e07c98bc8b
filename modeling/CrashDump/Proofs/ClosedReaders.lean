import CrashDump.Proofs.Sessions

/-! # Closed readers

A reader that was closed has no place any more, and no query gives it one. What it answers is told
by the dump alone: lookups go on as before, and nothing captured is given out, though the fault
that stands in for it depends on the operation and on the span.
-/
namespace CrashDump

namespace Cursor
variable {α : Type} {c : Cursor}

/-- A position out of reach is noticed before the cursor is found closed. -/
def closedSeekFault (offset : Int) : Fault :=
  if offset < -(reach : Int) ∨ (reach : Int) ≤ offset then .tooFar else .closed

theorem seek_of_none (hc : c.place = none) (offset : Int) :
    seek offset c = .error (closedSeekFault offset) c := by
  unfold seek closedSeekFault
  split
  · rfl
  · simp only [hc, Option.isNone_none, if_true]

theorem saved_of_none (hc : c.place = none) (block : Access α) :
    saved block c = .error .closed c := by
  simp only [saved, hc]

end Cursor

namespace Dump
variable {m : Dump} {c : Cursor} {a n : Int}

def spans (m : Dump) (a n : Int) : Bool := (m.findSegment a).any fun s => a + n ≤ s.endAddress

/-- Why a closed reader does not read a span. The source is the last thing to be looked at. -/
def closedFault (m : Dump) (a n : Int) : Fault :=
  if n < 0 then .negativeCount n
  else if m.spans a n then .closed
  else .unmapped a n

theorem spans_of_none (h : m.findSegment a = none) : m.spans a n = false := by
  rw [spans, h, Option.any_none]

theorem spans_of_some {t : Segment} (h : m.findSegment a = some t) :
    m.spans a n = t.containsRange a n := by
  have ht := (mem_of_findSegment h).2
  rw [spans, h, Option.any_some, Segment.containsRange, ht, Bool.true_and]

theorem readMemory_of_none (hc : c.place = none) (a n : Int) :
    m.readMemory a n c = .error (m.closedFault a n) c := by
  unfold readMemory closedFault
  by_cases hn : n < 0
  · rw [if_pos hn, if_pos hn]
    rfl
  · rw [if_neg hn, if_neg hn]
    cases ht : m.findSegment a with
    | none =>
      rw [spans_of_none ht]
      rfl
    | some t =>
      rw [spans_of_some ht]
      by_cases hr : t.containsRange a n = true
      · simp only [if_pos hr]
        exact Cursor.saved_of_none hc _
      · simp only [if_neg hr]
        rfl

theorem isFatal_closedFault (m : Dump) (a n : Int) (s : Source) :
    (m.closedFault a n).isFatal s = false := by
  unfold closedFault
  split
  · rfl
  · split <;> rfl

/-- A pointer has no negative size, so it is refused only where it would be found. -/
theorem readPointer_of_none (hc : c.place = none) (a : Int) : m.readPointer a c =
    c.result (if m.spans a m.pointerSize then .error .closed else .ok none) := by
  have hn : ¬ ((m.pointerSize : Int) < 0) := by omega
  simp only [readPointer, readMemory_of_none hc, closedFault, if_neg hn]
  by_cases hs : m.spans a m.pointerSize = true
  · simp only [if_pos hs, Cursor.result]
  · simp only [if_neg hs, Cursor.result]

theorem readText_of_none (hc : c.place = none) (a n : Int) : m.readText a n c = .ok "" c := by
  simp only [readText, readMemory_of_none hc, isFatal_closedFault, Bool.false_eq_true, if_false]

/-- The first segment is already one too many. -/
theorem readSegments_of_none (hc : c.place = none) (ss : List Segment) :
    m.readSegments ss c = ([], ss.head?.map fun s => m.closedFault s.start s.size, c) := by
  cases ss with
  | nil => rfl
  | cons s rest =>
    simp only [readSegments, readSegment, readMemory_of_none hc, List.head?_cons, Option.map_some]

end Dump

def Answer.showsMemory : Answer → Bool
  | bytes _ => true
  | pointer p => p.isSome
  | text s => s ≠ ""
  | chunks cs _ => !cs.isEmpty
  | _ => false

namespace Query
variable {m : Dump} {c : Cursor}

def isLookup : Query → Bool
  | segment _ => true
  | region _ => true
  | moduleAt _ => true
  | moduleNamed _ => true
  | architecture => true
  | is64Bit => true
  | pointerSize => true
  | _ => false

def closedOutcome (m : Dump) : Query → Except Fault Answer
  | seek offset => .error (Cursor.closedSeekFault offset)
  | close => .ok .done
  | memory address size => .error (m.closedFault address size)
  | segmentBytes s => .error (m.closedFault s.start s.size)
  | pointer address =>
    if m.spans address m.pointerSize then .error .closed else .ok (.pointer none)
  | text _ _ => .ok (.text "")
  | allSegments =>
    .ok (.chunks [] (m.segments.head?.map fun s => m.closedFault s.start s.size))
  | someSegments first count =>
    .ok (.chunks [] (((m.segments.drop first).take count).head?.map fun s =>
      m.closedFault s.start s.size))
  | segment address => .ok (.segment (m.findSegment address))
  | region address => .ok (.region (m.findRegion address))
  | moduleAt address => .ok (.module (m.findModuleAt address))
  | moduleNamed part => .ok (.module (m.findModuleNamed part))
  | architecture => .ok (.architecture m.architecture.1 m.architecture.2)
  | is64Bit => .ok (.flag m.is64Bit)
  | pointerSize => .ok (.size m.pointerSize)

theorem run_of_none (hc : c.place = none) (q : Query) :
    q.run m c = c.result (q.closedOutcome m) := by
  cases q with
  | seek offset => exact bind_error (Cursor.seek_of_none hc offset)
  | close =>
    have hsame : ({ c with place := none } : Cursor) = c := by rw [← hc]
    exact (bind_ok rfl).trans (congrArg _ hsame)
  | memory a n => exact bind_error (Dump.readMemory_of_none hc a n)
  | segmentBytes s => exact bind_error (Dump.readMemory_of_none hc s.start s.size)
  | pointer a =>
    have hr := Dump.readPointer_of_none (m := m) hc a
    rw [closedOutcome]
    by_cases hs : m.spans a m.pointerSize = true
    · rw [if_pos hs] at hr ⊢
      exact bind_error hr
    · rw [if_neg hs] at hr ⊢
      exact bind_ok hr
  | text a n => exact bind_ok (Dump.readText_of_none hc a n)
  | allSegments => simp only [run, iterate, Dump.readSegments_of_none hc]; rfl
  | someSegments first count => simp only [run, iterate, Dump.readSegments_of_none hc]; rfl
  | _ => rfl

theorem ask_of_none (hc : c.place = none) (q : Query) :
    q.ask m c = (⟨q.closedOutcome m, none⟩, c) := by
  unfold ask
  rw [run_of_none hc]
  cases q.closedOutcome m with
  | ok x => simp only [Cursor.result, hc]
  | error f => simp only [Cursor.result, hc]

theorem askAll_of_none (hc : c.place = none) (qs : List Query) :
    askAll m qs c = (qs.map fun q => ⟨q.closedOutcome m, none⟩, c) := by
  induction qs with
  | nil => rfl
  | cons q qs ih => rw [askAll_cons, ask_of_none hc, ih, List.map_cons]

theorem ask_close (m : Dump) (c : Cursor) :
    close.ask m c = (⟨.ok .done, none⟩, { c with place := none }) := rfl

/-- A lookup asks nothing of the source, so it does not matter who is asked. -/
theorem outcome_of_isLookup {q : Query} (hq : q.isLookup = true) (c : Cursor) :
    (q.ask m c).1.outcome = q.closedOutcome m := by
  cases q with
  | segment a => rfl
  | region a => rfl
  | moduleAt a => rfl
  | moduleNamed part => rfl
  | architecture => rfl
  | is64Bit => rfl
  | pointerSize => rfl
  | _ => cases hq

theorem showsMemory_closedOutcome {q : Query} {x : Answer} (h : q.closedOutcome m = .ok x) :
    x.showsMemory = false := by
  cases q with
  | pointer a =>
    rw [closedOutcome] at h
    split at h
    · cases h
    · cases h
      rfl
  | seek offset => cases h
  | memory a n => cases h
  | segmentBytes s => cases h
  | _ =>
    cases h
    rfl

/-- Whatever is asked of a reader before it is closed and afterwards: from then on it is closed, its
replies are those of a closed reader and show nothing of the captured memory, and its lookups give
what they give with any reader of the dump, open or closed. -/
theorem askAll_of_close (m : Dump) (pre post : List Query) (c : Cursor) :
    askAll m (pre ++ close :: post) c =
        ((askAll m pre c).1 ++ ⟨.ok .done, none⟩ ::
            post.map fun q => ⟨q.closedOutcome m, none⟩,
          { (askAll m pre c).2 with place := none }) ∧
      (∀ (q : Query) x, q.closedOutcome m = .ok x → x.showsMemory = false) ∧
      ∀ q : Query, q.isLookup = true → ∀ c', (q.ask m c').1.outcome = q.closedOutcome m := by
  refine ⟨?_, fun _ _ => showsMemory_closedOutcome, fun _ => outcome_of_isLookup⟩
  have hc : ({ (askAll m pre c).2 with place := none } : Cursor).place = none := rfl
  rw [askAll_append, askAll_cons, ask_close, askAll_of_none hc]

end Query

end CrashDump
