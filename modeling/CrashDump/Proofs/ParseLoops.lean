import CrashDump.Dump.Parse
import CrashDump.Proofs.CursorAccess

/-! # Loops of the parse

Every loop of the parse keeps its cursor open at the next record, so what it collects is the
run of records that stands in the image, and what stops it is what cuts that run short. The
excursions to names in the middle of a list come back to the same place.
-/
namespace CrashDump

namespace Decoded

theorem cutNotice_cons {α : Type} (notice : Nat → Notice) (r : α) (rs : List α)
    (cut : Option ShortRead) :
    cutNotice notice (r :: rs, cut) =
      cutNotice (fun n => notice (n + 1)) (rs, cut) := by
  cases cut <;> rfl

end Decoded

namespace ParseState

/-- The state with its cursor open at a place. -/
def moved (s : ParseState) (p : Nat) : ParseState :=
  { s with cursor := { s.cursor with place := some p } }

def collecting (s : ParseState) (c : Collected) : ParseState := { s with collected := c }

def noting (s : ParseState) (ns : List Notice) : ParseState :=
  { s with notices := s.notices ++ ns.toArray }

@[simp] theorem moved_moved (s : ParseState) (p q : Nat) : (s.moved p).moved q = s.moved q := rfl
@[simp] theorem notices_moved (s : ParseState) (p : Nat) : (s.moved p).notices = s.notices := rfl
@[simp] theorem collected_moved (s : ParseState) (p : Nat) :
    (s.moved p).collected = s.collected := rfl
@[simp] theorem image_moved (s : ParseState) (p : Nat) :
    (s.moved p).cursor.image = s.cursor.image := rfl
@[simp] theorem cursor_collecting (s : ParseState) (c : Collected) :
    (s.collecting c).cursor = s.cursor := rfl
@[simp] theorem notices_collecting (s : ParseState) (c : Collected) :
    (s.collecting c).notices = s.notices := rfl
@[simp] theorem collected_collecting (s : ParseState) (c : Collected) :
    (s.collecting c).collected = c := rfl
@[simp] theorem collecting_collecting (s : ParseState) (c c' : Collected) :
    (s.collecting c).collecting c' = s.collecting c' := rfl
@[simp] theorem cursor_noting (s : ParseState) (ns : List Notice) :
    (s.noting ns).cursor = s.cursor := rfl
@[simp] theorem collected_noting (s : ParseState) (ns : List Notice) :
    (s.noting ns).collected = s.collected := rfl
@[simp] theorem noting_nil (s : ParseState) : s.noting [] = s := by simp [noting]

end ParseState

namespace Parse
variable {α β : Type} {s s' : ParseState} {p : Nat}

theorem bind_get (f : ParseState → Parse β) (s : ParseState) : (get >>= f) s = f s s := rfl

theorem pure_run (a : α) (s : ParseState) : (pure a : Parse α) s = .ok a s := rfl

theorem seek_run {offset : Nat} (h : offset < Cursor.reach) :
    access (Cursor.seek offset) (s.moved p) = .ok () (s.moved offset) := by
  have hc := Cursor.seek_eq (d := s.cursor.image) (s := s.cursor.source) (p := p) h
  simp only [access, ParseState.moved, hc]

theorem readName_run (hp : p < Cursor.reach) {rva : Nat} (hr : rva < Cursor.reach) :
    access (Cursor.readName rva) (s.moved p) = .ok (nameAt s.cursor.image rva) (s.moved p) := by
  have hc := Cursor.readName_eq (d := s.cursor.image) (s := s.cursor.source) hp hr
  simp only [access, ParseState.moved, hc]

section Records
variable [Record α] [Record.Readable α]

theorem record_of_fits (h : s.cursor.image.Fits p (Record.size α)) :
    record α (s.moved p) =
      .ok (Record.readAt s.cursor.image p) (s.moved (p + Record.size α)) := by
  have hc := Cursor.readRecord_of_fits (s := s.cursor.source) h
  simp only [record, access, ParseState.moved, hc]

theorem record_of_not_fits (h : ¬ s.cursor.image.Fits p (Record.size α)) :
    record α (s.moved p) =
      .error (.rejected (.short ⟨p, Record.size α, s.cursor.image.size - p⟩))
        (s.moved (p + (s.cursor.image.size - p))) := by
  have hc := Cursor.readRecord_of_not_fits (s := s.cursor.source) h
  simp only [record, access, ParseState.moved, hc, ParseFailure.ofFault]

theorem record?_of_fits (h : s.cursor.image.Fits p (Record.size α)) :
    record? α (s.moved p) =
      .ok (some (Record.readAt s.cursor.image p)) (s.moved (p + Record.size α)) := by
  simp only [record?, record_of_fits h]

theorem record?_of_not_fits (h : ¬ s.cursor.image.Fits p (Record.size α)) :
    record? α (s.moved p) = .ok none (s.moved (p + (s.cursor.image.size - p))) := by
  simp only [record?, record_of_not_fits h]

end Records

/-- Keeping a record adds to what is collected and does nothing else, wherever the cursor is. -/
def Keeps (d : Image) (keep : α → Parse Unit) (f : α → Collected → Collected) : Prop :=
  ∀ (r : α) (s : ParseState) (p : Nat), s.cursor.image = d → p < Cursor.reach →
    keep r (s.moved p) = .ok () ((s.collecting (f r s.collected)).moved p)

theorem keeps_collect (d : Image) (f : α → Collected → Collected) :
    Keeps d (fun r => collect (f r)) f := by
  intro r s p _ _
  rfl

section Loops
variable [Record α] [Record.Readable α] {keep : α → Parse Unit} {f : α → Collected → Collected}

/-- A list that has to be complete is kept in full or stops the parse at what is missing. -/
theorem each_run {d : Image} (hk : Keeps d keep f) (count : Nat) {s : ParseState} {p : Nat}
    (hd : s.cursor.image = d) (hp : p + Record.size α * count < Cursor.reach) :
    match Record.readRun (α := α) d p count with
    | (rs, none) => ∃ q, each α keep count (s.moved p) =
        .ok () ((s.collecting (rs.foldl (fun c r => f r c) s.collected)).moved q)
    | (_, some short) => ∃ t, each α keep count (s.moved p) =
        .error (.rejected (.short short)) t ∧ t.notices = s.notices := by
  induction count generalizing s p with
  | zero => exact ⟨p, rfl⟩
  | succ count ih =>
    subst hd
    rw [Nat.mul_succ] at hp
    by_cases h : s.cursor.image.Fits p (Record.size α)
    · have hstep : each α keep (count + 1) (s.moved p) = each α keep count
          ((s.collecting (f (Record.readAt s.cursor.image p) s.collected)).moved
            (p + Record.size α)) := by
        have hp' : p + Record.size α < Cursor.reach := by omega
        rw [each, bind_ok (record_of_fits h), bind_ok (hk _ s _ rfl hp')]
      have hi := ih (s := s.collecting (f (Record.readAt s.cursor.image p) s.collected))
        (p := p + Record.size α) rfl (by omega)
      rw [Record.readRun_succ_of_fits h, hstep]
      rcases hr : Record.readRun (α := α) s.cursor.image (p + Record.size α) count with ⟨rs, cut⟩
      rw [hr] at hi
      cases cut with
      | none => exact hi
      | some short => exact hi
    · rw [Record.readRun_succ_of_not_fits h]
      refine ⟨s.moved (p + (s.cursor.image.size - p)), ?_, rfl⟩
      rw [each, bind_error (record_of_not_fits h)]

/-- A list that may be cut short is kept as far as it goes. -/
theorem eachUpTo_run {d : Image} (hk : Keeps d keep f) (cut : Nat → Notice) (count kept : Nat)
    {s : ParseState} {p : Nat} (hd : s.cursor.image = d)
    (hp : p + Record.size α * count < Cursor.reach) :
    ∃ q, eachUpTo α cut keep kept count (s.moved p) =
      .ok () (((s.collecting ((Record.readRun (α := α) d p count).1.foldl (fun c r => f r c)
          s.collected)).noting
        (Decoded.cutNotice (fun n => cut (kept + n)) (Record.readRun (α := α) d p count))).moved
          q) := by
  induction count generalizing s p kept with
  | zero => exact ⟨p, rfl⟩
  | succ count ih =>
    subst hd
    rw [Nat.mul_succ] at hp
    by_cases h : s.cursor.image.Fits p (Record.size α)
    · have hstep : eachUpTo α cut keep kept (count + 1) (s.moved p) =
          eachUpTo α cut keep (kept + 1) count
            ((s.collecting (f (Record.readAt s.cursor.image p) s.collected)).moved
              (p + Record.size α)) := by
        have hp' : p + Record.size α < Cursor.reach := by omega
        rw [eachUpTo, bind_ok (record?_of_fits h)]
        simp only [bind_ok (hk _ s _ rfl hp')]
      obtain ⟨q, hq⟩ := ih (kept + 1) (s := s.collecting
        (f (Record.readAt s.cursor.image p) s.collected)) (p := p + Record.size α) rfl (by omega)
      refine ⟨q, ?_⟩
      have hn : (fun n => cut (kept + 1 + n)) = fun n => cut (kept + (n + 1)) := by
        funext n
        rw [Nat.add_assoc, Nat.add_comm 1 n]
      rw [hstep, hq, Record.readRun_succ_of_fits h, hn]
      simp only [List.foldl_cons, Decoded.cutNotice_cons]
      rfl
    · refine ⟨p + (s.cursor.image.size - p), ?_⟩
      rw [Record.readRun_succ_of_not_fits h, eachUpTo, bind_ok (record?_of_not_fits h)]
      rfl

end Loops

theorem ranges64_run (count : Nat) (taken : Array MemoryRange64) {s : ParseState} {p : Nat} :
    ∃ q, ranges64 taken count (s.moved p) =
      .ok (taken ++ (Record.readRun (α := MemoryRange64) s.cursor.image p count).1.toArray)
        ((s.noting (Decoded.cutNotice (fun n => .memory64Cut (taken.size + n))
          (Record.readRun (α := MemoryRange64) s.cursor.image p count))).moved q) := by
  induction count generalizing taken p with
  | zero =>
    refine ⟨p, ?_⟩
    rw [Record.readRun, Record.readRunFrom, ranges64, Decoded.cutNotice, ParseState.noting_nil,
      List.reverse_nil, Array.append_empty]
    rfl
  | succ count ih =>
    by_cases h : s.cursor.image.Fits p (Record.size MemoryRange64)
    · obtain ⟨q, hq⟩ := ih (taken.push (Record.readAt s.cursor.image p))
        (p := p + Record.size MemoryRange64)
      have hn : (fun n => Notice.memory64Cut (taken.size + 1 + n)) =
          fun n => .memory64Cut (taken.size + (n + 1)) := by
        funext n
        rw [Nat.add_assoc, Nat.add_comm 1 n]
      refine ⟨q, ?_⟩
      rw [ranges64, bind_ok (record?_of_fits h)]
      simp only [hq, Record.readRun_succ_of_fits h, Decoded.cutNotice_cons, Array.size_push, hn]
      simp
    · refine ⟨p + (s.cursor.image.size - p), ?_⟩
      rw [Record.readRun_succ_of_not_fits h, ranges64, bind_ok (record?_of_not_fits h)]
      simp only [bind, EStateM.bind, Array.append_empty, Decoded.cutNotice, List.length_nil,
        Nat.add_zero]
      rfl

end Parse

end CrashDump
