import CrashDump.Dump.Session
import CrashDump.Proofs.CursorAccess

/-! # Reads leave the reader at rest

Queries move a reader by a seek alone. Every other one ends with the reader as it was, whether it
succeeds or fails, and comes to the same wherever an open reader stands. So a reader stays on its
image, at a place that its source can take, until it is closed.
-/
namespace CrashDump

variable {α β : Type}

namespace Cursor

/-- The cursor is closed or at a place that a source can take. -/
def InReach (c : Cursor) : Prop := ∀ p, c.place = some p → p < reach

theorem inReach_of_lt {d : Image} {s : Source} {p : Nat} (h : p < reach) :
    InReach ⟨d, some p, s⟩ := by
  intro q hq
  cases hq
  exact h

/-- A reader's cursor on an image, open or closed. -/
structure ReaderOn (d : Image) (s : Source) (c : Cursor) : Prop where
  image : c.image = d
  source : c.source = s
  inReach : c.InReach

/-- The cursor of an open reader on an image. -/
structure OpenOn (d : Image) (s : Source) (c : Cursor) : Prop extends ReaderOn d s c where
  isOpen : c.place ≠ none

theorem OpenOn.eq {d : Image} {s : Source} {c : Cursor} (h : c.OpenOn d s) :
    ∃ p < reach, c = ⟨d, some p, s⟩ := by
  obtain ⟨⟨rfl, rfl, hr⟩, ho⟩ := h
  obtain ⟨p, hp⟩ := Option.ne_none_iff_exists'.mp ho
  exact ⟨p, hr p hp, by rw [← hp]⟩

theorem openOn_start (d : Image) (s : Source) : (start d s).OpenOn d s where
  image := rfl
  source := rfl
  inReach := inReach_of_lt (by decide)
  isOpen := by
    intro hp
    cases hp

/-- Two states of the cursor of a reader, closed in both or open in both. -/
structure Alike (c c' : Cursor) : Prop where
  image : c.image = c'.image
  source : c.source = c'.source
  isOpen : c.place.isSome = c'.place.isSome
  left : c.InReach
  right : c'.InReach

theorem InReach.alike {c : Cursor} (h : c.InReach) : c.Alike c := ⟨rfl, rfl, rfl, h, h⟩

theorem alike_of_lt {d : Image} {s : Source} {p q : Nat} (hp : p < reach) (hq : q < reach) :
    Alike ⟨d, some p, s⟩ ⟨d, some q, s⟩ :=
  ⟨rfl, rfl, rfl, inReach_of_lt hp, inReach_of_lt hq⟩

end Cursor

namespace Access

/-- An access that moves an open cursor at most. -/
def StaysOpen (a : Access α) : Prop :=
  ∀ d p s, ∃ q r, a ⟨d, some p, s⟩ = Cursor.result ⟨d, some q, s⟩ r

/-- An access that comes to the same wherever an open cursor stands. -/
def Placeless (a : Access α) : Prop :=
  ∀ d s, ∃ r, ∀ p, ∃ q, a ⟨d, some p, s⟩ = Cursor.result ⟨d, some q, s⟩ r

/-- An access that comes to the same at either cursor and does not even move it. -/
def Rests (a : Access α) (c c' : Cursor) : Prop := ∃ r, a c = c.result r ∧ a c' = c'.result r

variable {c c' : Cursor}

theorem rests_pure (x : α) (c c' : Cursor) : Rests (pure x) c c' := ⟨.ok x, rfl, rfl⟩

theorem rests_throw (f : Fault) (c c' : Cursor) : Rests (throw f : Access α) c c' :=
  ⟨.error f, rfl, rfl⟩

theorem Rests.bind {a : Access α} {f : α → Access β} (ha : a.Rests c c')
    (hf : ∀ x, (f x).Rests c c') : (a >>= f).Rests c c' := by
  obtain ⟨r, h, h'⟩ := ha
  cases r with
  | ok x =>
    obtain ⟨r', hx, hx'⟩ := hf x
    exact ⟨r', by rw [bind_ok h, hx], by rw [bind_ok h', hx']⟩
  | error e => exact ⟨.error e, bind_error h, bind_error h'⟩

end Access

namespace Cursor

/-- Whether a position can be taken does not depend on where an open cursor stands. -/
theorem seek_open (offset : Int) :
    (∃ q < reach, offset = (q : Nat) ∧
        ∀ d p s, seek offset ⟨d, some p, s⟩ = .ok () ⟨d, some q, s⟩) ∨
      ∃ f, ∀ d p s, seek offset ⟨d, some p, s⟩ = .error f ⟨d, some p, s⟩ := by
  by_cases hr : offset < -(reach : Int) ∨ (reach : Int) ≤ offset
  · exact .inr ⟨.tooFar, fun d p s => by rw [seek, if_pos hr]⟩
  · by_cases hn : offset < 0
    · refine .inr ⟨.negativeSeek, fun d p s => ?_⟩
      simp only [seek, if_neg hr, Option.isNone_some, Bool.false_eq_true, if_false, if_pos hn]
    · obtain ⟨q, rfl⟩ := Int.eq_ofNat_of_zero_le (Int.not_lt.mp hn)
      have hq : q < reach := by omega
      exact .inl ⟨q, hq, rfl, fun d p s => seek_eq hq⟩

theorem seek_closed (offset : Int) (d : Image) (s : Source) :
    ∃ f, seek offset ⟨d, none, s⟩ = .error f ⟨d, none, s⟩ := by
  by_cases hr : offset < -(reach : Int) ∨ (reach : Int) ≤ offset
  · exact ⟨.tooFar, by rw [seek, if_pos hr]⟩
  · exact ⟨.closed, by rw [seek, if_neg hr]; rfl⟩

/-- After a seek it no longer matters where the cursor stood. -/
theorem placeless_seek_bind (offset : Int) {f : Unit → Access α} (hf : (f ()).StaysOpen) :
    (seek offset >>= f).Placeless := by
  intro d s
  obtain ⟨q, -, -, h⟩ | ⟨e, h⟩ := seek_open offset
  · obtain ⟨q', r, hr⟩ := hf d q s
    exact ⟨r, fun p => ⟨q', by rw [bind_ok (h d p s), hr]⟩⟩
  · exact ⟨.error e, fun p => ⟨p, bind_error (h d p s)⟩⟩

theorem staysOpen_readExact (count : Int) : (readExact count).StaysOpen := by
  intro d p s
  by_cases hc : count < 0
  · exact ⟨p, .error (.negativeCount count), by rw [readExact, if_pos hc]; rfl⟩
  · obtain ⟨n, rfl⟩ := Int.eq_ofNat_of_zero_le (Int.not_lt.mp hc)
    cases hs : s.refusal? n with
    | some f => exact ⟨p, .error f, readExact_of_refusal hs⟩
    | none =>
      by_cases hn : n ≤ d.size - p
      · exact ⟨p + n, .ok (d.slice p n), readExact_of_le hs hn⟩
      · exact ⟨p + (d.size - p), .error (.short ⟨p, n, d.size - p⟩),
          readExact_of_lt hs (Nat.lt_of_not_le hn)⟩

theorem rests_saved {block : Access α} {c c' : Cursor} (hc : c.Alike c')
    (hb : block.Placeless) : (saved block).Rests c c' := by
  obtain ⟨d, place, s⟩ := c
  obtain ⟨d', place', s'⟩ := c'
  obtain ⟨rfl, rfl, ho, hl, hr⟩ := hc
  cases place with
  | none =>
    cases place' with
    | none => exact ⟨.error .closed, rfl, rfl⟩
    | some p' => cases ho
  | some p =>
    cases place' with
    | none => cases ho
    | some p' =>
      obtain ⟨r, hr'⟩ := hb d s
      obtain ⟨q, hq⟩ := hr' p
      obtain ⟨q', hq'⟩ := hr' p'
      exact ⟨r, saved_eq (hl p rfl) hq, saved_eq (hr p' rfl) hq'⟩

end Cursor

namespace Dump
variable {m : Dump} {c c' : Cursor} (hc : c.Alike c')
include hc

theorem readMemory_rests (address size : Int) : (m.readMemory address size).Rests c c' := by
  rw [readMemory]
  split
  · exact Access.rests_throw _ c c'
  · split
    · exact Access.rests_throw _ c c'
    · split
      · refine Cursor.rests_saved hc (Cursor.placeless_seek_bind _ ?_)
        intro d p s
        obtain ⟨q, r, h⟩ := Cursor.staysOpen_readExact size d p s
        simp only [h]
        cases r with
        | ok b => exact ⟨q, .ok b, rfl⟩
        | error f =>
          cases f with
          | short read => exact ⟨q, .error (.unmapped address size), rfl⟩
          | _ => exact ⟨q, .error _, rfl⟩
      · exact Access.rests_throw _ c c'

theorem readPointer_rests (address : Int) : (m.readPointer address).Rests c c' := by
  obtain ⟨r, h, h'⟩ := readMemory_rests (m := m) hc address m.pointerSize
  rw [Access.Rests]
  simp only [readPointer, h, h']
  cases r with
  | ok b => exact ⟨.ok (some _), rfl, rfl⟩
  | error f =>
    cases f with
    | unmapped a n => exact ⟨.ok none, rfl, rfl⟩
    | short read => exact ⟨.ok none, rfl, rfl⟩
    | _ => exact ⟨.error _, rfl, rfl⟩

theorem readText_rests (address maxLength : Int) : (m.readText address maxLength).Rests c c' := by
  obtain ⟨r, h, h'⟩ := readMemory_rests (m := m) hc address maxLength
  rw [Access.Rests]
  simp only [readText, h, h']
  cases r with
  | ok b => exact ⟨.ok _, rfl, rfl⟩
  | error f =>
    by_cases hf : f.isFatal c.source
    · have hf' : f.isFatal c'.source := hc.source ▸ hf
      exact ⟨.error f, by simp [Cursor.result, hf], by simp [Cursor.result, hf']⟩
    · have hf' : ¬ f.isFatal c'.source := hc.source ▸ hf
      exact ⟨.ok "", by simp [Cursor.result, hf], by simp [Cursor.result, hf']⟩

theorem readSegments_rests (ss : List Segment) :
    ∃ chunks fault, m.readSegments ss c = (chunks, fault, c) ∧
      m.readSegments ss c' = (chunks, fault, c') := by
  induction ss with
  | nil => exact ⟨[], none, rfl, rfl⟩
  | cons s rest ih =>
    obtain ⟨chunks, fault, hx, hx'⟩ := ih
    obtain ⟨r, h, h'⟩ := readMemory_rests (m := m) hc s.start s.size
    cases r with
    | ok b =>
      exact ⟨(s, b) :: chunks, fault, by simp only [readSegments, readSegment, h, Cursor.result, hx],
        by simp only [readSegments, readSegment, h', Cursor.result, hx']⟩
    | error f =>
      exact ⟨[], some f, by simp only [readSegments, readSegment, h, Cursor.result],
        by simp only [readSegments, readSegment, h', Cursor.result]⟩

end Dump

namespace Query
variable {m : Dump} {c c' : Cursor} {d : Image} {s : Source}

theorem iterate_rests (hc : c.Alike c') (ss : List Segment) : (iterate m ss).Rests c c' := by
  obtain ⟨chunks, fault, h, h'⟩ := Dump.readSegments_rests (m := m) hc ss
  exact ⟨.ok (.chunks chunks fault), by simp only [iterate, h, Cursor.result],
    by simp only [iterate, h', Cursor.result]⟩

/-- Whether a query acts on the cursor of its reader. -/
def moves : Query → Bool
  | seek _ => true
  | close => true
  | _ => false

theorem run_rests (hc : c.Alike c') {q : Query} (hq : q.moves = false) :
    (q.run m).Rests c c' := by
  cases q with
  | seek offset => cases hq
  | close => cases hq
  | memory a n => exact (Dump.readMemory_rests hc a n).bind fun _ => Access.rests_pure _ c c'
  | pointer a => exact (Dump.readPointer_rests hc a).bind fun _ => Access.rests_pure _ c c'
  | text a n => exact (Dump.readText_rests hc a n).bind fun _ => Access.rests_pure _ c c'
  | segmentBytes s =>
    exact (Dump.readMemory_rests hc s.start s.size).bind fun _ => Access.rests_pure _ c c'
  | allSegments => exact iterate_rests hc m.segments
  | someSegments first count => exact iterate_rests hc ((m.segments.drop first).take count)
  | _ => exact Access.rests_pure _ c c'

/-- One query leaves its reader as it was, unless it is a seek or a close, and the answer does not
depend on where the reader stands. -/
theorem ask_rests (hc : c.Alike c') {q : Query} (hq : q.moves = false) :
    ∃ x, q.ask m c = (⟨x, c.place⟩, c) ∧ q.ask m c' = (⟨x, c'.place⟩, c') := by
  obtain ⟨r, h, h'⟩ := run_rests (m := m) hc hq
  refine ⟨r, ?_⟩
  cases r with
  | ok a => exact ⟨by simp only [ask, h, Cursor.result], by simp only [ask, h', Cursor.result]⟩
  | error f => exact ⟨by simp only [ask, h, Cursor.result], by simp only [ask, h', Cursor.result]⟩

theorem ask_seek (offset : Int) : (seek offset).ask m c =
    match Cursor.seek offset c with
    | .ok () c' => (⟨.ok .done, c'.place⟩, c')
    | .error f c' => (⟨.error f, c'.place⟩, c') := by
  simp only [ask, run, bind, EStateM.bind]
  cases Cursor.seek offset c <;> rfl

/-- A reader on an image is still one after a query, and is within reach of its source. -/
theorem ask_readerOn (h : c.ReaderOn d s) (q : Query) : (q.ask m c).2.ReaderOn d s := by
  by_cases hq : q.moves = false
  · obtain ⟨x, hx, -⟩ := ask_rests (m := m) h.inReach.alike hq
    rwa [hx]
  · cases q with
    | seek offset =>
      obtain ⟨d', place, s'⟩ := c
      rw [ask_seek]
      cases place with
      | none =>
        obtain ⟨f, hf⟩ := Cursor.seek_closed offset d' s'
        rwa [hf]
      | some p =>
        obtain ⟨q, hq, -, hs⟩ | ⟨f, hf⟩ := Cursor.seek_open offset
        · rw [hs]
          exact ⟨h.image, h.source, Cursor.inReach_of_lt hq⟩
        · rwa [hf]
    | close =>
      refine ⟨h.image, h.source, ?_⟩
      intro p hp
      cases hp
    | _ => exact absurd rfl hq

/-- Whatever queries are put to a reader, it stays a reader on its image. -/
theorem askAll_readerOn (h : c.ReaderOn d s) (qs : List Query) :
    (askAll m qs c).2.ReaderOn d s := by
  induction qs generalizing c with
  | nil => exact h
  | cons q qs ih => exact ih (ask_readerOn h q)

end Query

end CrashDump
