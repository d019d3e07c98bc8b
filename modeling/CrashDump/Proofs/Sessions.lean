import CrashDump.Proofs.SpanReads

/-! # Sessions of several readers

However the queries to the readers of a dump are interleaved with one another and with the opening
of further readers, each reader gives what it gives to its own queries alone, and the dump stays as
it was.
-/
namespace CrashDump

namespace Query

theorem askAll_cons (m : Dump) (q : Query) (qs : List Query) (c : Cursor) :
    askAll m (q :: qs) c =
      ((q.ask m c).1 :: (askAll m qs (q.ask m c).2).1, (askAll m qs (q.ask m c).2).2) := rfl

theorem askAll_append (m : Dump) (ps qs : List Query) (c : Cursor) :
    askAll m (ps ++ qs) c =
      ((askAll m ps c).1 ++ (askAll m qs (askAll m ps c).2).1,
        (askAll m qs (askAll m ps c).2).2) := by
  induction ps generalizing c with
  | nil => rfl
  | cons p ps ih =>
    rw [List.cons_append, askAll_cons, ih, askAll_cons]
    rfl

end Query

namespace Session

/-- What the user of a session does next. -/
inductive Event where
  | openReader
  | ask (reader : Nat) (q : Query)

namespace Event

/-- How many readers there are after an event. -/
def readersAfter (count : Nat) : Event → Nat
  | openReader => count + 1
  | ask _ _ => count

/-- The query that an event puts to a reader, if the reader is one of those there are. -/
def queryTo? (reader count : Nat) : Event → Option Query
  | openReader => none
  | ask r q => if r = reader ∧ r < count then some q else none

/-- The queries that events put to a reader, where there are some readers at first. -/
def queriesTo (reader : Nat) : (count : Nat) → List Event → List Query
  | _, [] => []
  | count, e :: es =>
    (e.queryTo? reader count).toList ++ queriesTo reader (e.readersAfter count) es

end Event

/-- A reply comes with the number of the reader that gave it. -/
def happen (s : Session) : Event → List (Nat × Reply) × Session
  | .openReader => ([], s.openReader.2)
  | .ask reader q =>
    ((s.ask reader q).1.toList.map fun reply => (reader, reply), (s.ask reader q).2)

def run (s : Session) : List Event → List (Nat × Reply) × Session
  | [] => ([], s)
  | e :: es => ((s.happen e).1 ++ ((s.happen e).2.run es).1, ((s.happen e).2.run es).2)

def repliesFrom (reader : Nat) (replies : List (Nat × Reply)) : List Reply :=
  (replies.filter fun x => x.1 = reader).map (·.2)

theorem repliesFrom_append (reader : Nat) (xs ys : List (Nat × Reply)) :
    repliesFrom reader (xs ++ ys) = repliesFrom reader xs ++ repliesFrom reader ys := by
  unfold repliesFrom
  rw [List.filter_append, List.map_append]

/-- The cursor of a reader, and of one still to be opened the cursor that it will have. -/
def cursorOf (s : Session) (reader : Nat) : Cursor :=
  s.readers[reader]?.getD (Cursor.start s.image s.source)

/-! ## Steps -/

section Steps
variable {s : Session} {reader r : Nat} {q : Query}

theorem ask_of_lt (h : r < s.readers.length) :
    s.ask r q = (some (q.ask s.dump (s.cursorOf r)).1,
      { s with readers := s.readers.set r (q.ask s.dump (s.cursorOf r)).2 }) := by
  unfold ask cursorOf
  rw [List.getElem?_eq_getElem h]
  rfl

theorem ask_of_not_lt (h : ¬ r < s.readers.length) : s.ask r q = (none, s) := by
  unfold ask
  rw [List.getElem?_eq_none (Nat.le_of_not_lt h)]

theorem happen_ask_of_lt (h : r < s.readers.length) :
    s.happen (.ask r q) = ([(r, (q.ask s.dump (s.cursorOf r)).1)],
      { s with readers := s.readers.set r (q.ask s.dump (s.cursorOf r)).2 }) := by
  simp only [happen, ask_of_lt h, Option.toList_some, List.map_cons, List.map_nil]

theorem happen_ask_of_not_lt (h : ¬ r < s.readers.length) :
    s.happen (.ask r q) = ([], s) := by
  simp only [happen, ask_of_not_lt h, Option.toList_none, List.map_nil]

theorem dump_happen (s : Session) (e : Event) : (s.happen e).2.dump = s.dump := by
  cases e with
  | openReader => rfl
  | ask r q =>
    by_cases h : r < s.readers.length
    · rw [happen_ask_of_lt h]
    · rw [happen_ask_of_not_lt h]

theorem readers_happen (s : Session) (e : Event) :
    (s.happen e).2.readers.length = e.readersAfter s.readers.length := by
  cases e with
  | openReader => exact List.length_append
  | ask r q =>
    by_cases h : r < s.readers.length
    · rw [happen_ask_of_lt h]
      exact List.length_set
    · rw [happen_ask_of_not_lt h]
      rfl

theorem cursorOf_openReader (s : Session) (reader : Nat) :
    s.openReader.2.cursorOf reader = s.cursorOf reader := by
  unfold cursorOf openReader
  rw [List.getElem?_append]
  split
  · rfl
  · next h =>
    rw [List.getElem?_eq_none (Nat.le_of_not_lt h), List.getElem?_singleton]
    split <;> rfl

theorem cursorOf_set_self (h : r < s.readers.length) (c : Cursor) :
    cursorOf { s with readers := s.readers.set r c } r = c := by
  unfold cursorOf
  rw [List.getElem?_set_self h, Option.getD_some]

theorem cursorOf_set_ne (h : r ≠ reader) (c : Cursor) :
    cursorOf { s with readers := s.readers.set r c } reader = s.cursorOf reader := by
  unfold cursorOf
  rw [List.getElem?_set_ne h]

/-- In one step a reader gives what it gives to the query that is put to it, if any, and is left
where that query leaves it. -/
theorem happen_reader (s : Session) (e : Event) (reader : Nat) :
    (repliesFrom reader (s.happen e).1, (s.happen e).2.cursorOf reader) =
      Query.askAll s.dump (e.queryTo? reader s.readers.length).toList (s.cursorOf reader) := by
  cases e with
  | openReader =>
    unfold happen
    rw [cursorOf_openReader]
    rfl
  | ask r q =>
    by_cases h : r < s.readers.length
    · rw [happen_ask_of_lt h]
      by_cases hr : r = reader
      · subst hr
        have hq : Event.queryTo? r s.readers.length (.ask r q) = some q := if_pos ⟨rfl, h⟩
        rw [hq, cursorOf_set_self h]
        simp [repliesFrom, Query.askAll]
      · have hq : Event.queryTo? reader s.readers.length (.ask r q) = none :=
          if_neg fun hq => hr hq.1
        rw [hq, cursorOf_set_ne hr]
        simp [repliesFrom, Query.askAll, hr]
    · have hq : Event.queryTo? reader s.readers.length (.ask r q) = none :=
        if_neg fun hq => h hq.2
      rw [happen_ask_of_not_lt h, hq]
      rfl

end Steps

/-! ## Runs -/

theorem dump_run (s : Session) (es : List Event) : (s.run es).2.dump = s.dump := by
  induction es generalizing s with
  | nil => rfl
  | cons e es ih => exact (ih (s.happen e).2).trans (s.dump_happen e)

/-- What a reader gives in a run, and where the run leaves it, are those of its own queries. -/
theorem run_reader (s : Session) (es : List Event) (reader : Nat) :
    (repliesFrom reader (s.run es).1, (s.run es).2.cursorOf reader) =
      Query.askAll s.dump (Event.queriesTo reader s.readers.length es) (s.cursorOf reader) := by
  induction es generalizing s with
  | nil => rfl
  | cons e es ih =>
    obtain ⟨hreplies, hcursor⟩ := Prod.ext_iff.mp (s.happen_reader e reader)
    have hrest := ih (s.happen e).2
    dsimp only at hreplies hcursor
    rw [dump_happen, readers_happen, hcursor] at hrest
    unfold run Event.queriesTo
    rw [repliesFrom_append, Query.askAll_append, ← hrest, hreplies]

theorem queriesTo_of_ne {r reader : Nat} (h : r ≠ reader) (q : Query) (count : Nat)
    (before after : List Event) :
    Event.queriesTo reader count (before ++ .ask r q :: after) =
      Event.queriesTo reader count (before ++ after) := by
  induction before generalizing count with
  | nil =>
    have hq : Event.queryTo? reader count (.ask r q) = none := if_neg fun hq => h hq.1
    rw [List.nil_append, List.nil_append, Event.queriesTo, hq]
    rfl
  | cons e es ih =>
    rw [List.cons_append, List.cons_append, Event.queriesTo, Event.queriesTo, ih]

/-- In a session each reader replies, and is left in the end, as a fresh reader that is put its
queries alone, whatever is asked of the others in between, and the dump is still the same. -/
theorem readers_independent (d : Image) (source : Source) (m : Dump) (es : List Event) :
    (∀ reader,
      (repliesFrom reader ((start d source m).run es).1,
          ((start d source m).run es).2.cursorOf reader) =
        Query.askAll m (Event.queriesTo reader 1 es) (Cursor.start d source)) ∧
      (∀ before r q after reader, es = before ++ .ask r q :: after → r ≠ reader →
        repliesFrom reader ((start d source m).run es).1 =
            repliesFrom reader ((start d source m).run (before ++ after)).1 ∧
          ((start d source m).run es).2.cursorOf reader =
            ((start d source m).run (before ++ after)).2.cursorOf reader) ∧
      ((start d source m).run es).2.dump = m := by
  have halone (es : List Event) (reader : Nat) :
      (repliesFrom reader ((start d source m).run es).1,
          ((start d source m).run es).2.cursorOf reader) =
        Query.askAll m (Event.queriesTo reader 1 es) (Cursor.start d source) := by
    have hc : (start d source m).cursorOf reader = Cursor.start d source := by
      unfold cursorOf start
      rw [List.getElem?_singleton]
      split <;> rfl
    rw [run_reader, hc]
    rfl
  refine ⟨halone es, ?_, dump_run _ es⟩
  intro before r q after reader he hr
  subst he
  have h := halone (before ++ .ask r q :: after) reader
  rw [queriesTo_of_ne hr, ← halone (before ++ after) reader] at h
  exact Prod.ext_iff.mp h

/-- A second reader is opened and closed while the first one is in use. -/
theorem twoMemories_readers_independent :
    ∃ m, (Dump.parse .memory Dump.twoMemories).result = .ok m ∧
      repliesFrom 0 ((start Dump.twoMemories .memory m).run ([.openReader, .ask 0 (.seek 50)] ++
          .ask 1 .close :: [.ask 0 (.memory 0x9001 5)])).1 =
        (Query.askAll m [.seek 50, .memory 0x9001 5] (Cursor.start Dump.twoMemories .memory)).1 ∧
      repliesFrom 0 ((start Dump.twoMemories .memory m).run ([.openReader, .ask 0 (.seek 50)] ++
          .ask 1 .close :: [.ask 0 (.memory 0x9001 5)])).1 =
        repliesFrom 0 ((start Dump.twoMemories .memory m).run ([.openReader, .ask 0 (.seek 50)] ++
          [.ask 0 (.memory 0x9001 5)])).1 := by
  obtain ⟨halone, hother, -⟩ := readers_independent Dump.twoMemories .memory
    (Dump.inPlace Dump.twoMemories) ([.openReader, .ask 0 (.seek 50)] ++
      .ask 1 .close :: [.ask 0 (.memory 0x9001 5)])
  have hq : Event.queriesTo 0 1 ([.openReader, .ask 0 (.seek 50)] ++
      .ask 1 .close :: [.ask 0 (.memory 0x9001 5)]) = [.seek 50, .memory 0x9001 5] := rfl
  have hzero := (Prod.ext_iff.mp (halone 0)).1
  rw [hq] at hzero
  refine ⟨_, Dump.twoMemories_parses, hzero, ?_⟩
  exact (hother _ 1 .close _ 0 rfl (by decide)).1

end Session

end CrashDump
