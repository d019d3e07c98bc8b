import CrashDump.Proofs.SpanReads

/-! # Runs of a reader

Queries are put to a reader in turn, in any order and with any arguments, and some of them fail.
Until the reader is closed it stands where the last seek that succeeded took it, and every query
but a seek is answered as a fresh reader would have answered it.
-/
namespace CrashDump

structure Exchange where
  query : Query
  reply : Reply

namespace Exchange

def sought? (x : Exchange) : Option Int :=
  match x.query, x.reply.outcome with
  | .seek offset, .ok _ => some offset
  | _, _ => none

/-- Where the last seek that succeeded took the reader, or else where it stood at first. -/
def lastSought (first : Int) (xs : List Exchange) : Int :=
  (xs.filterMap sought?).getLast?.getD first

theorem lastSought_cons (first : Int) (x : Exchange) (xs : List Exchange) :
    lastSought first (x :: xs) = lastSought (x.sought?.getD first) xs := by
  unfold lastSought
  cases hx : x.sought? with
  | none => rw [List.filterMap_cons_none hx, Option.getD_none]
  | some offset =>
    rw [List.filterMap_cons_some hx, List.getLast?_cons, Option.getD_some, Option.getD_some]

end Exchange

namespace Query

def exchanges (m : Dump) (qs : List Query) (c : Cursor) : List Exchange :=
  qs.zipWith Exchange.mk (askAll m qs c).1

variable {m : Dump} {d : Image} {s : Source} {p : Nat} {q : Query}

theorem exchanges_cons (m : Dump) (q : Query) (qs : List Query) (c : Cursor) :
    exchanges m (q :: qs) c = ⟨q, (q.ask m c).1⟩ :: exchanges m qs (q.ask m c).2 := rfl

theorem ask_open (hp : p < Cursor.reach) (hq : q ≠ close) :
    ∃ p' < Cursor.reach, (q.ask m ⟨d, some p, s⟩).1.place = some p' ∧
      (q.ask m ⟨d, some p, s⟩).2 = ⟨d, some p', s⟩ ∧
      (Exchange.mk q (q.ask m ⟨d, some p, s⟩).1).sought?.getD p = (p' : Int) := by
  by_cases hm : q.moves = false
  · obtain ⟨x, hx, -⟩ := ask_rests (m := m) (Cursor.alike_of_lt (d := d) (s := s) hp hp) hm
    refine ⟨p, hp, by rw [hx], by rw [hx], ?_⟩
    cases q with
    | seek offset => cases hm
    | _ => rfl
  · cases q with
    | seek offset =>
      obtain ⟨p', hp', rfl, hs⟩ | ⟨f, hf⟩ := Cursor.seek_open offset
      · exact ⟨p', hp', by rw [ask_seek, hs], by rw [ask_seek, hs], by rw [ask_seek, hs]; rfl⟩
      · exact ⟨p, hp, by rw [ask_seek, hf], by rw [ask_seek, hf], by rw [ask_seek, hf]; rfl⟩
    | close => exact absurd rfl hq
    | _ => exact absurd rfl hm

theorem outcome_of_rests {p' : Nat} (hp : p < Cursor.reach) (hp' : p' < Cursor.reach)
    (hm : q.moves = false) :
    (q.ask m ⟨d, some p, s⟩).1.outcome = (q.ask m ⟨d, some p', s⟩).1.outcome := by
  obtain ⟨x, hx, hx'⟩ := ask_rests (m := m) (Cursor.alike_of_lt (d := d) (s := s) hp hp') hm
  rw [hx, hx']

theorem exchange_from {qs : List Query} {pre post : List Exchange} {x : Exchange}
    (hp : p < Cursor.reach) (h : exchanges m qs ⟨d, some p, s⟩ = pre ++ x :: post)
    (ho : ∀ y ∈ pre ++ [x], y.query ≠ close) :
    (∃ place : Nat, x.reply.place = some place ∧ Exchange.lastSought p (pre ++ [x]) = place) ∧
      ((∀ offset, x.query ≠ seek offset) →
        x.reply.outcome = (x.query.ask m (Cursor.start d s)).1.outcome) := by
  induction pre generalizing qs p with
  | nil =>
    cases qs with
    | nil => cases h
    | cons q qs =>
      rw [exchanges_cons] at h
      cases h
      have hq : q ≠ close := ho _ List.mem_cons_self
      obtain ⟨p', -, hplace, -, hs⟩ := ask_open (m := m) (d := d) (s := s) hp hq
      refine ⟨⟨p', hplace, ?_⟩, fun hx => ?_⟩
      · rw [List.nil_append, Exchange.lastSought_cons, hs]
        rfl
      · refine outcome_of_rests hp (by decide) ?_
        cases q with
        | seek offset => exact absurd rfl (hx offset)
        | close => exact absurd rfl hq
        | _ => rfl
  | cons y pre ih =>
    cases qs with
    | nil => cases h
    | cons q qs =>
      rw [exchanges_cons, List.cons_append] at h
      obtain ⟨rfl, hrest⟩ := List.cons.inj h
      have hq : q ≠ close := ho _ List.mem_cons_self
      obtain ⟨p', hp', -, hc, hs⟩ := ask_open (m := m) (d := d) (s := s) hp hq
      rw [hc] at hrest
      obtain ⟨hplace, hx⟩ := ih hp' hrest fun z hz => ho z (List.mem_cons_of_mem _ hz)
      refine ⟨?_, hx⟩
      rwa [List.cons_append, Exchange.lastSought_cons, hs]

/-- As long as a reader is not closed, it stands after each query where the last successful seek
took it, at the start if there was none, and each query but a seek has the outcome that it would
have had with a fresh reader. -/
theorem exchange_of_open {source : Source} {qs : List Query} {pre post : List Exchange}
    {x : Exchange} (h : exchanges m qs (Cursor.start d source) = pre ++ x :: post)
    (ho : ∀ y ∈ pre ++ [x], y.query ≠ close) :
    (∃ place : Nat, x.reply.place = some place ∧ Exchange.lastSought 0 (pre ++ [x]) = place) ∧
      ((∀ offset, x.query ≠ seek offset) →
        x.reply.outcome = (x.query.ask m (Cursor.start d source)).1.outcome) :=
  exchange_from (by decide) h ho

theorem exchanges_two_seeks (m : Dump) (d : Image) (q : Query) :
    exchanges m [.seek 50, .seek (-1), q] (Cursor.start d .memory) =
      [⟨.seek 50, .ok .done, some 50⟩, ⟨.seek (-1), .error .negativeSeek, some 50⟩] ++
        ⟨q, (q.ask m ⟨d, some 50, .memory⟩).1⟩ :: [] := rfl

/-- After a seek that failed a read still begins and ends where the one before it went. -/
theorem twoMemories_exchange : ∃ m reply, (Dump.parse .memory Dump.twoMemories).result = .ok m ∧
    exchanges m [.seek 50, .seek (-1), .memory 0x9001 5] (Cursor.start Dump.twoMemories .memory) =
      [⟨.seek 50, .ok .done, some 50⟩, ⟨.seek (-1), .error .negativeSeek, some 50⟩] ++
        ⟨.memory 0x9001 5, reply⟩ :: [] ∧
    reply.place = some 50 ∧ reply.outcome =
      ((Query.memory 0x9001 5).ask m (Cursor.start Dump.twoMemories .memory)).1.outcome := by
  have h := exchanges_two_seeks (Dump.inPlace Dump.twoMemories) Dump.twoMemories
    (.memory 0x9001 5)
  obtain ⟨⟨place, hplace, hlast⟩, houtcome⟩ := exchange_of_open h (by simp)
  have hfifty (reply : Reply) : Exchange.lastSought 0
      ([⟨.seek 50, .ok .done, some 50⟩, ⟨.seek (-1), .error .negativeSeek, some 50⟩] ++
        [⟨.memory 0x9001 5, reply⟩]) = 50 := rfl
  rw [hfifty] at hlast
  obtain rfl : place = 50 := by omega
  dsimp only at hplace houtcome
  refine ⟨_, _, Dump.twoMemories_parses, h, hplace, houtcome ?_⟩
  intro offset hx
  cases hx

end Query

end CrashDump
