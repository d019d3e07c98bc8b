import CrashDump.Cursor.Basic
import CrashDump.Format.Catalog

/-! # Cursor scripts

A script is a list of steps on one cursor. At the top a failed step does not stop the
later ones; inside a saved block it ends the block and every block around it.
-/
namespace CrashDump.Cursor

inductive Step where
  | seek (offset : Int)
  | tell
  | read (count : Int)
  | record (kind : RecordKind)
  | name (rva : Int)
  | close
  | saved (block : List Step)

inductive Value where
  | nothing
  | position (p : Nat)
  | bytes (b : Image)
  | record (r : AnyRecord)
  | name (n : Option String)

inductive Trace where
  | value (v : Value) (place : Option Nat)
  | failed (f : Fault) (place : Option Nat)
  | block (inner : List Trace) (fault : Option Fault) (place : Option Nat)

namespace Trace

def fault? : Trace → Option Fault
  | value _ _ => none
  | failed f _ => some f
  | block _ f _ => f

end Trace

def traceOf (access : Access Value) (c : Cursor) : Trace × Cursor :=
  match access c with
  | .ok v c' => (.value v c'.place, c')
  | .error f c' => (.failed f c'.place, c')

mutual

def Step.run (c : Cursor) : Step → Trace × Cursor
  | .seek offset => traceOf (do Cursor.seek offset; return .nothing) c
  | .tell => traceOf (do return .position (← Cursor.tell)) c
  | .read count => traceOf (do return .bytes (← readExact count)) c
  | .record kind => traceOf (do return .record ⟨kind, ← readRecord kind.Carrier⟩) c
  | .name rva => traceOf (do return .name (← readName rva)) c
  | .close => traceOf (do Cursor.close; return .nothing) c
  | .saved block => match c.place with
    | none => (.block [] (some .closed) none, c)
    | some p =>
      let (inner, fault, c') := runBlock c block
      match Cursor.seek p c' with
      | .ok () c'' => (.block inner fault c''.place, c'')
      | .error f c'' => (.block inner (some f) c''.place, c'')

/-- Runs steps up to the first that fails. -/
def runBlock (c : Cursor) : List Step → List Trace × Option Fault × Cursor
  | [] => ([], none, c)
  | s :: rest =>
    let (t, c') := s.run c
    match t.fault? with
    | some f => ([t], some f, c')
    | none =>
      let (ts, fault, c'') := runBlock c' rest
      (t :: ts, fault, c'')

end

/-- Runs all steps, whether or not they fail. -/
def runScript (c : Cursor) : List Step → List Trace × Cursor
  | [] => ([], c)
  | s :: rest =>
    let (t, c') := s.run c
    let (ts, c'') := runScript c' rest
    (t :: ts, c'')

end CrashDump.Cursor
