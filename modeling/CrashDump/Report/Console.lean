import CrashDump.Report.Table

/-! # Consoles

What is printed goes to a console, which reads it for markup: a tag in brackets is taken for a
style, two colons may stand for a picture, and a closing tag that nothing opened is a fault. What
comes of text with markup in it is up to the console. So are colours and the breaking of lines.
-/
namespace CrashDump

inductive Printed where
  | text (s : String)
  | table (t : Table)
deriving DecidableEq, Repr

namespace Markup

def isShown (c : Char) : Bool := c = '\n' || ' ' ≤ c && c ≤ '~'

/-- Text in which there is no markup, whatever stands before it. -/
def isInert (s : String) : Bool :=
  s.toList.all fun c => isShown c && c != '[' && c != ']' && c != ':'

/-- Text in which there is no markup. One colon alone stands for nothing else. -/
def isPlain (s : String) : Bool :=
  s.toList.all (fun c => isShown c && c != '[') && s.toList.count ':' ≤ 1

end Markup

structure Console where
  /-- What is shown of a text, if its markup has no fault. -/
  read? : String → Option String
  plain : ∀ s, Markup.isPlain s → read? s = some s
  inert : ∀ s t, Markup.isInert t → read? (s ++ t) = (read? s).map (· ++ t)

namespace Console

def readTable? (k : Console) (t : Table) : Option Table := do
  return ⟨← k.read? t.title, ← t.columns.mapM k.read?, ← t.rows.mapM fun row => row.mapM k.read?⟩

def show? (k : Console) : Printed → Option Printed
  | .text s => .text <$> k.read? s
  | .table t => .table <$> k.readTable? t

/-- What is shown of some items, one after the other up to the first that has a fault, and whether
there is none. -/
def showAll (k : Console) : List Printed → List Printed × Bool
  | [] => ([], true)
  | p :: ps => match k.show? p with
    | none => ([], false)
    | some q =>
      let (qs, whole) := k.showAll ps
      (q :: qs, whole)

def verbatim : Console where
  read? := some
  plain _ _ := rfl
  inert _ _ _ := rfl

end Console

end CrashDump
