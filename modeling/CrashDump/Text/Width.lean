import CrashDump.Bytes.Room

/-! # Field widths

The widths that a field of padded text can be asked for, and those that it can have.
-/
namespace CrashDump

inductive WidthFault where
  | invalid
  | noRoom
deriving DecidableEq, Repr

def widthLimit : Nat := 0x8000000000000000

/-- No field is narrower than nothing or wider than its limit, and its text takes room. -/
def fieldWidth (room : Room) (width : Int) : Except WidthFault Nat :=
  if width < 0 ∨ (widthLimit : Int) ≤ width then .error .invalid
  else if (room.limit : Int) ≤ width then .error .noRoom
  else .ok width.toNat

def inRoom (room : Room) (t : String) : Except WidthFault String :=
  if room.limit ≤ t.length then .error .noRoom else .ok t

end CrashDump
