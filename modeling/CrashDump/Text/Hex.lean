import CrashDump.Text.Width

/-! # Hexadecimal text

Three written forms of a number in base sixteen. They differ in where a minus sign goes
and in how zeros fill the width.
-/
namespace CrashDump.Hex

/-- At least `width` characters; the sign comes first and counts, zeros follow it. -/
def padded (v : Int) (width : Nat) : List Char :=
  let ds := Nat.toDigits 16 v.natAbs
  if v < 0 then '-' :: (List.replicate (width - 1 - ds.length) '0' ++ ds)
  else List.replicate (width - ds.length) '0' ++ ds

/-- The base mark stands before the sign. -/
def wide (v : Int) (width : Nat) : String := String.ofList ('0' :: 'x' :: padded v width)

def text (v : Int) : String := wide v 0

/-- The base mark stands after the sign. -/
def signed (v : Int) : String :=
  String.ofList ((if v < 0 then ['-'] else []) ++ '0' :: 'x' :: Nat.toDigits 16 v.natAbs)

def word (v : UInt32) : String :=
  String.ofList ('0' :: 'x' :: (padded v.toNat 8).map Char.toUpper)

def field (room : Room) (value : Option Int) (width : Int) : Except WidthFault String :=
  match value with
  | none => .ok "N/A"
  | some v => fieldWidth room width >>= fun n => inRoom room (wide v n)

def byte (b : UInt8) : List Char :=
  [Nat.digitChar (b.toNat / 16), Nat.digitChar (b.toNat % 16)]

end CrashDump.Hex
