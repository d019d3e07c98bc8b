import CrashDump.Text.Hex

/-! # Hex dumps

Each line shows the address of its first byte, the bytes in hexadecimal and the bytes as
characters, with both columns at a fixed place on every line.
-/
namespace CrashDump.HexDump

def visible (b : UInt8) : Char := if 0x20 ≤ b ∧ b < 0x7F then Char.ofNat b.toNat else '.'

def padRight (width : Nat) (cs : List Char) : List Char :=
  cs ++ List.replicate (width - cs.length) ' '

def line (width : Nat) (address : Int) (bytes : List UInt8) : List Char :=
  Hex.padded address 16 ++ ' ' :: ' ' ::
    (padRight (3 * width) (List.intercalate [' '] (bytes.map Hex.byte)) ++
      ' ' :: bytes.map visible)

def lines (width : Nat) (address : Int) (bytes : List UInt8) : List (List Char) :=
  if _h : width = 0 ∨ bytes = [] then []
  else line width address (bytes.take width) ::
    lines width (address + width) (bytes.drop width)
termination_by bytes.length
decreasing_by
  have : 0 < bytes.length := List.length_pos_iff.mpr fun hb => _h (Or.inr hb)
  simp only [List.length_drop]
  omega

def text (width : Nat) (address : Int) (bytes : List UInt8) : String :=
  String.ofList (List.intercalate ['\n'] (lines width address bytes))

def defaultWidth : Int := 16

/-- Lines of no bytes are refused; a negative width shows nothing. The column of bytes is a
field of three characters a byte. -/
def dump (room : Room) (bytes : List UInt8) (address width : Int) : Except WidthFault String :=
  if width = 0 then .error .invalid
  else if width < 0 ∨ bytes = [] then .ok ""
  else fieldWidth room (3 * width) >>= fun _ => inRoom room (text width.toNat address bytes)

end CrashDump.HexDump
