import CrashDump.Bytes.Image

/-! # Names

A name stands out of line: its length in bytes, then UTF-16 text, of which only the ASCII
characters other than NUL are kept. A name that is not there in full is no name.
-/
namespace CrashDump

/-- The 16-bit units of a text; an odd last byte belongs to none. -/
def utf16Units : List UInt8 → List Nat
  | low :: high :: rest => (low.toNat + 256 * high.toNat) :: utf16Units rest
  | _ => []

def asciiOfUtf16 (bytes : List UInt8) : String :=
  String.ofList (((utf16Units bytes).filter fun u => 0 < u && u < 128).map Char.ofNat)

/-- Lengths from here on are taken for damage. -/
def nameLimit : Nat := 2048

def isNameLength (n : Nat) : Bool := 0 < n && n < nameLimit

/-- The name at an offset of the image; offset zero stands for none. -/
def nameAt (d : Image) (rva : Nat) : Option String :=
  if rva ≠ 0 ∧ d.Fits rva 4 then
    let n := d.natAt rva 4
    if isNameLength n ∧ d.Fits (rva + 4) n then some (asciiOfUtf16 (d.slice (rva + 4) n).bytes)
    else none
  else none

end CrashDump
