import CrashDump.Bytes.Record
import CrashDump.Text.Decimal
import CrashDump.Text.Hex

/-! # Faults

Why an access to the bytes of an image, or to the memory it captured, fails.
-/
namespace CrashDump

def ShortRead.message (s : ShortRead) : String :=
  s!"Short read at {Hex.signed s.offset}: expected {s.expected} bytes, got {s.actual}"

inductive Fault where
  | short (read : ShortRead)
  | negativeCount (count : Int)
  | negativeSeek
  /-- The position exceeds what a byte source can address. -/
  | tooFar
  /-- The count exceeds what a byte source can address. -/
  | tooMany
  /-- No block as large as the count can be set aside. -/
  | noRoom
  | closed
  /-- No single captured segment holds the span, or the image lacks its bytes. -/
  | unmapped (address size : Int)
deriving DecidableEq, Repr

namespace Fault

def message : Fault → String
  | short read => read.message
  | negativeCount count => match Decimal.text? count with
    | some text => s!"Negative read size: {text}"
    | none => Decimal.tooLong
  | negativeSeek => "Negative position"
  | tooFar => "cannot fit 'int' into an offset-sized integer"
  | tooMany => "cannot fit 'int' into an index-sized integer"
  | noRoom => "No room for the bytes"
  | closed => "The source is closed"
  | unmapped address size =>
    s!"No memory segment contains {Hex.signed address}+{Hex.signed size}"

end Fault

end CrashDump
