/-! # Decimal text

Decimal numbers have a greatest length, in reading as in writing.
-/
namespace CrashDump.Decimal

def maxDigits : Nat := 4300

/-- A number of more digits has no decimal text. -/
def text? (n : Int) : Option String :=
  if n.natAbs < Nat.pow 10 maxDigits then some (toString n) else none

def tooLong : String :=
  "Exceeds the limit (4300 digits) for integer string conversion; " ++
    "use sys.set_int_max_str_digits() to increase the limit"

end CrashDump.Decimal
