import CrashDump.Text.CharClass
import CrashDump.Text.Decimal

/-! # Integer literals

A literal may be signed, names base 16, 8 or 2 by a letter after a zero, and may put single
underscores between its digits or right after the base mark. A decimal literal starts with
zero only when it is zero, and is at most 4300 digits long.
-/
namespace CrashDump.IntegerLiteral

def trim (cs : List Char) : List Char :=
  ((cs.dropWhile CharClass.isBlank).reverse.dropWhile CharClass.isBlank).reverse

/-- Decimal digits of other scripts become the common ones. -/
def plain (c : Char) : Char :=
  match CharClass.decimalValue? c with
  | some v => Char.ofNat (48 + v)
  | none => c

def digit? (base : Nat) (c : Char) : Option Nat :=
  let n := c.toNat
  let v :=
    if 48 ≤ n ∧ n ≤ 57 then n - 48
    else if 97 ≤ n ∧ n ≤ 122 then n - 87
    else if 65 ≤ n ∧ n ≤ 90 then n - 55
    else base
  if v < base then some v else none

/-- One digit at least, with single underscores between digits. -/
def digits? (base : Nat) : List Char → Option (List Nat)
  | [] => none
  | [c] => (digit? base c).map ([·])
  | c :: '_' :: cs => (digit? base c).bind fun d => (digits? base cs).map (d :: ·)
  | c :: cs => (digit? base c).bind fun d => (digits? base cs).map (d :: ·)

def value (base : Nat) (ds : List Nat) : Nat := ds.foldl (fun v d => base * v + d) 0

def based? (base : Nat) (cs : List Char) : Option Nat :=
  (digits? base (match cs with | '_' :: r => r | r => r)).map (value base)

def decimal? (cs : List Char) : Option Nat :=
  (digits? 10 cs).bind fun ds =>
    let v := value 10 ds
    if ds.length ≤ Decimal.maxDigits ∧ (ds.head? = some 0 → v = 0) then some v else none

def magnitude? : List Char → Option Nat
  | '0' :: c :: cs =>
    if c = 'x' ∨ c = 'X' then based? 16 cs
    else if c = 'o' ∨ c = 'O' then based? 8 cs
    else if c = 'b' ∨ c = 'B' then based? 2 cs
    else decimal? ('0' :: c :: cs)
  | cs => decimal? cs

def signed? : List Char → Option Int
  | '-' :: cs => (magnitude? cs).map fun v => -(v : Int)
  | '+' :: cs => (magnitude? cs).map fun v => (v : Int)
  | cs => (magnitude? cs).map fun v => (v : Int)

/-- The integer that a text writes, if it writes one. -/
def parse? (s : String) : Option Int := signed? ((trim s.toList).map plain)

end CrashDump.IntegerLiteral
