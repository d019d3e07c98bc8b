import CrashDump.Text.Printable

/-! # Quoted text

Text in quotes with everything unprintable escaped. Single quotes stand around it unless
it holds a single quote and no double one.
-/
namespace CrashDump.Quoted

def hexEscape (mark : Char) (width n : Nat) : List Char :=
  let ds := Nat.toDigits 16 n
  '\\' :: mark :: (List.replicate (width - ds.length) '0' ++ ds)

def escape (quote c : Char) : List Char :=
  if c = quote ∨ c = '\\' then ['\\', c]
  else if c = '\n' then ['\\', 'n']
  else if c = '\r' then ['\\', 'r']
  else if c = '\t' then ['\\', 't']
  else if Printable.isPrintable c then [c]
  else if c.toNat < 0x100 then hexEscape 'x' 2 c.toNat
  else if c.toNat < 0x10000 then hexEscape 'u' 4 c.toNat
  else hexEscape 'U' 8 c.toNat

def quoteFor (cs : List Char) : Char :=
  if '\'' ∈ cs ∧ '"' ∉ cs then '"' else '\''

def text (s : String) : String :=
  let q := quoteFor s.toList
  String.ofList (q :: s.toList.flatMap (escape q) ++ [q])

end CrashDump.Quoted
