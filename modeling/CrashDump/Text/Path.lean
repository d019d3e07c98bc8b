/-! # Paths

The written form of a path leaves out empty parts and parts that stay in place. It begins
with as many slashes as the path does if those are two, and otherwise with one at most.
-/
namespace CrashDump

/-- The parts of a path that lead somewhere. -/
def pathParts (path : List Char) : List (List Char) :=
  (path.splitOn '/').filter fun p => p ≠ [] ∧ p ≠ ['.']

def pathRoot : List Char → List Char
  | '/' :: '/' :: '/' :: _ => ['/']
  | '/' :: '/' :: _ => ['/', '/']
  | '/' :: _ => ['/']
  | _ => []

/-- The path that leads nowhere else is written as a dot. -/
def tidyPath (path : String) : String :=
  match pathRoot path.toList ++ List.intercalate ['/'] (pathParts path.toList) with
  | [] => "."
  | cs => String.ofList cs

end CrashDump
