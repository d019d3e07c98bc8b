/-! # Room

Bytes and text are had in one block or not at all. How large a block can be is up to the machine.
-/
namespace CrashDump

/-- A block of as many bytes is had on every machine. -/
def pageSize : Nat := 4096

structure Room where
  /-- Blocks are had below this size. -/
  limit : Nat
  page : pageSize < limit
deriving DecidableEq, Repr

/-- Blocks of less than 32 GiB. -/
def Room.usual : Room := ⟨0x800000000, by decide⟩

end CrashDump
