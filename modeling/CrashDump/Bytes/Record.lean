import CrashDump.Bytes.Layout

/-! # Records

A record type fixes a layout and says how its stored values make up the record. Reading
one either finds all its bytes or reports a short read; a run reads consecutive records
and stops at the first that is short.
-/
namespace CrashDump

/-- Fewer bytes were left at an offset than were needed. -/
structure ShortRead where
  offset : Nat
  expected : Nat
  actual : Nat
deriving DecidableEq, Repr

class Record (α : Type) where
  layout : Layout
  ofValue : layout.Value → α
  toValue : α → layout.Value

namespace Record
variable {α : Type}

abbrev size (α : Type) [Record α] : Nat := (layout α).size

def readAt [Record α] (d : Image) (off : Nat) : α := ofValue ((layout α).read d off)

def write [Record α] (r : α) : List UInt8 := (layout α).write (toValue r)

def readAt? [Record α] (d : Image) (off : Nat) : Except ShortRead α :=
  if d.Fits off (size α) then .ok (readAt d off)
  else .error ⟨off, size α, d.size - off⟩

/-- What `readRun` goes on with once it holds the records `taken`, latest first. -/
def readRunFrom [Record α] (d : Image) (taken : List α) (off : Nat) :
    (count : Nat) → List α × Option ShortRead
  | 0 => (taken.reverse, none)
  | count + 1 => match readAt? (α := α) d off with
    | .error short => (taken.reverse, some short)
    | .ok r => readRunFrom d (r :: taken) (off + size α) count

/-- Up to `count` consecutive records from `off`, and what cut the run short, if anything. -/
def readRun [Record α] (d : Image) (off count : Nat) : List α × Option ShortRead :=
  readRunFrom d [] off count

/-- A run that has to be complete. -/
def readAll [Record α] (d : Image) (off count : Nat) : Except ShortRead (List α) :=
  match readRun d off count with
  | (rs, none) => .ok rs
  | (_, some short) => .error short

instance : Record UInt32 where
  layout := .u32
  ofValue := id
  toValue := id

end Record

end CrashDump
