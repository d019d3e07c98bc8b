import CrashDump.Bytes.Room
import CrashDump.Cursor.Fault
import CrashDump.Format.Name

/-! # Cursors

A cursor is a place in an image, until it is closed. It never hands out part of a read,
and a guarded block puts it back where it was, however the block ends.
-/
namespace CrashDump

inductive Source where
  | memory
  | file (room : Room)
deriving DecidableEq, Repr

structure Cursor where
  image : Image
  place : Option Nat
  source : Source

abbrev Access := EStateM Fault Cursor

def Cursor.reach : Nat := 0x8000000000000000

namespace Source

/-- What a file gives fills a block whose header counts too. -/
def countLimit : Source → Nat
  | memory => Cursor.reach
  | file _ => Cursor.reach - 33

def roomLimit : Source → Nat
  | memory => Cursor.reach
  | file room => room.limit

def refusal? (s : Source) (count : Nat) : Option Fault :=
  if s.countLimit ≤ count then some .tooMany
  else if s.roomLimit ≤ count then some .noRoom
  else none

end Source

/-- Whether a fault is more than a bad value or a lack of bytes. A file takes a position out
of reach for a bad value. -/
def Fault.isFatal (s : Source) : Fault → Bool
  | .tooFar => s = .memory
  | .tooMany => true
  | .noRoom => true
  | _ => false

namespace Cursor

def start (d : Image) (s : Source) : Cursor := ⟨d, some 0, s⟩

def tell : Access Nat := fun c =>
  match c.place with
  | some p => .ok p c
  | none => .error .closed c

/-- Any position within reach can be taken, also one past the end. -/
def seek (offset : Int) : Access Unit := fun c =>
  if offset < -(reach : Int) ∨ (reach : Int) ≤ offset then .error .tooFar c
  else if c.place.isNone then .error .closed c
  else if offset < 0 then .error .negativeSeek c
  else .ok () { c with place := some offset.toNat }

/-- All `count` bytes from the place on; a short read still passes over what there was. -/
def readExact (count : Int) : Access Image := fun c =>
  if count < 0 then .error (.negativeCount count) c
  else match c.place with
    | none => .error .closed c
    | some p =>
      let n := count.toNat
      match c.source.refusal? n with
      | some f => .error f c
      | none =>
        let got := min n (c.image.size - p)
        let c' := { c with place := some (p + got) }
        if got = n then .ok (c.image.slice p n) c' else .error (.short ⟨p, n, got⟩) c'

def readRecord (α : Type) [Record α] : Access α := do
  let bytes ← readExact (Record.size α)
  return Record.readAt bytes 0

/-- Runs a block and returns to the present place, on success and on failure. A failure to
return replaces the failure of the block. -/
def saved {α : Type} (block : Access α) : Access α := fun c =>
  match c.place with
  | none => .error .closed c
  | some p => match block c with
    | .ok a c' => match seek p c' with
      | .ok () c'' => .ok a c''
      | .error f c'' => .error f c''
    | .error f c' => match seek p c' with
      | .ok () c'' => .error f c''
      | .error g c'' => .error g c''

def orNone {α : Type} (access : Access (Option α)) : Access (Option α) := fun c =>
  match access c with
  | .error (.short _) c' => .ok none c'
  | r => r

def nameHere : Access (Option String) := orNone do
  let n ← readRecord UInt32
  if isNameLength n.toNat then
    return some (asciiOfUtf16 (← readExact n.toNat).bytes)
  else
    return none

def readName (rva : Int) : Access (Option String) :=
  if rva = 0 then pure none
  else saved do
    seek rva
    nameHere

def close : Access Unit := fun c => .ok () { c with place := none }

end Cursor

end CrashDump
