/-! # Civil dates

Seconds since the start of 1970 in the Gregorian calendar, without leap seconds. The date
is found by taking whole years and then whole months off the day count.
-/
namespace CrashDump

def isLeap (year : Nat) : Bool := year % 4 == 0 && (year % 100 != 0 || year % 400 == 0)

def yearLength (year : Nat) : Nat := if isLeap year then 366 else 365

def monthLengths (year : Nat) : List Nat :=
  [31, if isLeap year then 29 else 28, 31, 30, 31, 30, 31, 31, 30, 31, 30, 31]

structure CivilDate where
  year : Nat
  month : Nat
  day : Nat
deriving DecidableEq, Repr

namespace CivilDate

/-- The year that a day counted from the start of `year` falls in, and its place there. -/
def yearOf (year days : Nat) : Nat × Nat :=
  if days < yearLength year then (year, days)
  else yearOf (year + 1) (days - yearLength year)
termination_by days
decreasing_by
  have : 0 < yearLength year := by unfold yearLength; split <;> omega
  omega

/-- The same for months of the given lengths, the first of which is numbered `month`. -/
def monthOf (month days : Nat) : List Nat → Nat × Nat
  | [] => (month, days)
  | length :: rest =>
    if days < length then (month, days) else monthOf (month + 1) (days - length) rest

def ofDays (days : Nat) : CivilDate :=
  let (year, rest) := yearOf 1970 days
  let (month, rest) := monthOf 1 rest (monthLengths year)
  ⟨year, month, rest + 1⟩

end CivilDate

/-- A date with the time of day. -/
structure CivilTime where
  date : CivilDate
  hour : Nat
  minute : Nat
  second : Nat
deriving DecidableEq, Repr

namespace CivilTime

def ofSeconds (seconds : Nat) : CivilTime where
  date := CivilDate.ofDays (seconds / 86400)
  hour := seconds % 86400 / 3600
  minute := seconds % 3600 / 60
  second := seconds % 60

def padded (width n : Nat) : List Char :=
  let ds := Nat.toDigits 10 n
  List.replicate (width - ds.length) '0' ++ ds

def text (t : CivilTime) : String :=
  String.ofList (padded 4 t.date.year ++ '-' :: padded 2 t.date.month ++ '-' ::
    padded 2 t.date.day ++ ' ' :: padded 2 t.hour ++ ':' :: padded 2 t.minute ++ ':' ::
    padded 2 t.second)

end CivilTime

end CrashDump
