import FlowLint.Number.Decimal

/-!
# Timestamps

A timestamp is a text: year, month and day, then a time that this module leaves alone. Rows are
compared by that text.

* `Timestamp.daysBefore?` moves a timestamp back by whole days.
-/

namespace FlowLint

/-- A day of the calendar. -/
structure Day where
  year : Nat
  month : Nat
  day : Nat
  deriving Repr, DecidableEq, Inhabited

namespace Day

/-- Does a year have 366 days? -/
def isLeap (year : Nat) : Bool :=
  year % 4 = 0 && (year % 100 != 0 || year % 400 = 0)

/-- How many days a month has. -/
def lastOf (year month : Nat) : Nat :=
  if month = 2 then if isLeap year then 29 else 28
  else if month = 4 || month = 6 || month = 9 || month = 11 then 30
  else 31

/-- The day before; the calendar starts with the first of January of year 1. -/
def previous? (d : Day) : Option Day :=
  if 1 < d.day then some { d with day := d.day - 1 }
  else if 1 < d.month then some ⟨d.year, d.month - 1, lastOf d.year (d.month - 1)⟩
  else if 1 < d.year then some ⟨d.year - 1, 12, 31⟩
  else none

/-- The day a number of days before. -/
def before? : Nat → Day → Option Day
  | 0, d => some d
  | n + 1, d => d.previous? >>= before? n

/-- A number with leading zeros. -/
def padded (width n : Nat) : List Char :=
  let digits := Nat.toDigits 10 n
  List.replicate (width - digits.length) '0' ++ digits

/-- The text of a day. -/
def text (d : Day) : List Char :=
  padded 4 d.year ++ '-' :: padded 2 d.month ++ '-' :: padded 2 d.day

/-- The number that decimal digits stand for. -/
def number (digits : List Char) : Nat :=
  digits.foldl (fun n c => n * 10 + (c.toNat - '0'.toNat)) 0

/-- The day at the start of a timestamp. -/
def ofText (stamp : List Char) : Day :=
  ⟨number (stamp.take 4), number ((stamp.drop 5).take 2), number ((stamp.drop 8).take 2)⟩

end Day

namespace Timestamp

/-- The same time of day, a number of days before. -/
def daysBefore? (days : Nat) (stamp : String) : Option String :=
  let chars := stamp.toList
  ((Day.ofText chars).before? days).map fun d => String.ofList (d.text ++ chars.drop 10)

end Timestamp

end FlowLint
