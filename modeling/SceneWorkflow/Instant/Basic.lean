/-! Moments in universal time, to the nanosecond, with leap seconds, in the years from -262143 to
262142 of the proleptic Gregorian calendar. -/

namespace SceneWorkflow

/-- Every fourth year is a leap year, except centuries that 400 does not divide. -/
def isLeapYear (year : Int) : Bool :=
  year % 4 = 0 ∧ (year % 100 ≠ 0 ∨ year % 400 = 0)

def daysInMonth (year : Int) (month : Nat) : Nat :=
  if month = 2 then (if isLeapYear year then 29 else 28)
  else if month = 4 ∨ month = 6 ∨ month = 9 ∨ month = 11 then 30
  else 31

structure Date where
  year : Int
  month : Nat
  day : Nat
deriving DecidableEq

namespace Date

/-- The date is in the calendar and its year is in range. -/
def IsValid (d : Date) : Prop :=
  -262143 ≤ d.year ∧ d.year ≤ 262142 ∧ 1 ≤ d.month ∧ d.month ≤ 12 ∧
    1 ≤ d.day ∧ d.day ≤ daysInMonth d.year d.month

instance (d : Date) : Decidable d.IsValid := by unfold IsValid; infer_instance

def next (d : Date) : Date :=
  if d.day < daysInMonth d.year d.month then { d with day := d.day + 1 }
  else if d.month < 12 then ⟨d.year, d.month + 1, 1⟩
  else ⟨d.year + 1, 1, 1⟩

def previous (d : Date) : Date :=
  if 1 < d.day then { d with day := d.day - 1 }
  else if 1 < d.month then ⟨d.year, d.month - 1, daysInMonth d.year (d.month - 1)⟩
  else ⟨d.year - 1, 12, 31⟩

end Date

/-- A moment. A leap second is second 60 of its minute. -/
structure Instant where
  date : Date
  hour : Nat
  minute : Nat
  second : Nat
  nanos : Nat
  valid : date.IsValid ∧ hour < 24 ∧ minute < 60 ∧ second ≤ 60 ∧ nanos < 1000000000 := by decide
deriving DecidableEq

end SceneWorkflow
