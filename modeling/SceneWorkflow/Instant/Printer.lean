import SceneWorkflow.Instant.Basic

/-! The written form of moments: date and time of day joined by `T`, as many fraction digits as are
needed in steps of three, and `Z` for universal time. -/

namespace SceneWorkflow.Instant

/-- The decimal digits of a number, filled up with zeros on the left. -/
def pad (width n : Nat) : List Char :=
  List.replicate (width - (Nat.toDigits 10 n).length) '0' ++ Nat.toDigits 10 n

/-- Years of four digits stand alone, others show their sign. -/
def yearChars (year : Int) : List Char :=
  if 0 ≤ year ∧ year ≤ 9999 then pad 4 year.toNat
  else (if year < 0 then '-' else '+') :: pad 4 year.natAbs

/-- The shortest of no, three, six and nine digits that loses nothing. -/
def fractionChars (nanos : Nat) : List Char :=
  if nanos = 0 then []
  else if nanos % 1000000 = 0 then '.' :: pad 3 (nanos / 1000000)
  else if nanos % 1000 = 0 then '.' :: pad 6 (nanos / 1000)
  else '.' :: pad 9 nanos

def chars (i : Instant) : List Char :=
  yearChars i.date.year ++ '-' :: pad 2 i.date.month ++ '-' :: pad 2 i.date.day ++
    'T' :: pad 2 i.hour ++ ':' :: pad 2 i.minute ++ ':' :: pad 2 i.second ++
    fractionChars i.nanos ++ ['Z']

def print (i : Instant) : String := String.ofList i.chars

end SceneWorkflow.Instant
