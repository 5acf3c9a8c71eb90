import SceneWorkflow.Instant.Basic
import SceneWorkflow.Text.Blank

/-! Reading moments. The accepted form is relaxed: blanks may stand before every number and mark,
leading zeros may be missing, a blank may stand for the `T`, and the offset from universal time is
`Z`, `UTC` or signed hours and minutes. -/

namespace SceneWorkflow.Instant

/-- Reads one digit or more, at most `width` if that is given. -/
def scanNumber (width : Option Nat) (s : List Char) : Option (Nat × List Char) :=
  let run := s.takeWhile Char.isDigit
  let digits := match width with
    | none => run
    | some w => run.take w
  if digits.isEmpty then none
  else some (Nat.ofDigitChars 10 digits 0, s.drop digits.length)

/-- Reads a number of at most two digits after blanks. -/
def scanPair (s : List Char) : Option (Nat × List Char) := scanNumber (some 2) (trimStart s)

def scanMark (mark : Char) (s : List Char) : Option (List Char) :=
  match trimStart s with
  | c :: r => if c = mark then some r else none
  | [] => none

/-- Reads a year: up to four digits, or any number of digits after a sign. -/
def scanYear (s : List Char) : Option (Int × List Char) :=
  match trimStart s with
  | '-' :: r => (scanNumber none r).map fun (y, r) => (-(y : Int), r)
  | '+' :: r => (scanNumber none r).map fun (y, r) => ((y : Int), r)
  | r => (scanNumber (some 4) r).map fun (y, r) => ((y : Int), r)

def scanDate (s : List Char) : Option (Date × List Char) := do
  let (year, s) ← scanYear s
  let s ← scanMark '-' s
  let (month, s) ← scanPair s
  let s ← scanMark '-' s
  let (day, s) ← scanPair s
  return (⟨year, month, day⟩, s)

/-- Reads the nanoseconds after a point; digits after the ninth are skipped. -/
def scanFraction : List Char → Option (Nat × List Char)
  | '.' :: s =>
    let digits := (s.takeWhile Char.isDigit).take 9
    if digits.isEmpty then none
    else
      let filled := digits ++ List.replicate (9 - digits.length) '0'
      some (Nat.ofDigitChars 10 filled 0, s.dropWhile Char.isDigit)
  | s => some (0, s)

/-- Blanks and colons may separate the hours of an offset from its minutes. -/
def skipColons (s : List Char) : List Char := s.dropWhile fun c => c == ':' || isBlank c

def scanTwoDigits : List Char → Option (Nat × List Char)
  | a :: b :: s =>
    if a.isDigit ∧ b.isDigit then some (Nat.ofDigitChars 10 [a, b] 0, s) else none
  | _ => none

/-- Reads the minutes an offset is ahead of universal time, less than a day. -/
def scanOffset (s : List Char) : Option (Int × List Char) :=
  match s with
  | 'Z' :: r => some (0, r)
  | 'z' :: r => some (0, r)
  | u :: t :: c :: r =>
    if u.toUpper = 'U' ∧ t.toUpper = 'T' ∧ c.toUpper = 'C' then some (0, r)
    else if u = '+' then scanAhead (t :: c :: r)
    else if u = '-' ∨ u = '\u2212' then (scanAhead (t :: c :: r)).map fun (m, r) => (-m, r)
    else none
  | _ => none
where
  scanAhead (s : List Char) : Option (Int × List Char) := do
    let (hours, s) ← scanTwoDigits s
    let (minutes, s) ← scanTwoDigits (skipColons s)
    if minutes < 60 ∧ hours < 24 then return ((hours * 60 + minutes : Nat), s) else none

/-- The moment in universal time of a local date and time of day. Seconds stand outside the offset,
which counts minutes. -/
def ofLocal? (date : Date) (hour minute second nanos : Nat) (offset : Int) : Option Instant :=
  if date.IsValid ∧ hour < 24 ∧ minute < 60 then
    let minutes : Int := (hour * 60 + minute : Nat) - offset
    let date := if minutes < 0 then date.previous else if 1440 ≤ minutes then date.next else date
    let ofDay := (minutes % 1440).toNat
    if h : date.IsValid ∧ ofDay / 60 < 24 ∧ ofDay % 60 < 60 ∧ second ≤ 60 ∧ nanos < 1000000000 then
      some ⟨date, ofDay / 60, ofDay % 60, second, nanos, h⟩
    else none
  else none

def scan (s : List Char) : Option (Instant × List Char) := do
  let (date, s) ← scanDate s
  let s ← match s with
    | 'T' :: r => some r
    | 't' :: r => some r
    | ' ' :: r => some r
    | _ => none
  let (hour, s) ← scanPair s
  let s ← scanMark ':' s
  let (minute, s) ← scanPair s
  let s ← scanMark ':' s
  let (second, s) ← scanPair s
  let (nanos, s) ← scanFraction s
  let (offset, s) ← scanOffset (trimStart s)
  let i ← ofLocal? date hour minute second nanos offset
  return (i, s)

/-- Reads a text that holds one moment, with blanks allowed after it. -/
def parse (text : String) : Option Instant := do
  let (i, r) ← scan text.toList
  if (trimStart r).isEmpty then return i else none

end SceneWorkflow.Instant
