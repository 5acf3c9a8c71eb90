import SceneWorkflow.Decimal.Shortest
import SceneWorkflow.Json.Basic
import SceneWorkflow.KeyMap

/-! The canonical form of a JSON document: members sorted by key with the last of equal keys kept,
integers of 64 bits as they are, and all other numbers as the shortest text of their double. Documents
that nest too deep, spell no characters or hold a number out of range have none. -/

namespace SceneWorkflow.Json

/-- The largest number of 64 bits. -/
def maxWord : Nat := 18446744073709551615

/-- Takes in digits of the whole part while the value fits 64 bits, and counts those left out. -/
def takeWhole : List Char → Nat → Nat → Nat × Nat
  | [], value, dropped => (value, dropped)
  | c :: cs, value, dropped =>
    let next := value * 10 + (c.toNat - '0'.toNat)
    if dropped = 0 ∧ next ≤ maxWord then takeWhole cs next 0
    else takeWhole cs value (dropped + 1)

/-- Takes in digits of the fraction while the value fits 64 bits, and counts them. -/
def takeFraction : List Char → Nat → Nat → Nat × Nat
  | [], value, taken => (value, taken)
  | c :: cs, value, taken =>
    let next := value * 10 + (c.toNat - '0'.toNat)
    if next ≤ maxWord then takeFraction cs next (taken + 1) else (value, taken)

namespace Numeral

/-- Whether the number is kept as an integer: up to 64 bits, signed if it is negative. -/
def isInteger (n : Numeral) : Bool :=
  match n.int? with
  | some k => decide (-9223372036854775808 ≤ k ∧ k ≤ maxWord)
  | none => false

/-- The double nearest to what the digits say, up to the rounding of one scaling step. -/
def double? (n : Numeral) : Option Binary64 :=
  let (value, dropped) := takeWhole n.whole 0 0
  let (value, taken) := takeFraction n.fraction value 0
  let exponent : Int :=
    match n.exponent with
    | none => 0
    | some (true, digits) => -(natOf digits : Int)
    | some (false, digits) => natOf digits
  Binary64.ofDecimal? value (dropped - taken + exponent)

/-- The digits of a decimal in positional or scientific notation. Positions from the fifth after the
point to the sixteenth before it are written out, and there is always a digit after a point. -/
def ofDecimal (negative : Bool) (d : Decimal) : Numeral :=
  let digits := Nat.toDigits 10 d.digits
  let point : Int := digits.length + d.exponent
  if 0 ≤ d.exponent ∧ point ≤ 16 then
    ⟨negative, digits ++ List.replicate d.exponent.toNat '0', ['0'], none⟩
  else if 0 < point ∧ point ≤ 16 then
    ⟨negative, digits.take point.toNat, digits.drop point.toNat, none⟩
  else if -5 < point ∧ point ≤ 0 then
    ⟨negative, ['0'], List.replicate (-point).toNat '0' ++ digits, none⟩
  else
    ⟨negative, digits.take 1, digits.drop 1,
      some (decide (point - 1 < 0), Nat.toDigits 10 (point - 1).natAbs)⟩

/-- A number in canonical form; `none` if it is beyond the largest double. -/
def canonical? (n : Numeral) : Option Numeral :=
  if n.isInteger then some n
  else n.double?.map fun x => ofDecimal n.negative x.shortest

end Numeral

/-- How many arrays and objects may stand inside each other. -/
def maxDepth : Nat := 127

/-- Members whose keys spell texts, sorted, the last of equal keys kept. -/
def sortMembers? (members : List (Option String × Json)) : Option (List (Option String × Json)) := do
  let named ← members.mapM fun m => m.1.map fun key => (key, m.2)
  return (KeyMap.ofList named).entries.map fun e => (some e.1, e.2)

mutual

/-- The canonical form of a document that nests at most `depth` deep. -/
def canonicalWithin (depth : Nat) : Json → Option Json
  | null => some null
  | bool b => some (bool b)
  | num n => n.canonical?.map num
  | str s => s.map fun s => str (some s)
  | arr xs =>
    match depth with
    | 0 => none
    | depth + 1 => (canonicalElements depth xs).map arr
  | obj ms =>
    match depth with
    | 0 => none
    | depth + 1 => (canonicalMembers depth ms).bind fun ms => (sortMembers? ms).map obj
termination_by structural j => j

def canonicalElements (depth : Nat) : List Json → Option (List Json)
  | [] => some []
  | x :: xs =>
    (canonicalWithin depth x).bind fun x => (canonicalElements depth xs).map (x :: ·)
termination_by structural xs => xs

def canonicalMember (depth : Nat) : Option String × Json → Option (Option String × Json)
  | (key, value) =>
    key.bind fun key => (canonicalWithin depth value).map fun value => (some key, value)
termination_by structural m => m

def canonicalMembers (depth : Nat) :
    List (Option String × Json) → Option (List (Option String × Json))
  | [] => some []
  | m :: ms =>
    (canonicalMember depth m).bind fun m => (canonicalMembers depth ms).map (m :: ·)
termination_by structural ms => ms

end

def canonical? (j : Json) : Option Json := canonicalWithin maxDepth j

end SceneWorkflow.Json
