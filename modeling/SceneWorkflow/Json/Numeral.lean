/-! Numbers as they are written in JSON: a sign, digits, perhaps digits after a point and an exponent.
The written form is kept, because `1`, `1.0` and `1e0` are read differently. -/

namespace SceneWorkflow.Json

/-- A written number. The whole part has no leading zero unless it is `0`, the fraction is empty
when there is no point, and the exponent holds its sign and digits. -/
structure Numeral where
  negative : Bool := false
  whole : List Char := ['0']
  fraction : List Char := []
  exponent : Option (Bool × List Char) := none
deriving DecidableEq, Inhabited

namespace Numeral

def natOf (digits : List Char) : Nat := Nat.ofDigitChars 10 digits 0

def ofInt (n : Int) : Numeral where
  negative := decide (n < 0)
  whole := Nat.toDigits 10 n.natAbs

/-- A numeral is an integer if it shows neither point nor exponent and is no negative zero. -/
def int? (n : Numeral) : Option Int :=
  if n.fraction.isEmpty ∧ n.exponent.isNone then
    if n.negative then
      if natOf n.whole = 0 then none else some (-(natOf n.whole : Int))
    else some (natOf n.whole)
  else none

theorem int?_ofInt (n : Int) : (ofInt n).int? = some n := by
  have h : natOf (Nat.toDigits 10 n.natAbs) = n.natAbs :=
    Nat.ofDigitChars_toDigits (by decide) (by decide)
  by_cases hn : n < 0
  · have h0 : n.natAbs ≠ 0 := by omega
    have h1 : -(n.natAbs : Int) = n := by omega
    simp only [ofInt, int?, h, hn, h0, h1, decide_true, List.isEmpty_nil, Option.isNone_none,
      and_self, if_true, if_false]
  · have h1 : (n.natAbs : Int) = n := by omega
    simp only [ofInt, int?, h, hn, h1, decide_false, List.isEmpty_nil, Option.isNone_none,
      and_self, if_true, Bool.false_eq_true, if_false]

/-- The written form; an exponent always shows its sign. -/
def text (n : Numeral) : List Char :=
  (if n.negative then ['-'] else []) ++ n.whole ++
    (if n.fraction.isEmpty then [] else '.' :: n.fraction) ++
    match n.exponent with
    | none => []
    | some (negative, digits) => 'e' :: (if negative then '-' else '+') :: digits

def scanDigits (s : List Char) : Option (List Char × List Char) :=
  let digits := s.takeWhile Char.isDigit
  if digits.isEmpty then none else some (digits, s.dropWhile Char.isDigit)

def scanWhole (s : List Char) : Option (List Char × List Char) :=
  match scanDigits s with
  | some ('0' :: _ :: _, _) => none
  | other => other

/-- Reads the digits after a point, if there is a point. -/
def scanFraction : List Char → Option (List Char × List Char)
  | '.' :: s => scanDigits s
  | s => some ([], s)

/-- Reads an exponent, if one follows. -/
def scanExponent : List Char → Option (Option (Bool × List Char) × List Char)
  | 'e' :: '-' :: s => (scanDigits s).map fun (d, r) => (some (true, d), r)
  | 'E' :: '-' :: s => (scanDigits s).map fun (d, r) => (some (true, d), r)
  | 'e' :: '+' :: s => (scanDigits s).map fun (d, r) => (some (false, d), r)
  | 'E' :: '+' :: s => (scanDigits s).map fun (d, r) => (some (false, d), r)
  | 'e' :: s => (scanDigits s).map fun (d, r) => (some (false, d), r)
  | 'E' :: s => (scanDigits s).map fun (d, r) => (some (false, d), r)
  | s => some (none, s)

def scan (s : List Char) : Option (Numeral × List Char) := do
  let negative := s.head? == some '-'
  let (whole, s) ← scanWhole (if negative then s.tail else s)
  let (fraction, s) ← scanFraction s
  let (exponent, s) ← scanExponent s
  return (⟨negative, whole, fraction, exponent⟩, s)

end Numeral

end SceneWorkflow.Json
