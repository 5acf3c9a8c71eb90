import SceneWorkflow.Decimal.Binary64

/-! The fewest decimal digits that read back as a given number of double precision. -/

namespace SceneWorkflow

/-- The number `digits · 10 ^ exponent`. -/
structure Decimal where
  digits : Nat
  exponent : Int
deriving DecidableEq, Inhabited

namespace Binary64

/-- The ends of the interval of reals that round to a number, as numerators over four times the
number's own denominator. Below a power of two the interval reaches only half as far. -/
def intervalEnds (x : Binary64) : Nat × Nat :=
  let unit := twoTo x.exponent.toNat
  let below := if x.significand = twoTo 52 ∧ -1074 < x.exponent then 1 else 2
  ((4 * x.significand - below) * unit, (4 * x.significand + 2) * unit)

/-- Whether `num / den` rounds to the number. -/
def roundsFrom (x : Binary64) (num den : Nat) : Bool :=
  let scaled := num * 4 * x.ratio.2
  let (lo, hi) := x.intervalEnds
  if x.significand % 2 = 0 then lo * den ≤ scaled && scaled ≤ hi * den
  else lo * den < scaled && scaled < hi * den

/-- The position of the first digit: the largest `p` with `10 ^ p` not above the number. No number
below one is a power of ten, since its denominator is a power of two. -/
def leadingPower (x : Binary64) : Int :=
  let (num, den) := x.ratio
  if den ≤ num then ((Nat.toDigits 10 (num / den)).length : Int) - 1
  else -((Nat.toDigits 10 (den / num)).length : Int)

/-- The better of the number's two neighbours on the grid of `10 ^ k`, if one reads back. -/
def onGrid (x : Binary64) (k : Int) : Option Decimal :=
  let (num, den) := x.ratio
  let num' := num * tenTo (-k).toNat
  let den' := den * tenTo k.toNat
  let low := num' / den'
  let reads (c : Nat) : Bool := x.roundsFrom (c * tenTo k.toNat) (tenTo (-k).toNat)
  match reads low, reads (low + 1) with
  | true, true => some ⟨roundHalfEven num' den', k⟩
  | true, false => some ⟨low, k⟩
  | false, true => some ⟨low + 1, k⟩
  | false, false => none

/-- Drops trailing zeros of the digits. -/
def trimZeros : Nat → Decimal → Decimal
  | 0, d => d
  | n + 1, d =>
    if d.digits ≠ 0 ∧ d.digits % 10 = 0 then trimZeros n ⟨d.digits / 10, d.exponent + 1⟩ else d

/-- The shortest digits that read back, and of those the nearest: the first grid of one to seventeen
digits that has a hit. -/
def shortest (x : Binary64) : Decimal :=
  if x.significand = 0 then ⟨0, 0⟩
  else
    let p := x.leadingPower
    match (List.range 17).findSome? fun (i : Nat) => x.onGrid (p - i) with
    | some d => trimZeros 20 d
    | none => ⟨0, 0⟩

end Binary64

end SceneWorkflow
