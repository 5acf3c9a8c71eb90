/-! Numbers of double precision as exact integers times powers of two, and rounding to them. -/

namespace SceneWorkflow

def twoTo (n : Nat) : Nat := Nat.pow 2 n

def tenTo (n : Nat) : Nat := Nat.pow 10 n

/-- The quotient rounded to an integer; a half goes to the even neighbour. -/
def roundHalfEven (num den : Nat) : Nat :=
  let q := num / den
  let twice := 2 * (num % den)
  if den < twice ∨ (twice = den ∧ q % 2 = 1) then q + 1 else q

/-- The nonnegative number `significand · 2 ^ exponent`. Rounding gives significands below `2 ^ 53`
with exponents from `-1074` to `971`. -/
structure Binary64 where
  significand : Nat
  exponent : Int
deriving DecidableEq, Inhabited

namespace Binary64

def zero : Binary64 := ⟨0, -1074⟩

def ratio (x : Binary64) : Nat × Nat :=
  (x.significand * twoTo x.exponent.toNat, twoTo (-x.exponent).toNat)

/-- The exponent at which a quotient has 53 binary digits, or the least one. -/
def exponentFor (num den : Nat) : Int :=
  let guess : Int := (Nat.log2 num : Int) - (Nat.log2 den : Int) - 52
  let low := num * twoTo (-guess).toNat < den * twoTo guess.toNat * twoTo 52
  max (if low then guess - 1 else guess) (-1074)

/-- The nearest number to a quotient; `none` if that lies beyond the largest one. -/
def ofRatio? (num den : Nat) : Option Binary64 :=
  if num = 0 then some zero
  else
    let e := exponentFor num den
    let m := roundHalfEven (num * twoTo (-e).toNat) (den * twoTo e.toNat)
    let x : Binary64 := if m = twoTo 53 then ⟨twoTo 52, e + 1⟩ else ⟨m, e⟩
    if 971 < x.exponent then none else some x

def mul? (x y : Binary64) : Option Binary64 :=
  ofRatio? (x.ratio.1 * y.ratio.1) (x.ratio.2 * y.ratio.2)

def div? (x y : Binary64) : Option Binary64 :=
  ofRatio? (x.ratio.1 * y.ratio.2) (x.ratio.2 * y.ratio.1)

/-- The largest power of ten that is in range. -/
def maxPower : Nat := 308

/-- Scales by a power of ten, rounding after each step. Only negative powers take more than one
step, by the largest power at a time, until one is left in range or nothing remains. -/
def scaleSteps : Nat → Binary64 → Int → Option Binary64
  | 0, _, _ => some zero
  | n + 1, x, k =>
    if k.natAbs ≤ maxPower then do
      let power ← ofRatio? (tenTo k.natAbs) 1
      if 0 ≤ k then x.mul? power else x.div? power
    else if x.significand = 0 then some zero
    else if 0 ≤ k then none
    else do
      let power ← ofRatio? (tenTo maxPower) 1
      let smaller ← x.div? power
      scaleSteps n smaller (k + maxPower)

/-- Reads `digits · 10 ^ k`. Any number of digits that fits 64 bits is zero after three steps
of the largest power. -/
def ofDecimal? (digits : Nat) (k : Int) : Option Binary64 := do
  let x ← ofRatio? digits 1
  scaleSteps 4 x k

end Binary64

end SceneWorkflow
