/-!
# Binary floating point of 64 bits

Finite numbers `± significand * 2 ^ exponent`, with exact arithmetic on ratios followed by one
rounding to the nearest representable number, ties to the even significand. A result that is too
large to represent is `none`.

## Main definitions

* `Binary64` - a finite number
* `Binary64.ofRatio?` - the representable number nearest to a ratio
* `Binary64.ofInt?`, `Binary64.mul?`, `Binary64.div?` - correctly rounded operations
* `Binary64.roundToHundredths?` - two decimal places
-/

namespace AskTable

/-- A finite number `± significand * 2 ^ exponent`. The sign is kept for zero too. -/
structure Binary64 where
  negative : Bool
  significand : Nat
  exponent : Int
deriving DecidableEq, Repr

namespace Binary64

/-- The exponent of the smallest positive number. -/
def minExponent : Int := -1074

/-- The exponent of the largest numbers. -/
def maxExponent : Int := 971

/-- The ratio `num / den` in units of `2 ^ e`, as a ratio again. -/
def inUnits (num den : Nat) (e : Int) : Nat × Nat :=
  if 0 ≤ e then (num, den * Nat.pow 2 e.toNat) else (num * Nat.pow 2 (-e).toNat, den)

/-- The integer nearest to `num / den`; of two, the even one. -/
def nearest (num den : Nat) : Nat :=
  let q := num / den
  let r := num % den
  if 2 * r < den then q else if den < 2 * r then q + 1 else q + q % 2

/-- The number nearest to `± num / den`, for a positive `den`. -/
def ofRatio? (negative : Bool) (num den : Nat) : Option Binary64 :=
  if num = 0 then some ⟨negative, 0, minExponent⟩
  else
    let guess : Int := num.log2 - den.log2 - 53
    let (n, d) := inUnits num den guess
    let exponent := max minExponent (if n / d < Nat.pow 2 53 then guess else guess + 1)
    let (n, d) := inUnits num den exponent
    let significand := nearest n d
    let (significand, exponent) :=
      if significand = Nat.pow 2 53 then (Nat.pow 2 52, exponent + 1) else (significand, exponent)
    if exponent ≤ maxExponent then some ⟨negative, significand, exponent⟩ else none

/-- The magnitude of a number as a ratio. -/
def ratio (x : Binary64) : Nat × Nat :=
  if 0 ≤ x.exponent then (x.significand * Nat.pow 2 x.exponent.toNat, 1)
  else (x.significand, Nat.pow 2 (-x.exponent).toNat)

/-- The number nearest to an integer. -/
def ofInt? (n : Int) : Option Binary64 := ofRatio? (n < 0) n.natAbs 1

/-- The rounded product. -/
def mul? (x y : Binary64) : Option Binary64 :=
  ofRatio? (x.negative != y.negative) (x.ratio.1 * y.ratio.1) (x.ratio.2 * y.ratio.2)

/-- The rounded quotient, for a divisor other than zero. -/
def div? (x y : Binary64) : Option Binary64 :=
  ofRatio? (x.negative != y.negative) (x.ratio.1 * y.ratio.2) (x.ratio.2 * y.ratio.1)

/-- The nearest integral number, a half going away from zero. -/
def roundToIntegral? (x : Binary64) : Option Binary64 :=
  let (num, den) := x.ratio
  ofRatio? x.negative ((2 * num + den) / (2 * den)) 1

/-- Two decimal places: a hundred times the number, made integral and divided by a hundred, each
step rounded. -/
def roundToHundredths? (x : Binary64) : Option Binary64 := do
  let hundred ← ofInt? 100
  let scaled ← x.mul? hundred
  let whole ← scaled.roundToIntegral?
  whole.div? hundred

end Binary64

end AskTable
