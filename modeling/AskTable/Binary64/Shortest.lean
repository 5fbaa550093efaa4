import AskTable.Binary64.Basic
/-!
# Fewest digits that read back

Every number rounds from a whole interval of reals. Among the decimals in that interval those on
the coarsest grid of powers of ten have the fewest digits; the nearest of them is the one to write.

## Main definitions

* `Binary64.shortest` - the decimal with the fewest digits that reads back as the number
-/

namespace AskTable.Binary64

/-- The order of two ratios. -/
def ratioLe (x y : Nat × Nat) : Bool := x.1 * y.2 ≤ y.1 * x.2

/-- The strict order of two ratios. -/
def ratioLt (x y : Nat × Nat) : Bool := x.1 * y.2 < y.1 * x.2

/-- The ratio `n * base ^ e`. -/
def powerRatio (base n : Nat) (e : Int) : Nat × Nat :=
  if 0 ≤ e then (n * Nat.pow base e.toNat, 1) else (n, Nat.pow base (-e).toNat)

/-- The ends of the interval of magnitudes that round to the number. -/
def interval (x : Binary64) : (Nat × Nat) × (Nat × Nat) :=
  let below := if x.significand = Nat.pow 2 52 && minExponent < x.exponent then 1 else 2
  (powerRatio 2 (4 * x.significand - below) (x.exponent - 2),
    powerRatio 2 (4 * x.significand + 2) (x.exponent - 2))

/-- Does the ratio round to the number? The ends do when the significand is even. -/
def isRoundedFrom (x : Binary64) (r : Nat × Nat) : Bool :=
  let (low, high) := x.interval
  if x.significand % 2 = 0 then ratioLe low r && ratioLe r high
  else ratioLt low r && ratioLt r high

/-- The multiple of `10 ^ k` nearest to the number, of two the even one, among those that round to
it. -/
def gridPoint? (x : Binary64) (k : Int) : Option Nat :=
  let (num, den) := x.ratio
  let (num, den) :=
    if 0 ≤ k then (num, den * Nat.pow 10 k.toNat) else (num * Nat.pow 10 (-k).toNat, den)
  let down := num / den
  let fits (d : Nat) : Bool := isRoundedFrom x (powerRatio 10 d k)
  match fits down, fits (down + 1) with
  | true, true => some (nearest num den)
  | true, false => some down
  | false, true => some (down + 1)
  | false, false => none

/-- The digits and the power of ten of the shortest decimal that reads back as the number. Zero has
the digit 0. -/
def shortest (x : Binary64) : Nat × Int :=
  if x.significand = 0 then (0, 0)
  else
    let (num, den) := x.ratio
    let top : Int := (Nat.toDigits 10 (num / den)).length
    let exponents := (List.range 400).map fun (i : Nat) => top - i
    (exponents.findSome? fun k => (x.gridPoint? k).map fun d => (d, k)).getD (0, 0)

end AskTable.Binary64
