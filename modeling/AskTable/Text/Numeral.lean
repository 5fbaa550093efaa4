import AskTable.Text.Basic
/-!
# Decimal numerals

## Main definitions

* `Text.ofNat` - the decimal digits of a number
* `Text.natBelow?` - the number that a text of digits writes, when it is below a bound
* `Text.hexDigit?` - the value of a hexadecimal digit

## Main results

* `Text.natBelow?_ofNat` - a number below the bound is read back from its digits
-/

namespace AskTable.Text

/-- The number in decimal digits, without leading zeros. -/
def ofNat (n : Nat) : Text := Nat.toDigits 10 n

/-- An integer in decimal digits, after a minus sign if it is negative. -/
def ofInt : Int → Text
  | .ofNat n => ofNat n
  | .negSucc n => '-' :: ofNat (n + 1)

/-- The value of one or more ASCII digits. -/
def digitsValue? (t : Text) : Option Nat :=
  if t ≠ [] ∧ t.all Char.isDigit then some (Nat.ofDigitChars 10 t 0) else none

/-- The number that the text writes in ASCII digits, after an optional plus sign, when it is below
`bound`. -/
def natBelow? (bound : Nat) (t : Text) : Option Nat :=
  let digits := match t with
    | '+' :: rest => rest
    | _ => t
  (digitsValue? digits).filter (· < bound)

/-- The value of a hexadecimal digit. -/
def hexDigit? (c : Char) : Option Nat :=
  if '0' ≤ c ∧ c ≤ '9' then some (c.toNat - '0'.toNat)
  else if 'a' ≤ c ∧ c ≤ 'f' then some (c.toNat - 'a'.toNat + 10)
  else if 'A' ≤ c ∧ c ≤ 'F' then some (c.toNat - 'A'.toNat + 10)
  else none

theorem digitsValue?_ofNat (n : Nat) : digitsValue? (ofNat n) = some n := by
  have hall : ∀ c ∈ Nat.toDigits 10 n, c.isDigit = true := fun c hc =>
    Nat.isDigit_of_mem_toDigits (by decide) (by decide) hc
  simpa [digitsValue?, ofNat, Nat.toDigits_ne_nil, Nat.ofDigitChars_ten_toDigits] using hall

theorem natBelow?_ofNat {bound n : Nat} (h : n < bound) : natBelow? bound (ofNat n) = some n := by
  have hplus : ∀ rest, ofNat n ≠ '+' :: rest := by
    intro rest hr
    have hd : '+'.isDigit = true := Nat.isDigit_of_mem_toDigits (b := 10) (n := n)
      (by decide) (by decide) (by rw [← ofNat, hr]; simp)
    exact absurd hd (by decide)
  unfold natBelow?
  split
  · exact absurd ‹_› (hplus _)
  · simp [digitsValue?_ofNat, h]

end AskTable.Text
