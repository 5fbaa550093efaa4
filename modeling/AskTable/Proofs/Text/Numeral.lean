import AskTable.Text.Numeral
import Mathlib.Data.List.Induction
import Mathlib.Data.Nat.Basic
/-!
# Numerals as they are read

A numeral is one digit or more, read from left to right; zeros may lead it, and a plus sign may
stand in front of it. What is read of a text is the number of the numeral that the text is, when it
is below the bound. Nothing else is read: no other sign, no blank and no digit of another script.

## Main definitions

* `Text.IsDecimal` - digits with the number that they write
* `Text.IsNumeral` - the same, with or without a plus sign

## Main results

* `Text.digitsValue?_eq_some_iff` - digits are read as what they write
* `Text.natBelow?_eq_some_iff` - exactly the numerals of numbers below the bound are read
-/

namespace AskTable.Text

variable {t : Text} {n m bound : Nat}

/-- The digits write the number. -/
inductive IsDecimal : Text → Nat → Prop
  | digit {d : Nat} (hd : d < 10) : IsDecimal [Nat.digitChar d] d
  | concat {t : Text} {n d : Nat} (h : IsDecimal t n) (hd : d < 10) :
      IsDecimal (t ++ [Nat.digitChar d]) (10 * n + d)

/-- The digits write the number, and a plus sign may stand in front of them. -/
inductive IsNumeral : Text → Nat → Prop
  | unsigned {t : Text} {n : Nat} (h : IsDecimal t n) : IsNumeral t n
  | plus {t : Text} {n : Nat} (h : IsDecimal t n) : IsNumeral ('+' :: t) n

/-- A digit is that of its value. -/
theorem exists_digitChar {c : Char} (h : c.isDigit = true) : ∃ d < 10, c = Nat.digitChar d := by
  have hdigits : ∀ k < 58, 48 ≤ k → Char.ofNat k = Nat.digitChar (k - 48) := by decide
  simp only [Char.isDigit, Bool.and_eq_true, decide_eq_true_eq] at h
  have hlow : 48 ≤ c.toNat := h.1
  have hhigh : c.toNat ≤ 57 := h.2
  refine ⟨c.toNat - 48, by omega, ?_⟩
  rw [← hdigits c.toNat (by omega) hlow, Char.ofNat_toNat]

theorem toNat_digitChar {d : Nat} (h : d < 10) : (Nat.digitChar d).toNat - '0'.toNat = d := by
  have hdigits : ∀ d < 10, (Nat.digitChar d).toNat - '0'.toNat = d := by decide
  exact hdigits d h

theorem ofDigitChars_concat {d : Nat} (h : d < 10) (t : Text) (n : Nat) :
    Nat.ofDigitChars 10 (t ++ [Nat.digitChar d]) n = 10 * Nat.ofDigitChars 10 t n + d := by
  rw [Nat.ofDigitChars_append, Nat.ofDigitChars_cons, Nat.ofDigitChars_nil, toNat_digitChar h]

namespace IsDecimal

theorem ne_nil (h : IsDecimal t n) : t ≠ [] := by
  cases h with
  | digit hd => exact List.cons_ne_nil _ _
  | concat h hd => exact List.append_ne_nil_of_right_ne_nil _ (List.cons_ne_nil _ _)

theorem isDigit (h : IsDecimal t n) : ∀ c ∈ t, c.isDigit = true := by
  induction h with
  | digit hd =>
    rw [List.forall_mem_singleton, Nat.isDigit_digitChar]
    exact decide_eq_true hd
  | concat h hd ih =>
    rw [List.forall_mem_append, List.forall_mem_singleton, Nat.isDigit_digitChar]
    exact ⟨ih, decide_eq_true hd⟩

theorem ofDigitChars_eq (h : IsDecimal t n) : Nat.ofDigitChars 10 t 0 = n := by
  induction h with
  | digit hd => exact (ofDigitChars_concat hd [] 0).trans (Nat.zero_add _)
  | concat h hd ih => rw [ofDigitChars_concat hd, ih]

end IsDecimal

/-- Digits write their value. -/
theorem isDecimal_ofDigitChars (hne : t ≠ []) (h : ∀ c ∈ t, c.isDigit = true) :
    IsDecimal t (Nat.ofDigitChars 10 t 0) := by
  -- From the right, since the last digit is the one of the least weight.
  induction t using List.reverseRecOn with
  | nil => exact absurd rfl hne
  | append_singleton t c ih =>
    obtain ⟨hdigits, hc⟩ := List.forall_mem_append.mp h
    obtain ⟨d, hd, rfl⟩ := exists_digitChar (hc c List.mem_cons_self)
    rw [ofDigitChars_concat hd]
    by_cases ht : t = []
    · subst ht
      have hvalue : 10 * Nat.ofDigitChars 10 [] 0 + d = d := Nat.zero_add d
      rw [hvalue]
      exact .digit hd
    · exact .concat (ih ht hdigits) hd

theorem digitsValue?_eq_some_iff : digitsValue? t = some n ↔ IsDecimal t n := by
  rw [digitsValue?]
  constructor
  · intro h
    split_ifs at h with ht
    rw [← Option.some.inj h]
    exact isDecimal_ofDigitChars ht.1 (List.all_eq_true.mp ht.2)
  · intro h
    rw [if_pos ⟨h.ne_nil, List.all_eq_true.mpr h.isDigit⟩, h.ofDigitChars_eq]

/-- A plus sign is no digit. -/
theorem not_isDecimal_plus : ¬ IsDecimal ('+' :: t) n := by
  intro h
  exact absurd (h.isDigit '+' List.mem_cons_self) (by decide)

/-- Exactly the numerals of numbers below the bound are read. -/
theorem natBelow?_eq_some_iff : natBelow? bound t = some n ↔ IsNumeral t n ∧ n < bound := by
  unfold natBelow?
  rw [Option.filter_eq_some_iff, decide_eq_true_iff, and_congr_left_iff]
  intro _
  split
  · -- Behind the sign there are digits only, so no second sign.
    rw [digitsValue?_eq_some_iff]
    constructor
    · exact .plus
    · intro h
      cases h with
      | unsigned h => exact absurd h not_isDecimal_plus
      | plus h => exact h
  · rename_i hplus
    rw [digitsValue?_eq_some_iff]
    constructor
    · exact .unsigned
    · intro h
      cases h with
      | unsigned h => exact h
      | plus h => exact absurd rfl (hplus _)

/-- A numeral has no other characters than digits and a plus sign. -/
theorem IsNumeral.eq_plus_or_isDigit (h : IsNumeral t n) : ∀ c ∈ t, c = '+' ∨ c.isDigit = true := by
  intro c hc
  cases h with
  | unsigned h => exact Or.inr (h.isDigit c hc)
  | plus h =>
    rcases List.mem_cons.mp hc with rfl | hc
    · exact Or.inl rfl
    · exact Or.inr (h.isDigit c hc)

example : natBelow? UInt16.size "+0443" = some 443 := by decide

end AskTable.Text
