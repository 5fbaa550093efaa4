import AskTable.Json.Printer
import Mathlib.Data.Nat.Basic
import Mathlib.Tactic.SplitIfs
/-!
# Numbers in JSON

Integers and floating-point numbers are written as the grammar of JSON wants numbers. A decimal
with few digits and a power of ten is a number unless it is zero times a power, which would get
zeros in front of the point; the digits that are chosen for a floating-point number are no such
decimal.

## Main definitions

* `Json.IsNumber` - the text of a number: sign, whole number, fraction and exponent

## Main results

* `Json.isNumber_ofInt` - an integer is written as a number
* `Json.isMagnitude_decimalText` - digits and a power of ten are written as a number
* `Binary64.shortest_pos` - the digits of a number other than zero are not zero
* `Json.isNumber_floatText` - a floating-point number is written as a number
-/

namespace AskTable

namespace Json

/-- One digit or more. -/
structure IsDigits (t : Text) : Prop where
  ne_nil : t ≠ []
  isDigit : ∀ c ∈ t, c.isDigit = true

/-- The digits of a whole number. A zero does not stand in front of other digits. -/
structure IsWhole (t : Text) : Prop extends IsDigits t where
  leading : t.head? = some '0' → t = ['0']

/-- The digits after a point, if there is one. -/
inductive IsFraction : Text → Prop
  | none : IsFraction []
  | point {digits : Text} (h : IsDigits digits) : IsFraction ('.' :: digits)

/-- The exponent with its mark, if there is one. -/
inductive IsExponent : Text → Prop
  | none : IsExponent []
  | mark {c : Char} {sign digits : Text} (hc : c ∈ ['e', 'E']) (hsign : sign ∈ [[], ['+'], ['-']])
      (h : IsDigits digits) : IsExponent (c :: (sign ++ digits))

/-- A number without a sign. -/
inductive IsMagnitude : Text → Prop
  | mk {whole fraction exponent : Text} (hwhole : IsWhole whole) (hfraction : IsFraction fraction)
      (hexponent : IsExponent exponent) : IsMagnitude (whole ++ fraction ++ exponent)

/-- A number. -/
inductive IsNumber : Text → Prop
  | positive {t : Text} (h : IsMagnitude t) : IsNumber t
  | negative {t : Text} (h : IsMagnitude t) : IsNumber ('-' :: t)

variable {t : Text} {d : Nat} {k : Int}

theorem isDigits_ofNat (n : Nat) : IsDigits (Text.ofNat n) where
  ne_nil := Nat.toDigits_ne_nil
  isDigit _ hc := Nat.isDigit_of_mem_toDigits (by decide) (by decide) hc

theorem IsDigits.head?_append (h : IsDigits t) (more : Text) : (t ++ more).head? = t.head? := by
  obtain ⟨c, t, rfl⟩ := List.exists_cons_of_ne_nil h.ne_nil
  rfl

/-- The first digit of a positive number is not zero. -/
theorem head?_ofNat_ne_zero {n : Nat} (h : 0 < n) : (Text.ofNat n).head? ≠ some '0' := by
  induction n using Nat.strong_induction_on with
  | _ n ih =>
    rw [Text.ofNat]
    by_cases hn : n < 10
    · have hdigit : ∀ n < 10, 0 < n → ([Nat.digitChar n] : Text).head? ≠ some '0' := by decide
      rw [Nat.toDigits_of_lt_base hn]
      exact hdigit n hn h
    · rw [Nat.toDigits_of_base_le (by decide) (Nat.le_of_not_lt hn),
        ← Text.ofNat, (isDigits_ofNat (n / 10)).head?_append]
      exact ih (n / 10) (by omega) (by omega)

theorem isWhole_ofNat (n : Nat) : IsWhole (Text.ofNat n) where
  toIsDigits := isDigits_ofNat n
  leading hzero := by
    cases n with
    | zero => rfl
    | succ n => exact absurd hzero (head?_ofNat_ne_zero n.succ_pos)

/-- A whole number without point and exponent. -/
theorem IsWhole.isMagnitude (h : IsWhole t) : IsMagnitude t := by
  simpa using IsMagnitude.mk h .none .none

theorem isNumber_ofInt (n : Int) : IsNumber (Text.ofInt n) := by
  cases n with
  | ofNat n => exact .positive (isWhole_ofNat n).isMagnitude
  | negSucc n => exact .negative (isWhole_ofNat (n + 1)).isMagnitude

theorem IsDigits.append (h : IsDigits t) {more : Text} (hmore : ∀ c ∈ more, c.isDigit = true) :
    IsDigits (t ++ more) where
  ne_nil := List.append_ne_nil_of_left_ne_nil h.ne_nil more
  isDigit c hc := (List.mem_append.mp hc).elim (h.isDigit c) (hmore c)

theorem isDigit_of_mem_replicate {n : Nat} {c : Char} (hc : c ∈ List.replicate n '0') :
    c.isDigit = true := by
  obtain rfl := List.eq_of_mem_replicate hc
  rfl

/-- A single digit is a whole number. -/
theorem isWhole_singleton {c : Char} (hc : c.isDigit = true) : IsWhole [c] where
  ne_nil := List.cons_ne_nil c []
  isDigit := List.forall_mem_singleton.mpr hc
  leading hzero := by rw [Option.some.inj hzero]

/-- Digits behind a positive number make another one. -/
theorem isWhole_ofNat_append (hd : 0 < d) {more : Text} (hmore : ∀ c ∈ more, c.isDigit = true) :
    IsWhole (Text.ofNat d ++ more) where
  toIsDigits := (isDigits_ofNat d).append hmore
  leading hzero := by
    rw [(isDigits_ofNat d).head?_append] at hzero
    exact absurd hzero (head?_ofNat_ne_zero hd)

/-- The first digits of a positive number are a whole number. -/
theorem isWhole_take (hd : 0 < d) {n : Nat} (hn : 0 < n) : IsWhole ((Text.ofNat d).take n) where
  ne_nil := by
    rw [Ne, List.take_eq_nil_iff]
    exact not_or.mpr ⟨Nat.pos_iff_ne_zero.mp hn, (isDigits_ofNat d).ne_nil⟩
  isDigit c hc := (isDigits_ofNat d).isDigit c (List.mem_of_mem_take hc)
  leading hzero := by
    rw [List.head?_take, if_neg (Nat.pos_iff_ne_zero.mp hn)] at hzero
    exact absurd hzero (head?_ofNat_ne_zero hd)

/-- The last digits of a number, if there are any. -/
theorem isDigits_drop {n : Nat} (hn : n < (Text.ofNat d).length) :
    IsDigits ((Text.ofNat d).drop n) where
  ne_nil := by
    rw [Ne, List.drop_eq_nil_iff]
    exact Nat.not_le.mpr hn
  isDigit c hc := (isDigits_ofNat d).isDigit c (List.mem_of_mem_drop hc)

/-- A power of ten is written as an exponent, with its sign. -/
theorem isExponent_ofInt (n : Int) :
    IsExponent ((if 0 < n + 1 then "e+" else "e" : String).toList ++ Text.ofInt n) := by
  cases n with
  | ofNat n =>
    have hsign : 0 < Int.ofNat n + 1 := Int.lt_add_one_iff.mpr (Int.natCast_nonneg n)
    rw [if_pos hsign]
    change IsExponent ('e' :: (['+'] ++ Text.ofNat n))
    exact .mark (by decide) (by decide) (isDigits_ofNat n)
  | negSucc n =>
    have hsign : ¬ 0 < Int.negSucc n + 1 := Int.not_lt.mpr (Int.negSucc_lt_zero n)
    rw [if_neg hsign]
    change IsExponent ('e' :: (['-'] ++ Text.ofNat (n + 1)))
    exact .mark (by decide) (by decide) (isDigits_ofNat (n + 1))

/-- A decimal is written as a number, unless it is zero times a power. -/
theorem isMagnitude_decimalText (h : 0 < d ∨ (d, k) = (0, 0)) :
    IsMagnitude (decimalText d k) := by
  have hzero : IsDigits ['0'] := isDigits_ofNat 0
  have hdigits := isDigits_ofNat d
  simp only [decimalText]
  split
  · -- Zeros follow the digits.
    have hwhole : IsWhole (Text.ofNat d ++ List.replicate k.toNat '0') := by
      rcases h with hd | hnone
      · exact isWhole_ofNat_append hd fun c => isDigit_of_mem_replicate
      · cases hnone
        exact isWhole_ofNat 0
    simpa using IsMagnitude.mk hwhole (.point hzero) .none
  rename_i hbehind
  split
  · -- The point is among the digits.
    rename_i hpoint
    have hd : 0 < d := by
      rcases h with hd | hnone
      · exact hd
      · cases hnone
        exact absurd ⟨Int.le_refl 0, hpoint.2⟩ hbehind
    have hwhole := isWhole_take hd (n := ((Text.ofNat d).length + k).toNat) (by omega)
    have hfraction := isDigits_drop (d := d) (n := ((Text.ofNat d).length + k).toNat) (by omega)
    simpa using IsMagnitude.mk hwhole (.point hfraction) .none
  split
  · -- Zeros stand in front of the digits.
    have hfraction : IsDigits (List.replicate (-(((Text.ofNat d).length : Int) + k)).toNat '0' ++
        Text.ofNat d) := by
      refine ⟨List.append_ne_nil_of_right_ne_nil _ hdigits.ne_nil, fun c hc => ?_⟩
      exact (List.mem_append.mp hc).elim isDigit_of_mem_replicate (hdigits.isDigit c)
    simpa using IsMagnitude.mk (isWhole_singleton (c := '0') rfl) (.point hfraction) .none
  · -- One digit stands in front of the point, and an exponent behind the others.
    have hexponent := isExponent_ofInt (((Text.ofNat d).length + k) - 1)
    rw [Int.sub_add_cancel] at hexponent
    obtain ⟨first, rest, hcons⟩ := List.exists_cons_of_ne_nil hdigits.ne_nil
    rw [hcons] at hdigits hexponent ⊢
    have hwhole : IsWhole [first] := isWhole_singleton (hdigits.isDigit first List.mem_cons_self)
    cases rest with
    | nil => simpa using IsMagnitude.mk hwhole .none hexponent
    | cons second rest =>
      have hfraction : IsDigits (second :: rest) := by
        refine ⟨List.cons_ne_nil second rest, fun c hc => ?_⟩
        exact hdigits.isDigit c (List.mem_cons_of_mem first hc)
      simpa using IsMagnitude.mk hwhole (.point hfraction) hexponent

end Json

/-! ## Fewest digits -/

namespace Binary64

variable {x : Binary64} {d : Nat} {k : Int}

theorem powerRatio_fst_pos {base n : Nat} {e : Int} (hbase : 0 < base) (hn : 0 < n) :
    0 < (powerRatio base n e).1 := by
  rw [powerRatio]
  split
  · exact Nat.mul_pos hn (Nat.pow_pos hbase)
  · exact hn

theorem powerRatio_snd_pos {base n : Nat} {e : Int} (hbase : 0 < base) :
    0 < (powerRatio base n e).2 := by
  rw [powerRatio]
  split
  · exact Nat.one_pos
  · exact Nat.pow_pos hbase

theorem powerRatio_zero {base : Nat} {e : Int} : (powerRatio base 0 e).1 = 0 := by
  rw [powerRatio]
  split
  · exact Nat.zero_mul _
  · rfl

/-- Zero does not round to another number. -/
theorem isRoundedFrom_zero (hx : x.significand ≠ 0) :
    x.isRoundedFrom (powerRatio 10 0 k) = false := by
  have hlow : 0 < x.interval.1.1 := by
    refine powerRatio_fst_pos (by decide) ?_
    split <;> omega
  have hden : 0 < (powerRatio 10 0 k).2 := powerRatio_snd_pos (by decide)
  have hpos := Nat.mul_pos hlow hden
  have hle : ratioLe x.interval.1 (powerRatio 10 0 k) = false := by
    rw [ratioLe, powerRatio_zero, Nat.zero_mul]
    exact decide_eq_false (Nat.not_le.mpr hpos)
  have hlt : ratioLt x.interval.1 (powerRatio 10 0 k) = false := by
    rw [ratioLt, powerRatio_zero, Nat.zero_mul]
    exact decide_eq_false (Nat.not_lt_zero _)
  simp only [isRoundedFrom, hle, hlt, Bool.false_and, ite_self]

theorem div_le_nearest (num den : Nat) : num / den ≤ nearest num den := by
  simp only [nearest]
  split
  · exact Nat.le_refl _
  split
  · exact Nat.le_succ _
  · exact Nat.le_add_right _ _

/-- A grid point that rounds to a number other than zero is not zero. -/
theorem pos_of_gridPoint? (hx : x.significand ≠ 0) (h : x.gridPoint? k = some d) : 0 < d := by
  simp only [gridPoint?] at h
  generalize (if 0 ≤ k then (x.ratio.1, x.ratio.2 * Nat.pow 10 k.toNat)
      else (x.ratio.1 * Nat.pow 10 (-k).toNat, x.ratio.2)) = r at h
  -- The neighbour below is taken only if it rounds to the number, which zero does not.
  have hdown : x.isRoundedFrom (powerRatio 10 (r.1 / r.2) k) = true → 0 < r.1 / r.2 := by
    intro hfits
    refine Nat.pos_iff_ne_zero.mpr fun hzero => ?_
    rw [hzero, isRoundedFrom_zero hx] at hfits
    cases hfits
  split at h
  · rename_i hfits _
    rw [← Option.some.inj h]
    exact Nat.lt_of_lt_of_le (hdown hfits) (div_le_nearest r.1 r.2)
  · rename_i hfits _
    rw [← Option.some.inj h]
    exact hdown hfits
  · rw [← Option.some.inj h]
    exact Nat.succ_pos _
  · cases h

/-- The digits of a number other than zero are not zero. -/
theorem shortest_pos (x : Binary64) : 0 < x.shortest.1 ∨ x.shortest = (0, 0) := by
  rw [shortest]
  split
  · exact .inr rfl
  · rename_i hx
    simp only
    cases hfound : List.findSome? (fun k => (x.gridPoint? k).map fun d => (d, k))
        ((List.range 400).map fun (i : Nat) =>
          ((Nat.toDigits 10 (x.ratio.1 / x.ratio.2)).length : Int) - i) with
    | none => exact .inr rfl
    | some point =>
      obtain ⟨k, _, hpoint⟩ := List.exists_of_findSome?_eq_some hfound
      obtain ⟨d, hd, rfl⟩ := Option.map_eq_some_iff.mp hpoint
      exact .inl (pos_of_gridPoint? hx hd)

end Binary64

/-- A floating-point number is written as a number. -/
theorem Json.isNumber_floatText (x : Binary64) : IsNumber (floatText x) := by
  have hdecimal := isMagnitude_decimalText (Binary64.shortest_pos x)
  rw [floatText]
  cases x.negative with
  | true => exact .negative hdecimal
  | false => exact .positive hdecimal

end AskTable
