import AskTable.Intent.Phrase
import AskTable.Text.LetterCase
/-!
# Characters of ASCII

What the classes of captured characters have in common: they are visible characters of ASCII, so
none of them is blank, and letters change case and back.

## Main results

* `Text.isBlank_eq_false` - visible characters of ASCII are not blank
* `Text.of_forall_blankRanges`, `Text.of_forall_ascii` - what is decided for the code points of
  blanks, and of ASCII
* `Phrase.isDomain_of_isLetter`, `Phrase.isDomain_of_isDigit` - the widest class of captures
* `Phrase.toLower_of_isDomain`, `Phrase.toLower_toUpper` - captures in lower case
-/

namespace AskTable

namespace Text

variable {c : Char}

/-- Visible characters of ASCII are not blank. -/
theorem isBlank_eq_false (h : 0x20 < c.toNat) (h' : c.toNat < 0x80) : isBlank c = false := by
  refine Bool.eq_false_iff.mpr fun hb => ?_
  obtain ⟨r, hr, hle, hge⟩ := CodeRange.exists_of_covers hb
  simp only [blankRanges, List.mem_cons, List.not_mem_nil, or_false] at hr
  rcases hr with rfl | rfl | rfl | rfl | rfl | rfl | rfl | rfl | rfl | rfl <;>
    simp only at hle hge <;> omega

/-- A blank has every property that the code points of blanks have. -/
theorem of_forall_blankRanges (p : Nat → Prop) (h : ∀ r ∈ blankRanges, ∀ k ≤ r.2 - r.1, p (r.1 + k))
    (hc : isBlank c = true) : p c.toNat := by
  obtain ⟨r, hr, hle, hge⟩ := CodeRange.exists_of_covers hc
  have hk := h r hr (c.toNat - r.1) (by omega)
  rwa [Nat.add_sub_cancel' hle] at hk

/-- A character of ASCII has every property that the code points of ASCII have. -/
theorem of_forall_ascii (p : Char → Prop) (h : ∀ n < 0x80, p (Char.ofNat n)) (hc : c.toNat < 0x80) :
    p c := by
  have hchar := h c.toNat hc
  rwa [Char.ofNat_toNat] at hchar

/-- Capital letters of ASCII lie in one range. -/
theorem isUpper_iff : c.isUpper = true ↔ 0x41 ≤ c.toNat ∧ c.toNat ≤ 0x5A := decide_eq_true_iff

/-- Small letters of ASCII lie in one range. -/
theorem isLower_iff : c.isLower = true ↔ 0x61 ≤ c.toNat ∧ c.toNat ≤ 0x7A :=
  (Bool.and_eq_true ..).to_iff.trans (and_congr decide_eq_true_iff decide_eq_true_iff)

/-- Letters of ASCII lie in two ranges. -/
theorem isAlpha_iff : c.isAlpha = true ↔
    (0x41 ≤ c.toNat ∧ c.toNat ≤ 0x5A) ∨ (0x61 ≤ c.toNat ∧ c.toNat ≤ 0x7A) :=
  (Bool.or_eq_true ..).to_iff.trans (or_congr isUpper_iff isLower_iff)

/-- Only capital letters of ASCII are changed. -/
theorem toLower_of_not_isUpper (h : ¬ c.isUpper = true) : c.toLower = c :=
  dif_neg (mt isUpper_iff.mpr h)

end Text

namespace Phrase

variable {c : Char}

theorem isLetter_iff : isLetter c = true ↔ 0x61 ≤ c.toNat ∧ c.toNat ≤ 0x7A := by
  simp only [isLetter, Bool.and_eq_true, decide_eq_true_eq]
  exact Iff.rfl

theorem isDigit_iff : isDigit c = true ↔ 0x30 ≤ c.toNat ∧ c.toNat ≤ 0x39 := by
  simp only [isDigit, Bool.and_eq_true, decide_eq_true_eq]
  exact Iff.rfl

theorem isDomain_of_isLetter (h : isLetter c = true) : isDomain c = true := by
  simp [isDomain, h]

theorem isDomain_of_isDigit (h : isDigit c = true) : isDomain c = true := by
  simp [isDomain, h]

/-- Captured characters are visible characters of ASCII. -/
theorem toNat_of_isDomain (h : isDomain c = true) : 0x20 < c.toNat ∧ c.toNat < 0x80 := by
  simp only [isDomain, Bool.or_eq_true, decide_eq_true_eq] at h
  rcases h with ((h | h) | rfl) | rfl
  · have := isLetter_iff.mp h
    omega
  · have := isDigit_iff.mp h
    omega
  · decide
  · decide

/-- A captured character is in lower case already. -/
theorem toLower_of_isDomain (h : isDomain c = true) : c.toLower = c :=
  Text.of_forall_ascii (fun c => isDomain c = true → c.toLower = c) (by decide +kernel)
    (toNat_of_isDomain h).2 h

/-- Upper case is undone by lower case. -/
theorem toLower_toUpper (h : isDomain c = true) : c.toUpper.toLower = c :=
  Text.of_forall_ascii (fun c => isDomain c = true → c.toUpper.toLower = c) (by decide +kernel)
    (toNat_of_isDomain h).2 h

/-- Upper case stays within ASCII. -/
theorem toNat_toUpper_lt (h : isDomain c = true) : c.toUpper.toNat < 0x80 :=
  Text.of_forall_ascii (fun c => c.toUpper.toNat < 0x80) (by decide +kernel) (toNat_of_isDomain h).2

end Phrase

end AskTable
