import AskTable.Proofs.Text.LetterCase
/-!
# What lower case does not see

The lower case of a text depends on what stands around it only through a capital sigma, which looks
for cased letters on both sides. Characters without a case do not answer this question, so a text
between such characters is lowered as it would be alone. And as both forms of a letter of ASCII are
cased, it does not matter in which of them the letters of ASCII were written.

## Main definitions

* `Text.IsCaseless` - a character that has no case and no other lower case

## Main results

* `Text.lowercase_between` - a text between characters without a case
* `Text.lowercase_eq_of_equalsIgnoringCase` - texts that differ in the case of ASCII letters
-/

namespace AskTable.Text

variable {a b t u : Text} {c : Char}

/-! ## Between characters without a case -/

/-- A character that is not cased and that lower case leaves as it is. -/
structure IsCaseless (c : Char) : Prop where
  uncased : CodeRange.covers casedRanges c.toNat = false
  lowerOf_eq : lowerOf c = [c]

theorem IsCaseless.ne_sigma (h : IsCaseless c) : c ≠ 'Σ' := by
  rintro rfl
  exact absurd h.uncased (by decide +kernel)

theorem isCaseless_of_isBlank (hc : isBlank c = true) : IsCaseless c where
  uncased :=
    of_forall_blankRanges (CodeRange.covers casedRanges · = false) (by decide +kernel) hc
  lowerOf_eq := lowerOf_of_isBlank hc

/-- The search for a cased letter passes over some characters and looks at the next. -/
theorem meetsCased_cons (c : Char) (t : Text) : meetsCased (c :: t) =
    if CodeRange.covers caseIgnorableRanges c.toNat then meetsCased t
    else CodeRange.covers casedRanges c.toNat := by
  rw [meetsCased, List.dropWhile_cons]
  split_ifs <;> rfl

theorem meetsCased_of_caseless (hb : ∀ c ∈ b, IsCaseless c) : meetsCased b = false := by
  induction b with
  | nil => rfl
  | cons c b ih =>
    rw [List.forall_mem_cons] at hb
    rw [meetsCased_cons, hb.1.uncased, ih hb.2, ite_self]

theorem meetsCased_append (hb : ∀ c ∈ b, IsCaseless c) : meetsCased (a ++ b) = meetsCased a := by
  induction a with
  | nil => exact meetsCased_of_caseless hb
  | cons c a ih => rw [List.cons_append, meetsCased_cons, meetsCased_cons, ih]

/-- Characters without a case are left alone. -/
theorem lowercaseFrom_caseless_append (hu : ∀ c ∈ u, IsCaseless c) (before t : Text) :
    lowercaseFrom before (u ++ t) = u ++ lowercaseFrom (u.reverse ++ before) t := by
  induction u generalizing before with
  | nil => rfl
  | cons c u ih =>
    rw [List.forall_mem_cons] at hu
    rw [List.cons_append, lowercaseFrom, if_neg hu.1.ne_sigma, hu.1.lowerOf_eq, ih hu.2]
    simp

/-- Characters without a case behind a text do not change its lower case. -/
theorem lowercaseFrom_append (hb : ∀ c ∈ b, IsCaseless c) (before a : Text) :
    lowercaseFrom before (a ++ b) = lowercaseFrom before a ++ b := by
  induction a generalizing before with
  | nil =>
    have hself := lowercaseFrom_caseless_append hb before []
    rwa [List.append_nil, lowercaseFrom, List.append_nil] at hself
  | cons c a ih =>
    rw [List.cons_append, lowercaseFrom, lowercaseFrom, meetsCased_append hb, ih, List.append_assoc]

/-- Characters without a case in front of all that stands before a text do not matter. -/
theorem lowercaseFrom_before_append (hu : ∀ c ∈ u, IsCaseless c) (before t : Text) :
    lowercaseFrom (before ++ u) t = lowercaseFrom before t := by
  induction t generalizing before with
  | nil => rfl
  | cons c t ih =>
    rw [lowercaseFrom, lowercaseFrom, meetsCased_append hu, ← List.cons_append, ih]

/-- A text between characters without a case is lowered as it would be alone. -/
theorem lowercase_between (ha : ∀ c ∈ a, IsCaseless c) (hb : ∀ c ∈ b, IsCaseless c) (t : Text) :
    lowercase (a ++ (t ++ b)) = a ++ (lowercase t ++ b) := by
  have hreverse : ∀ c ∈ a.reverse, IsCaseless c := fun c hc => ha c (List.mem_reverse.mp hc)
  rw [lowercase, lowercaseFrom_caseless_append ha, List.append_nil, lowercaseFrom_append hb,
    ← List.nil_append a.reverse, lowercaseFrom_before_append hreverse, lowercase]

/-! ## Letters of ASCII in either case -/

/-- A letter of ASCII is looked at alike in either case. -/
theorem covers_toLower (c : Char) :
    CodeRange.covers caseIgnorableRanges c.toLower.toNat =
      CodeRange.covers caseIgnorableRanges c.toNat ∧
    CodeRange.covers casedRanges c.toLower.toNat = CodeRange.covers casedRanges c.toNat ∧
    lowerOf c.toLower = lowerOf c ∧ (c.toLower = 'Σ' ↔ c = 'Σ') := by
  by_cases hupper : c.isUpper = true
  · have hrange := isUpper_iff.mp hupper
    exact of_forall_ascii
      (fun c => CodeRange.covers caseIgnorableRanges c.toLower.toNat =
          CodeRange.covers caseIgnorableRanges c.toNat ∧
        CodeRange.covers casedRanges c.toLower.toNat = CodeRange.covers casedRanges c.toNat ∧
        lowerOf c.toLower = lowerOf c ∧ (c.toLower = 'Σ' ↔ c = 'Σ'))
      (by decide +kernel) (by omega)
  · rw [toLower_of_not_isUpper hupper]
    exact ⟨rfl, rfl, rfl, Iff.rfl⟩

theorem meetsCased_map_toLower (t : Text) : meetsCased (t.map Char.toLower) = meetsCased t := by
  induction t with
  | nil => rfl
  | cons c t ih =>
    obtain ⟨hignorable, hcased, -, -⟩ := covers_toLower c
    rw [List.map_cons, meetsCased_cons, meetsCased_cons, hignorable, hcased, ih]

theorem lowercaseFrom_map_toLower (before t : Text) :
    lowercaseFrom (before.map Char.toLower) (t.map Char.toLower) = lowercaseFrom before t := by
  induction t generalizing before with
  | nil => rfl
  | cons c t ih =>
    obtain ⟨-, -, hlower, hsigma⟩ := covers_toLower c
    have hrest := ih (c :: before)
    rw [List.map_cons] at hrest
    rw [List.map_cons, lowercaseFrom, lowercaseFrom, meetsCased_map_toLower,
      meetsCased_map_toLower, hlower, hrest]
    simp only [hsigma]

/-- Texts that differ only in the case of ASCII letters have the same lower case. -/
theorem lowercase_eq_of_equalsIgnoringCase (h : equalsIgnoringCase t u = true) :
    lowercase t = lowercase u := by
  have hmap (t : Text) : lowercase (t.map Char.toLower) = lowercase t :=
    lowercaseFrom_map_toLower [] t
  rw [← hmap t, beq_iff_eq.mp h, hmap]

end AskTable.Text
