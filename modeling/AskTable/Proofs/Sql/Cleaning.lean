import AskTable.Proofs.Sql.Disguise
import AskTable.Proofs.Text.Trim
/-!
# What cleaning takes away

A candidate is trimmed, loses the semicolons at its end and is trimmed there again, before it is
checked. All that this can take away is padding: blanks around a statement, and behind it one run of
semicolons with blanks before and behind. So a candidate contains the statement that comes out of it
as it is, and no other statement comes out of padding than the one that was padded.

## Main definitions

* `Sql.IsPadded` - a text in padding
* `Sql.Policy.Recovers` - an acceptable statement that a candidate is made of by padding

## Main results

* `Sql.Policy.isPadded_clean` - cleaning takes away padding only
* `Sql.Policy.clean_of_isPadded` - cleaning takes away all the padding of a statement
* `Sql.Policy.sanitize_iff_recovers` - the statements that come out of candidates
-/

namespace AskTable.Sql

open Text (IsTrimmed isBlank trim trimEnd dropEnd)

/-- The candidate is the text with blanks before it and, behind it, blanks, a run of semicolons and
blanks again. Each of these may be missing. -/
def IsPadded (t candidate : Text) : Prop :=
  ∃ (before between after : Text) (n : Nat), (∀ c ∈ before, isBlank c = true) ∧
    (∀ c ∈ between, isBlank c = true) ∧ (∀ c ∈ after, isBlank c = true) ∧
    candidate = before ++ (t ++ (between ++ (List.replicate n ';' ++ after)))

theorem IsPadded.infix_candidate {t candidate : Text} (h : IsPadded t candidate) :
    t <:+: candidate := by
  obtain ⟨before, between, after, n, -, -, -, rfl⟩ := h
  exact List.infix_append' before t _

namespace Policy

variable {policy : Policy} {t candidate : Text}

/-! ## Cleaning -/

theorem clean_prefix_trim (candidate : Text) : clean candidate <+: trim candidate :=
  (List.rdropWhile_prefix isBlank _).trans (List.rdropWhile_prefix _ _)

theorem isTrimmed_clean (candidate : Text) : IsTrimmed (clean candidate) :=
  (Text.isTrimmed_trim candidate).of_isPrefix (clean_prefix_trim candidate)
    (Text.getLast?_dropEnd isBlank _)

/-- Cleaning takes away padding only. -/
theorem isPadded_clean (candidate : Text) : IsPadded (clean candidate) candidate := by
  obtain ⟨before, after, hcandidate, hbefore, hafter⟩ := Text.exists_eq_trim candidate
  obtain ⟨run, hrun, hsemicolons⟩ := Text.exists_eq_dropEnd (· = ';') (trim candidate)
  obtain ⟨between, hbetween, hblank⟩ :=
    Text.exists_eq_dropEnd isBlank (dropEnd (· = ';') (trim candidate))
  have hreplicate : run = List.replicate run.length ';' :=
    List.eq_replicate_iff.mpr ⟨rfl, fun c hc => of_decide_eq_true (hsemicolons c hc)⟩
  refine ⟨before, between, after, run.length, hbefore, hblank, hafter, ?_⟩
  calc candidate
    _ = before ++ trim candidate ++ after := hcandidate
    _ = before ++ (dropEnd (· = ';') (trim candidate) ++ run) ++ after := by rw [← hrun]
    _ = before ++ (clean candidate ++ between ++ run) ++ after := by
      rw [clean, trimEnd, ← hbetween]
    _ = before ++ (clean candidate ++ (between ++ (List.replicate run.length ';' ++ after))) := by
      rw [← hreplicate]
      simp only [List.append_assoc]

/-- Where a text without semicolons ends with blanks, no semicolons are taken away. -/
theorem dropEnd_semicolons_append {blanks : Text} (ht : ';' ∉ t)
    (hblanks : ∀ c ∈ blanks, isBlank c = true) :
    dropEnd (· = ';') (t ++ blanks) = t ++ blanks := by
  refine Text.dropEnd_eq_self fun c hc => decide_eq_false ?_
  rintro rfl
  rcases List.mem_append.mp (List.mem_of_getLast? hc) with hmem | hmem
  · exact ht hmem
  · exact absurd (hblanks _ hmem) (by decide)

/-- Semicolons keep the blanks before them from being trimmed. -/
theorem trimEnd_semicolons {between after : Text} (hafter : ∀ c ∈ after, isBlank c = true)
    (n : Nat) : trimEnd (between ++ (List.replicate (n + 1) ';' ++ after)) =
      between ++ List.replicate (n + 1) ';' := by
  have hlast : ∀ c ∈ (between ++ List.replicate (n + 1) ';').getLast?, isBlank c = false := by
    rw [List.replicate_succ', ← List.append_assoc, List.getLast?_concat]
    intro c hc
    rw [← Option.some.inj hc]
    decide
  rw [← List.append_assoc, trimEnd, Text.dropEnd_append_of_all hafter, Text.dropEnd_eq_self hlast]

/-- Without outer blanks and the semicolons at its end, a padded statement has only blanks behind
it. -/
theorem exists_dropEnd_trim_of_isPadded (ht : IsTrimmed t) (hne : t ≠ []) (hsemicolon : ';' ∉ t)
    (h : IsPadded t candidate) : ∃ blanks, dropEnd (· = ';') (trim candidate) = t ++ blanks ∧
      ∀ c ∈ blanks, isBlank c = true := by
  obtain ⟨before, between, after, n, hbefore, hbetween, hafter, rfl⟩ := h
  rw [ht.trim_append hne, Text.trimStart_of_all hbefore, List.nil_append]
  -- Without semicolons all that stands behind the statement is trimmed, and nothing else is left.
  cases n with
  | zero =>
    have hblank : ∀ c ∈ between ++ ([] ++ after), isBlank c = true :=
      List.forall_mem_append.mpr ⟨hbetween, hafter⟩
    refine ⟨[], ?_, List.forall_mem_nil _⟩
    rw [List.replicate_zero, trimEnd, Text.dropEnd_of_all hblank]
    exact dropEnd_semicolons_append hsemicolon (List.forall_mem_nil _)
  | succ n =>
    have hrun : ∀ c ∈ List.replicate (n + 1) ';', decide (c = ';') = true :=
      fun c hc => decide_eq_true (List.eq_of_mem_replicate hc)
    refine ⟨between, ?_, hbetween⟩
    rw [trimEnd_semicolons hafter, ← List.append_assoc, Text.dropEnd_append_of_all hrun]
    exact dropEnd_semicolons_append hsemicolon hbetween

/-- Cleaning takes away all the padding of a statement. -/
theorem clean_of_isPadded (ht : IsTrimmed t) (hne : t ≠ []) (hsemicolon : ';' ∉ t)
    (h : IsPadded t candidate) : clean candidate = t := by
  obtain ⟨blanks, hdrop, hblanks⟩ := exists_dropEnd_trim_of_isPadded ht hne hsemicolon h
  calc clean candidate
    _ = trimEnd (t ++ blanks) := by rw [clean, hdrop]
    _ = trimEnd t := Text.dropEnd_append_of_all hblanks t
    _ = t := Text.trimEnd_eq_self ht.last

/-! ## Statements that come out of candidates -/

/-- The text is an acceptable statement, and the candidate is this text in padding. -/
structure Recovers (policy : Policy) (candidate t : Text) : Prop where
  trimmed : IsTrimmed t
  accepted : policy.check t = .ok ()
  padded : IsPadded t candidate

theorem sanitize_eq_ok_iff :
    policy.sanitize candidate = .ok ⟨t⟩ ↔ clean candidate = t ∧ policy.check t = .ok () := by
  constructor
  · intro h
    obtain ⟨htext, hcheck⟩ := check_of_sanitize h
    exact ⟨htext.symm, hcheck⟩
  · rintro ⟨rfl, hcheck⟩
    rw [sanitize, hcheck]
    rfl

theorem ne_nil_of_check (h : policy.check t = .ok ()) : t ≠ [] := by
  rintro rfl
  obtain ⟨start, hstart, hselect⟩ := exists_select_of_check h
  rw [List.prefix_nil.mp hstart] at hselect
  cases hselect

/-- A padded statement has no other text in it that was padded. -/
theorem Recovers.clean_eq (h : policy.Recovers candidate t) : clean candidate = t :=
  clean_of_isPadded h.trimmed (ne_nil_of_check h.accepted) (notMem_of_check h.accepted) h.padded

theorem sanitize_eq_ok_iff_recovers :
    policy.sanitize candidate = .ok ⟨t⟩ ↔ policy.Recovers candidate t := by
  rw [sanitize_eq_ok_iff]
  constructor
  · rintro ⟨rfl, hcheck⟩
    exact ⟨isTrimmed_clean candidate, hcheck, isPadded_clean candidate⟩
  · intro h
    exact ⟨h.clean_eq, h.accepted⟩

/-- An acceptable statement without outer blanks is a candidate for itself. -/
theorem Recovers.self (h : policy.Recovers candidate t) : policy.Recovers t t := by
  refine ⟨h.trimmed, h.accepted, [], [], [], 0, ?_⟩
  simp

/-- Exactly the padded forms of acceptable statements are accepted. The statement that comes out is
the only one that the candidate is made of by padding, it is a piece of the candidate without a
semicolon, and it comes out of itself. Every other candidate is refused. -/
theorem sanitize_iff_recovers (policy : Policy) (candidate : Text) :
    (∀ t, policy.sanitize candidate = .ok ⟨t⟩ ↔ policy.Recovers candidate t) ∧
    (∀ t u, policy.Recovers candidate t → policy.Recovers candidate u → t = u) ∧
    (∀ t, policy.Recovers candidate t →
      t <:+: candidate ∧ ';' ∉ t ∧ policy.sanitize t = .ok ⟨t⟩) ∧
    ((¬ ∃ t, policy.Recovers candidate t) →
      ∃ violation, policy.sanitize candidate = .error violation) := by
  refine ⟨fun t => sanitize_eq_ok_iff_recovers, ?_, ?_, ?_⟩
  · intro t u ht hu
    rw [← ht.clean_eq, ← hu.clean_eq]
  · intro t h
    exact ⟨h.padded.infix_candidate, notMem_of_check h.accepted,
      sanitize_eq_ok_iff_recovers.mpr h.self⟩
  · intro hnone
    cases hsanitize : policy.sanitize candidate with
    | error violation => exact ⟨violation, rfl⟩
    | ok statement =>
      exact absurd ⟨statement.text, sanitize_eq_ok_iff_recovers.mp hsanitize⟩ hnone

-- The semicolons of two runs are not all at the end, since only one run of them is padding.
example : strict.sanitize "\tSELECT avg(age) FROM default.MOCK_DATA ;;\n" =
      .ok ⟨"SELECT avg(age) FROM default.MOCK_DATA"⟩ ∧
    strict.sanitize "SELECT avg(age) FROM default.MOCK_DATA ; ;" = .error .semicolon := by
  decide +kernel

end Policy

end AskTable.Sql
