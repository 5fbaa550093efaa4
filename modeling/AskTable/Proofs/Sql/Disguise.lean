import AskTable.Proofs.Sql.Verdict
import AskTable.Proofs.Text.LetterCase
/-!
# Disguised statements

The policy reads a text in lower case and without outer blanks. Lower case changes more than the
letters of ASCII: `İ` becomes two characters, the sign of the kelvin becomes the letter `k`, and a
capital sigma depends on what stands around it. Nothing of this hides a semicolon or a keyword, and
nothing of this makes a text begin like a query that does not begin so itself.

## Main results

* `Sql.Policy.infix_lowercase_trim` - what stands in a text in any case is seen by the policy
* `Sql.Policy.exists_check_eq_error` - a text with something forbidden in any case is refused
-/

namespace AskTable.Sql.Policy

open Text (includes beginsWith isBlank trim lowercase)

variable {policy : Policy} {t : Text}

/-- An unwanted word in any case is not empty. -/
theorem ne_nil_of_lowered {part : Text} (hword : lowered part ∈ unwantedWords) : part ≠ [] := by
  rintro rfl
  exact ne_nil_of_mem_unwantedWords _ hword rfl

/-- An unwanted word in any case has no blanks. -/
theorem isBlank_eq_false_of_lowered {part : Text} (hword : lowered part ∈ unwantedWords) :
    ∀ c ∈ part, isBlank c = false := by
  have hascii : ∀ c ∈ part, c.toLower.toNat < 0x80 :=
    List.forall_mem_map.mp (toNat_of_mem_unwantedWords hword)
  intro c hc
  refine Bool.eq_false_iff.mpr fun hblank => ?_
  -- A blank is its own lower case, and separates the unwanted words.
  have hlower := Text.lowerOf_of_isBlank hblank
  rw [Text.lowerOf, if_pos (Text.toNat_lt_of_toLower (hascii c hc))] at hlower
  have hmem : c ∈ lowered part := List.mem_map.mpr ⟨c, hc, (List.cons.inj hlower).1⟩
  exact notMem_of_isSeparator (isSeparator_of_isBlank hblank) _ hword hmem

/-- An unwanted word that stands in a text, in any case and at any place, stands in what the policy
reads. -/
theorem infix_lowercase_trim {part : Text} (hword : lowered part ∈ unwantedWords)
    (h : part <:+: t) : lowered part <:+: lowercase (trim t) := by
  have hascii : ∀ c ∈ part, c.toLower.toNat < 0x80 :=
    List.forall_mem_map.mp (toNat_of_mem_unwantedWords hword)
  have htrim := Text.infix_trim_iff (t := t) (ne_nil_of_lowered hword)
    (isBlank_eq_false_of_lowered hword)
  exact Text.infix_lowercase_of_infix hascii (htrim.mpr h)

/-- An accepted text has no semicolon. -/
theorem notMem_of_check (h : policy.check t = .ok ()) : ';' ∉ t := by
  intro hmem
  obtain ⟨a, b, ht⟩ := List.append_of_mem hmem
  have hsemicolon : ([';'] : Text) <:+: t := ⟨a, b, by rw [ht, List.append_assoc]; rfl⟩
  have hfound : lowered [';'] <:+: lowercase (trim t) :=
    infix_lowercase_trim List.mem_cons_self hsemicolon
  exact Text.includes_eq_false_iff.mp (checkLowered_eq_ok_iff.mp h).2.1 hfound

/-- An accepted text has no forbidden keyword in any case. -/
theorem lowered_ne_of_check (h : policy.check t = .ok ()) {part : Text} (hpart : part <:+: t) :
    ∀ keyword ∈ forbiddenKeywords, lowered part ≠ keyword := by
  rintro _ hkeyword rfl
  have hfound := infix_lowercase_trim (mem_unwantedWords_of_mem_forbidden hkeyword) hpart
  exact Text.includes_eq_false_iff.mp
    ((checkLowered_eq_ok_iff.mp h).2.2.2.1 _ hkeyword) hfound

/-- An accepted text begins like a query behind its first blanks, in some case. -/
theorem exists_select_of_check (h : policy.check t = .ok ()) :
    ∃ start, start <+: trim t ∧ lowered start = "select" := by
  have hletters : ("select" : Text).all (fun c => decide (Text.IsPlainLower c)) = true := by
    decide +kernel
  have hplain : ∀ c ∈ ("select" : Text), Text.IsPlainLower c :=
    fun c hc => of_decide_eq_true (List.all_eq_true.mp hletters c hc)
  have hselect : ("select" : Text) <+: policy.opening := by
    rw [opening]
    cases policy.strictness with
    | standard => exact List.prefix_rfl
    | strict => exact ⟨" ", rfl⟩
  obtain ⟨rest, hrest⟩ := Text.beginsWith_iff.mp (checkLowered_eq_ok_iff.mp h).1
  have hopening : policy.opening <+: lowercase (trim t) := ⟨rest, hrest.symm⟩
  exact Text.exists_prefix_of_lowercaseFrom hplain (hselect.trans hopening)

/-- A text is refused if it has a semicolon, if it has a forbidden keyword in any mix of capital and
small letters, whatever stands beside it, or if it does not begin like a query behind its first
blanks. -/
theorem exists_check_eq_error (policy : Policy)
    (h : ';' ∈ t ∨
      (∃ keyword ∈ forbiddenKeywords, ∃ part, part <:+: t ∧ lowered part = keyword) ∨
      ¬ ∃ start, start <+: trim t ∧ lowered start = "select") :
    ∃ violation, policy.check t = .error violation := by
  cases hcheck : policy.check t with
  | error violation => exact ⟨violation, rfl⟩
  | ok _ =>
    exfalso
    rcases h with hsemicolon | ⟨keyword, hkeyword, part, hpart, hlowered⟩ | hselect
    · exact notMem_of_check hcheck hsemicolon
    · exact lowered_ne_of_check hcheck hpart keyword hkeyword hlowered
    · exact hselect (exists_select_of_check hcheck)

/-- A keyword in mixed case between letters that change in lower case, a semicolon in a comment, and
the sign of the kelvin in front of a query. -/
theorem exists_check_eq_error_mixed :
    (∃ violation, strict.check "SELECT 'ΣİDRoPK' FROM mock_data" = .error violation) ∧
    (∃ violation, standard.check "\u00A0SELECT 1 FROM mock_data --ΑΣ;" = .error violation) ∧
    ∃ violation, standard.check "\u212ASELECT 1 FROM mock_data" = .error violation := by
  have hdrop : ("DRoP" : Text) <:+: "SELECT 'ΣİDRoPK' FROM mock_data" :=
    ⟨"SELECT 'Σİ", "K' FROM mock_data", rfl⟩
  have hsemicolon : ';' ∈ ("\u00A0SELECT 1 FROM mock_data --ΑΣ;" : Text) := by decide
  have hselect : ¬ ∃ start, start <+: trim "\u212ASELECT 1 FROM mock_data" ∧
      lowered start = "select" := by
    rintro ⟨start, hstart, hlowered⟩
    have hlength : start.length = 6 := by
      have hmap := congrArg List.length hlowered
      rwa [List.length_map] at hmap
    rw [List.prefix_iff_eq_take.mp hstart, hlength] at hlowered
    revert hlowered
    decide
  exact ⟨exists_check_eq_error strict (.inr (.inl ⟨"drop", by decide, "DRoP", hdrop, rfl⟩)),
    exists_check_eq_error standard (.inl hsemicolon),
    exists_check_eq_error standard (.inr (.inr hselect))⟩

end AskTable.Sql.Policy
