import AskTable.Prompt
import AskTable.Proofs.Text.Line
import Mathlib.Logic.Relation
/-!
# What the excerpt of a grammar keeps

A line of a grammar is idle when it is blank or a comment. The excerpt is made of the other lines,
cut off after a number of characters, and the cut cannot make a comment: what begins a line that is
no comment is no comment either. So idle lines have no part in the system prompt, and any number of
them may be put in or taken out wherever a line begins.

## Main definitions

* `Prompt.IsComment`, `Prompt.IsIdle` - comments, and lines that say nothing
* `Prompt.IsExcerpt` - what an excerpt of a grammar has to be
* `Prompt.InsertsIdle` - one grammar has an idle line more than the other

## Main results

* `Prompt.isRuleLine_eq_false_iff` - the lines that are left out are the idle ones
* `Prompt.not_isComment_of_mem_lines` - no cut makes a comment
* `Prompt.InsertsIdle.ruleText_eq` - an idle line more does not matter
* `Prompt.isExcerpt_and_system_eq` - the excerpt, and what the system prompt does not depend on
-/

namespace AskTable.Prompt

variable {line longer grammar other : Text}

/-! ## Idle lines -/

/-- A comment: its first character that is not blank is `#`. -/
def IsComment (line : Text) : Prop :=
  ∃ blanks rest, line = blanks ++ '#' :: rest ∧ ∀ c ∈ blanks, Text.isBlank c = true

/-- A line that says nothing: one of blanks only, or a comment. -/
def IsIdle (line : Text) : Prop := (∀ c ∈ line, Text.isBlank c = true) ∨ IsComment line

theorem IsComment.of_isPrefix (h : IsComment line) (hle : line <+: longer) : IsComment longer := by
  obtain ⟨blanks, rest, rfl, hblanks⟩ := h
  obtain ⟨more, rfl⟩ := hle
  exact ⟨blanks, rest ++ more, by rw [List.append_assoc, List.cons_append], hblanks⟩

/-- Without the blanks at its start, a comment begins with its mark. -/
theorem IsComment.exists_trim (h : IsComment line) : ∃ rest, Text.trim line = '#' :: rest := by
  obtain ⟨blanks, rest, rfl, hblanks⟩ := h
  have hmark : Text.isBlank '#' = false := by decide
  have hstart : Text.trimStart (blanks ++ '#' :: rest) = ['#'] ++ rest :=
    (Text.span_append hblanks (by simpa using hmark)).2
  refine ⟨Text.trimEnd rest, ?_⟩
  rw [Text.trim, hstart, Text.trimEnd, Text.dropEnd_append (by simpa using hmark)]
  rfl

theorem trim_of_all_isBlank (h : ∀ c ∈ line, Text.isBlank c = true) : Text.trim line = [] := by
  rw [Text.trim, Text.trimStart_of_all h]
  rfl

/-- The lines that are left out are the idle ones. -/
theorem isRuleLine_eq_false_iff : isRuleLine line = false ↔ IsIdle line := by
  obtain ⟨a, b, hline, ha, hb⟩ := Text.exists_eq_trim line
  cases htrim : Text.trim line with
  | nil =>
    rw [htrim, List.append_nil] at hline
    refine iff_of_true (by rw [isRuleLine, htrim]; rfl) (Or.inl fun c hc => ?_)
    rw [hline] at hc
    exact (List.mem_append.mp hc).elim (ha c) (hb c)
  | cons c rest =>
    have hrule : isRuleLine line = (some c != some '#') := by
      rw [isRuleLine, htrim]
      rfl
    rw [hrule, bne_eq_false_iff_eq, Option.some.injEq]
    constructor
    · rintro rfl
      rw [htrim, List.append_assoc] at hline
      exact Or.inr ⟨a, rest ++ b, hline, ha⟩
    · rintro (hblank | hcomment)
      · rw [trim_of_all_isBlank hblank] at htrim
        cases htrim
      · obtain ⟨rest', hmark⟩ := hcomment.exists_trim
        exact (List.cons.inj (htrim.symm.trans hmark)).1

instance (line : Text) : Decidable (IsIdle line) :=
  decidable_of_iff _ isRuleLine_eq_false_iff

theorem isRuleLine_iff : isRuleLine line = true ↔ ¬ IsIdle line := by
  rw [← isRuleLine_eq_false_iff, Bool.not_eq_false]

/-- A carriage return at the end of a line does not make it say something. -/
theorem IsIdle.dropLineEnd (h : IsIdle line) : IsIdle (Text.dropLineEnd (line ++ ['\n'])) := by
  obtain ⟨rest, hline, hrest⟩ := Text.exists_eq_dropLineEnd line
  generalize Text.dropLineEnd (line ++ ['\n']) = front at hline
  subst hline
  rcases h with hblank | ⟨blanks, more, hsplit, hblanks⟩
  · exact Or.inl fun c hc => hblank c (List.mem_append_left rest hc)
  · -- The mark of a comment is no carriage return, so it stands in what is kept.
    have hmark : '#' ∉ rest := fun hmem => absurd (hrest '#' hmem) (by decide)
    rcases List.append_eq_append_iff.mp hsplit with ⟨before, -, hbefore⟩ | ⟨after, hfront, hafter⟩
    · exact absurd (hbefore ▸ List.mem_append_right before List.mem_cons_self) hmark
    · cases after with
      | nil =>
        rw [List.nil_append] at hafter
        exact absurd (hafter ▸ List.mem_cons_self) hmark
      | cons c after =>
        obtain ⟨rfl, -⟩ := List.cons.inj hafter
        exact Or.inr ⟨blanks, after, hfront, hblanks⟩

/-! ## Excerpts -/

/-- The lines of a grammar that say something, joined by line feeds. -/
def spokenText (grammar : Text) : Text :=
  Text.join "\n" ((Text.lines grammar).filter fun line => ¬ IsIdle line)

/-- What an excerpt of a grammar has to be: a beginning of the lines that say something, of 2000
characters, or all of it if there are no more. However it is cut off, no line of it is a comment. -/
structure IsExcerpt (grammar excerpt : Text) : Prop where
  length_le : excerpt.length ≤ 2000
  isPrefix : excerpt <+: spokenText grammar
  eq_of_length_le : (spokenText grammar).length ≤ 2000 → excerpt = spokenText grammar
  length_eq_of_le : 2000 ≤ (spokenText grammar).length → excerpt.length = 2000
  not_isComment : ∀ line ∈ Text.lines excerpt, ¬ IsComment line

theorem ruleText_eq_spokenText (grammar : Text) : ruleText grammar = spokenText grammar := by
  have hfilter : (Text.lines grammar).filter isRuleLine =
      (Text.lines grammar).filter fun line => ¬ IsIdle line :=
    List.filter_congr fun line _ => by rw [Bool.eq_iff_iff, isRuleLine_iff, decide_eq_true_iff]
  rw [ruleText, hfilter, spokenText]

/-- No cut makes a comment of what was none. -/
theorem not_isComment_of_mem_lines (h : line ∈ Text.lines (excerpt grammar)) :
    ¬ IsComment line := by
  intro hcomment
  have hfeed : ∀ part ∈ (Text.lines grammar).filter isRuleLine, '\n' ∉ part := fun part hpart =>
    Text.feed_notMem_of_mem_lines (List.mem_of_mem_filter hpart)
  obtain ⟨rule, hrule, hle⟩ :=
    Text.exists_isPrefix_of_mem_lines hfeed (List.take_prefix excerptLength _) line h
  -- The line begins one that was kept, and that would be a comment too.
  exact isRuleLine_iff.mp (List.mem_filter.mp hrule).2 (Or.inr (hcomment.of_isPrefix hle))

theorem isExcerpt_excerpt (grammar : Text) : IsExcerpt grammar (excerpt grammar) where
  length_le := length_excerpt_le grammar
  isPrefix := by
    rw [← ruleText_eq_spokenText]
    exact List.take_prefix _ _
  eq_of_length_le := by
    rw [← ruleText_eq_spokenText]
    exact List.take_of_length_le
  length_eq_of_le := by
    rw [← ruleText_eq_spokenText]
    exact List.length_take_of_le
  not_isComment := fun _ => not_isComment_of_mem_lines

/-! ## Idle lines more or less -/

/-- The second grammar is the first one with an idle line put in, where a line begins. -/
inductive InsertsIdle : Text → Text → Prop
  | mk {above line below : Text} (habove : ∀ c ∈ above.getLast?, c = '\n') (hfeed : '\n' ∉ line)
      (hidle : IsIdle line) : InsertsIdle (above ++ below) (above ++ (line ++ '\n' :: below))

theorem InsertsIdle.ruleText_eq (h : InsertsIdle grammar other) :
    ruleText other = ruleText grammar := by
  cases h with
  | @mk above line below habove hfeed hidle =>
    have hleft : isRuleLine (Text.dropLineEnd (line ++ ['\n'])) = false :=
      isRuleLine_eq_false_iff.mpr hidle.dropLineEnd
    rw [ruleText, ruleText, Text.lines_append_of_ends habove, Text.lines_append_of_ends habove,
      Text.lines_append_feed hfeed, List.filter_append, List.filter_append,
      List.filter_cons_of_neg (Bool.not_eq_true _ ▸ hleft)]

theorem system_eq_of_eqvGen (h : Relation.EqvGen InsertsIdle grammar other) :
    system other = system grammar := by
  induction h with
  | rel _ _ hinsert => rw [system, excerpt, hinsert.ruleText_eq, system, excerpt]
  | refl _ => rfl
  | symm _ _ _ ih => exact ih.symm
  | trans _ _ _ _ _ first second => exact second.trans first

/-- The excerpt of a grammar is what it has to be, and the system prompt stays the same when idle
lines are put in or taken out, one after another. -/
theorem isExcerpt_and_system_eq (grammar : Text) :
    IsExcerpt grammar (excerpt grammar) ∧
      ∀ other, Relation.EqvGen InsertsIdle grammar other → system other = system grammar :=
  ⟨isExcerpt_excerpt grammar, fun _ => system_eq_of_eqvGen⟩

/-- A comment that ends with a carriage return is put in, and a line of blanks is taken out. -/
theorem system_eq_of_comment :
    let grammar := Text.join "\n" ["query ::= select", "\u3000 ", "select ::= x"]
    let other := Text.join "\n" ["query ::= select", "select ::= x"]
    let commented := Text.join "\n" ["\t# header\r", "query ::= select", "select ::= x"]
    InsertsIdle other grammar ∧ InsertsIdle other commented ∧
      system commented = system grammar := by
  intro grammar other commented
  have hblank : InsertsIdle other grammar :=
    @InsertsIdle.mk "query ::= select\n" "\u3000 " "select ::= x"
      (fun _ hc => (Option.some.inj hc).symm) (by decide) (by decide)
  have hcomment : InsertsIdle other commented :=
    @InsertsIdle.mk [] "\t# header\r" other nofun (by decide) (by decide)
  exact ⟨hblank, hcomment, (isExcerpt_and_system_eq grammar).2 commented
    (.trans _ _ _ (.symm _ _ (.rel _ _ hblank)) (.rel _ _ hcomment))⟩

end AskTable.Prompt
