import AskTable.Proofs.Intent.Amount
import AskTable.Proofs.Intent.Literal
import AskTable.Proofs.Intent.Opening
/-!
# Which statement belongs to which intent

A statement is read backwards. Its second word and the fixed text around its literal tell which kind
of intent it is of, and what is left are the texts of the intent. For arbitrary texts this fails,
since the text of a name may have the sign `%` that stands for any text; but no text that a question
puts into an intent has one. So two questions get the same statement only if they ask for the same,
apart from counting rows, which questions ask for in two ways.

## Main definitions

* `Intent.CountsAllRows` - the two intents with the plain count
* `Intent.fixedIntents` - the intents without a text

## Main results

* `NamePattern.like_inj` - the pattern of a name is told from its literal
* `Intent.sqlText_inj` - intents of questions are told from their statements
* `heuristicSql_eq_iff` - which questions get the same statement
-/

namespace AskTable

open Text (IsCapture)

variable {t t' word : Text}

theorem Text.IsCapture.notMem {p : Char → Bool} {c : Char} (h : IsCapture p t word)
    (hc : p c = false) : c ∉ word := by
  intro hmem
  rw [h.chars c hmem] at hc
  cases hc

/-! ## Names -/

namespace NamePattern

variable {pattern pattern' : NamePattern}

/-- No text of a name has the sign that stands for any text. -/
theorem percent_notMem_literalText (h : pattern.CapturedIn t) : '%' ∉ pattern.literalText := by
  cases pattern with
  | startsWith letter =>
    obtain ⟨c, hcap, rfl⟩ := h
    have hdomain := Phrase.isDomain_of_isLetter (hcap.chars c (List.mem_singleton_self c))
    intro hmem
    have hsame := Phrase.toLower_toUpper hdomain
    rw [← List.mem_singleton.mp hmem] at hsame
    rw [← hsame] at hdomain
    exact absurd hdomain (by decide)
  | contains part => exact h.notMem (by decide)
  | endsWith ending => exact h.notMem (by decide)

/-- Without the signs for any text, the text of the pattern is left. -/
theorem filter_like (h : pattern.CapturedIn t) :
    pattern.like.filter (· ≠ '%') = pattern.literalText := by
  have hself : pattern.literalText.filter (· ≠ '%') = pattern.literalText := by
    refine List.filter_eq_self.mpr fun c hc => ?_
    exact decide_eq_true fun heq => percent_notMem_literalText h (heq ▸ hc)
  have hsigns : pattern.around.1.filter (· ≠ '%') = [] ∧
      pattern.around.2.filter (· ≠ '%') = [] := by
    cases pattern <;> exact ⟨rfl, rfl⟩
  rw [like_eq, List.filter_append, List.filter_append, hself, hsigns.1, hsigns.2, List.append_nil,
    List.nil_append]

/-- A pattern begins with a sign, unless it is about the first letter. -/
theorem head?_like (h : pattern.CapturedIn t) :
    pattern.like.head? = some '%' ↔ ∀ letter, pattern ≠ .startsWith letter := by
  cases pattern with
  | startsWith letter =>
    refine iff_of_false (fun heq => ?_) fun hne => hne letter rfl
    exact percent_notMem_literalText h (List.mem_singleton.mpr (Option.some.inj heq).symm)
  | contains part => exact iff_of_true rfl nofun
  | endsWith ending => exact iff_of_true rfl nofun

/-- A pattern ends with a sign, unless it is about the end. -/
theorem getLast?_like (h : pattern.CapturedIn t) :
    pattern.like.getLast? = some '%' ↔ ∀ ending, pattern ≠ .endsWith ending := by
  cases pattern with
  | startsWith letter => exact iff_of_true rfl nofun
  | contains part => exact iff_of_true List.getLast?_concat nofun
  | endsWith ending =>
    refine iff_of_false (fun heq => ?_) fun hne => hne ending rfl
    have hlast : (['%'] ++ ending).getLast? = ending.getLast? :=
      List.getLast?_append_of_ne_nil _ (IsCapture.ne_nil h)
    exact percent_notMem_literalText h (List.mem_of_getLast? (hlast.symm.trans heq))

/-- The pattern of a name is told from its literal. -/
theorem like_inj (h : pattern.CapturedIn t) (h' : pattern'.CapturedIn t')
    (heq : pattern.like = pattern'.like) : pattern = pattern' := by
  have htext : pattern.literalText = pattern'.literalText := by
    rw [← filter_like h, heq, filter_like h']
  have hhead : (∀ letter, pattern ≠ .startsWith letter) ↔ ∀ letter, pattern' ≠ .startsWith letter := by
    rw [← head?_like h, heq, head?_like h']
  have hlast : (∀ ending, pattern ≠ .endsWith ending) ↔ ∀ ending, pattern' ≠ .endsWith ending := by
    rw [← getLast?_like h, heq, getLast?_like h']
  cases pattern with
  | startsWith letter =>
    cases pattern' with
    | startsWith letter' => rw [List.singleton_inj.mp htext]
    | contains | endsWith => exact absurd rfl (hhead.mpr nofun letter)
  | contains part =>
    cases pattern' with
    | startsWith letter' => exact absurd rfl (hhead.mp nofun letter')
    | contains part' => exact congrArg NamePattern.contains htext
    | endsWith ending' => exact absurd rfl (hlast.mp nofun ending')
  | endsWith ending =>
    cases pattern' with
    | startsWith | contains => exact absurd rfl (hlast.mpr nofun ending)
    | endsWith ending' => exact congrArg NamePattern.endsWith htext

/-- A text with the sign would fit two patterns. -/
example : (contains "son").like = (endsWith "son%").like := by decide

end NamePattern

/-! ## Numbers -/

/-- What stands before the amount at the end of a statement about a window. -/
def sinceOpening : TimeUnit → Text
  | .hours => " WHERE signup_date >= subtractHours(now(), "
  | .days => " WHERE signup_date >= subtractDays(now(), "

theorem sinceClause_eq (window : TimeWindow) :
    sinceClause window = sinceOpening window.unit ++ (window.amount ++ [')']) := by
  obtain ⟨amount, unit⟩ := window
  cases unit <;> exact List.append_assoc _ _ _

theorem unit_eq_of_isPrefix {unit unit' : TimeUnit} (h : sinceOpening unit <+: sinceOpening unit') :
    unit = unit' := by
  cases unit <;> cases unit' <;> first | rfl | exact absurd h (by decide)

/-- The end of a statement about a window tells the window. -/
theorem sinceClause_inj {window window' : TimeWindow} (h : sinceClause window = sinceClause window') :
    window = window' := by
  obtain ⟨amount, unit⟩ := window
  obtain ⟨amount', unit'⟩ := window'
  rw [sinceClause_eq, sinceClause_eq] at h
  -- Both openings stand at the beginning of one text.
  have hunit : unit = unit' := by
    rcases List.prefix_or_prefix_of_prefix (List.prefix_append _ _)
      (h ▸ List.prefix_append (sinceOpening unit') _) with hle | hle
    · exact unit_eq_of_isPrefix hle
    · exact (unit_eq_of_isPrefix hle).symm
  subst hunit
  have hamount : amount = amount' := List.append_cancel_right (List.append_cancel_left h)
  rw [hamount]

/-- The end of a statement tells the number of rows, if there is one. -/
theorem Intent.limitClause_inj {rows rows' : Option Text}
    (h : Intent.limitClause rows = Intent.limitClause rows') : rows = rows' := by
  cases rows with
  | none =>
    cases rows' with
    | none => rfl
    | some digits' => cases h
  | some digits =>
    cases rows' with
    | none => cases h
    | some digits' => exact congrArg some (List.append_cancel_left h)

namespace Intent

variable {intent intent' : Intent}

/-! ## Statements without a literal -/

/-- The intents without a text. -/
def fixedIntents : List Intent :=
  [.countRows, .averageAge, .countActive, .countPerCountry, .recentSignups, .averageBalancePerPlan,
    .fallback]

/-- The intent is one of the two with the plain count. -/
def CountsAllRows (intent : Intent) : Prop := intent = .countRows ∨ intent = .fallback

instance (intent : Intent) : Decidable intent.CountsAllRows :=
  inferInstanceAs (Decidable (_ ∨ _))

/-- The second word of a statement is told from the statement. -/
theorem selected_eq_of_sqlText (h : intent.sqlText = intent'.sqlText) :
    intent.selected = intent'.selected := by
  have hword (intent : Intent) : ' ' ∉ intent.selected := by
    intro hmem
    have hplain := (Text.isPlainWord_iff.mp intent.isPlainWord_selected).2.2 _ hmem
    exact absurd hplain.1 (by decide)
  obtain ⟨rest, hrest⟩ := intent.exists_sqlText_eq
  obtain ⟨rest', hrest'⟩ := intent'.exists_sqlText_eq
  rw [hrest, hrest'] at h
  have hcut := congrArg (Text.cutAt? ' ') (List.append_cancel_left h)
  rw [Text.cutAt?_append_cons (hword intent), Text.cutAt?_append_cons (hword intent')] at hcut
  exact (Prod.mk.inj (Option.some.inj hcut)).1

/-- An intent without a literal has no text, or it has a number. -/
theorem cases_of_cut?_eq_none (h : intent.cut? = none) :
    intent ∈ fixedIntents ∨ (∃ window, intent = .sumBalance window) ∨
      ∃ rows, intent = .limit rows := by
  cases intent with
  | sumBalance window => exact Or.inr (Or.inl ⟨window, rfl⟩)
  | limit rows => exact Or.inr (Or.inr ⟨rows, rfl⟩)
  | nameFilter | country | plan | emailDomain => cases h
  | _ => exact Or.inl (by simp [fixedIntents])

/-- A fixed statement is about nothing that a number belongs to. -/
theorem selected_of_mem_fixedIntents : ∀ intent ∈ fixedIntents,
    intent.selected ≠ "sum(balance)" ∧ intent.selected ≠ "*" := by decide

/-- Fixed statements are different, except for those of the plain count. -/
theorem fixedIntents_inj : ∀ intent ∈ fixedIntents, ∀ intent' ∈ fixedIntents,
    intent.sqlText = intent'.sqlText →
      intent = intent' ∨ (intent.CountsAllRows ∧ intent'.CountsAllRows) := by decide +kernel

theorem sumBalance_inj {window window' : Option TimeWindow}
    (h : (sumBalance window).sqlText = (sumBalance window').sqlText) : window = window' := by
  have hsplit (window : Option TimeWindow) :
      (sumBalance window).sqlText =
        "SELECT sum(balance) FROM default.MOCK_DATA" ++ window.elim [] sinceClause := by
    cases window with
    | none => exact (List.append_nil _).symm
    | some window => exact sqlText_sumBalance_some window
  have hne (window : TimeWindow) : sinceClause window ≠ [] := by
    rw [sinceClause_eq]
    exact List.append_ne_nil_of_right_ne_nil _ (List.concat_ne_nil _ _)
  rw [hsplit, hsplit] at h
  have hclause := List.append_cancel_left h
  cases window with
  | none =>
    cases window' with
    | none => rfl
    | some window' => exact absurd hclause.symm (hne window')
  | some window =>
    cases window' with
    | none => exact absurd hclause (hne window)
    | some window' => exact congrArg some (sinceClause_inj hclause)

/-- Statements without a literal are told apart by their second words, and then by their ends. -/
theorem sqlText_inj_of_cut?_eq_none (hcut : intent.cut? = none) (hcut' : intent'.cut? = none)
    (h : intent.sqlText = intent'.sqlText) :
    intent = intent' ∨ (intent.CountsAllRows ∧ intent'.CountsAllRows) := by
  have hselected := selected_eq_of_sqlText h
  rcases cases_of_cut?_eq_none hcut with hfixed | ⟨window, rfl⟩ | ⟨rows, rfl⟩
  · rcases cases_of_cut?_eq_none hcut' with hfixed' | ⟨window', rfl⟩ | ⟨rows', rfl⟩
    · exact fixedIntents_inj _ hfixed _ hfixed' h
    · exact absurd hselected (selected_of_mem_fixedIntents _ hfixed).1
    · exact absurd hselected (selected_of_mem_fixedIntents _ hfixed).2
  · rcases cases_of_cut?_eq_none hcut' with hfixed' | ⟨window', rfl⟩ | ⟨rows', rfl⟩
    · exact absurd hselected.symm (selected_of_mem_fixedIntents _ hfixed').1
    · exact Or.inl (congrArg sumBalance (sumBalance_inj h))
    · cases hselected
  · rcases cases_of_cut?_eq_none hcut' with hfixed' | ⟨window', rfl⟩ | ⟨rows', rfl⟩
    · exact absurd hselected.symm (selected_of_mem_fixedIntents _ hfixed').2
    · cases hselected
    · exact Or.inl (congrArg limit (List.append_cancel_left h))

/-! ## Statements with a literal -/

theorem before_eq_of_some_eq {before content after before' content' after' : Text}
    (h : some (⟨before, content, after⟩ : Sql.Cut) = some ⟨before', content', after'⟩) :
    before = before' :=
  (Sql.Cut.mk.inj (Option.some.inj h)).1

/-- What stands before a literal tells which column it is compared with, and the literal tells the
rest. -/
theorem eq_of_cut?_eq (h : intent.CapturedIn t) (h' : intent'.CapturedIn t')
    (hcut : intent.cut? = intent'.cut?) (hne : intent.cut? ≠ none) : intent = intent' := by
  cases intent with
  | nameFilter pattern rows =>
    cases intent' with
    | nameFilter pattern' rows' =>
      obtain ⟨-, hlike, hrows⟩ := Sql.Cut.mk.inj (Option.some.inj hcut)
      rw [NamePattern.like_inj h.1 h'.1 hlike, limitClause_inj hrows]
    | country | plan | emailDomain => exact absurd (before_eq_of_some_eq hcut) (by decide)
    | _ => cases hcut
  | country code =>
    cases intent' with
    | country code' => rw [(Sql.Cut.mk.inj (Option.some.inj hcut)).2.1]
    | nameFilter | plan | emailDomain => exact absurd (before_eq_of_some_eq hcut) (by decide)
    | _ => cases hcut
  | plan name =>
    cases intent' with
    | plan name' => rw [(Sql.Cut.mk.inj (Option.some.inj hcut)).2.1]
    | nameFilter | country | emailDomain => exact absurd (before_eq_of_some_eq hcut) (by decide)
    | _ => cases hcut
  | emailDomain domain =>
    cases intent' with
    | emailDomain domain' =>
      rw [List.append_cancel_left (Sql.Cut.mk.inj (Option.some.inj hcut)).2.1]
    | nameFilter | country | plan => exact absurd (before_eq_of_some_eq hcut) (by decide)
    | _ => cases hcut
  | _ => exact absurd rfl hne

/-! ## Statements of questions -/

theorem CapturedIn.quote_notMem_digits (h : intent.CapturedIn t) : '\'' ∉ intent.digits := by
  have hamount {digits : Text} (h : Text.IsAmount t digits) : '\'' ∉ digits :=
    h.toIsCapture.notMem (by decide)
  cases intent with
  | sumBalance window =>
    cases window with
    | none => exact List.not_mem_nil
    | some window => exact hamount (h window rfl)
  | nameFilter pattern rows =>
    cases rows with
    | none => exact List.not_mem_nil
    | some rows => exact hamount (h.2 rows rfl)
  | limit rows => exact hamount h
  | _ => exact List.not_mem_nil

/-- Intents of questions are told from their statements, apart from the two with the plain count. -/
theorem sqlText_inj (h : intent.CapturedIn t) (h' : intent'.CapturedIn t')
    (heq : intent.sqlText = intent'.sqlText) :
    intent = intent' ∨ (intent.CountsAllRows ∧ intent'.CountsAllRows) := by
  have hcut : intent.cut? = intent'.cut? := by
    rw [← cutLiteral?_eq_cut? h.quote_notMem_digits, heq,
      cutLiteral?_eq_cut? h'.quote_notMem_digits]
  by_cases hnone : intent.cut? = none
  · exact sqlText_inj_of_cut?_eq_none hnone (hcut ▸ hnone) heq
  · exact Or.inl (eq_of_cut?_eq h h' hcut hnone)

end Intent

/-- Two questions get the same statement only if they ask for the same, with the same texts, or if
both get the plain count of all rows. -/
theorem heuristicSql_eq_iff (question question' : Text) :
    heuristicSql question = heuristicSql question' ↔
      classify question = classify question' ∨
        ((classify question).CountsAllRows ∧ (classify question').CountsAllRows) := by
  constructor
  · intro h
    exact Intent.sqlText_inj (capturedIn_classify question) (capturedIn_classify question')
      (Sql.Statement.mk.inj h)
  · rintro (h | ⟨h, h'⟩)
    · exact congrArg Intent.toSql h
    · have hplain {intent : Intent} (h : intent.CountsAllRows) :
          intent.toSql = Intent.countRows.toSql := by
        rcases h with rfl | rfl <;> rfl
      exact (hplain h).trans (hplain h').symm

end AskTable
