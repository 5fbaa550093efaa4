import AskTable.Engine.Executor
import AskTable.Proofs.Intent.Template
import AskTable.Proofs.Sql.Verdict
/-!
# Acceptance of statements of intents

The policy searches a whole statement, its literals included. The fixed parts of the statements of
intents are harmless, and so are numbers. Whether a statement is accepted depends on the text in its
literal alone: it is refused when that text has a forbidden keyword somewhere inside, as `drop` is
inside of `dropbox`.

## Main results

* `Intent.check_sqlText` - the verdict on the statement of an intent
* `check_heuristicSql_eq_error_iff` - the verdict on the statement of a question
* `check_heuristicSql_iff` - when the statement of a question is accepted, and when it is run
-/

namespace AskTable

open Sql (forbiddenKeywords lowered isSeparator IsHarmless IsOpening)
open Sql.Policy (around keywordVerdict)
open Text (IsAmount includes isBlank isBlank_getLast_of_all)

/-- Digits between harmless parts are harmless. -/
theorem Text.IsAmount.isHarmless {a b t digits : Text} (h : IsAmount t digits)
    (ha : IsHarmless a) (hb : IsHarmless b) : IsHarmless (a ++ digits ++ b) := by
  have hdomain : ∀ c ∈ digits, Phrase.isDomain c = true :=
    fun c hc => Phrase.isDomain_of_isDigit (h.chars c hc)
  refine ha.append hb h.ne_nil (fun c hc => (Phrase.toNat_of_isDomain (hdomain c hc)).2) ?_
  intro c hc
  rw [Phrase.toLower_of_isDomain (hdomain c hc)]
  exact Sql.isSeparator_of_isDigit (h.chars c hc)

theorem Text.IsAmount.isBlank_getLast {a t digits : Text} (h : IsAmount t digits) :
    ∀ c ∈ (a ++ digits).getLast?, isBlank c = false := by
  intro c hc
  rw [List.getLast?_append_of_ne_nil _ h.ne_nil] at hc
  have hmem := List.mem_of_getLast? hc
  have hdomain := Phrase.isDomain_of_isDigit (h.chars c hmem)
  exact Text.isBlank_eq_false (Phrase.toNat_of_isDomain hdomain).1
    (Phrase.toNat_of_isDomain hdomain).2

/-- A literal without quotes and backslashes is written as it is. -/
theorem Sql.quote_eq {t : Text} (h : ∀ c ∈ t, c ≠ '\\' ∧ c ≠ '\'') :
    Sql.quote t = '\'' :: (t ++ ['\'']) := by
  have hescape : ∀ c ∈ t, Sql.escape c = [c] := by
    intro c hc
    simp [Sql.escape, h c hc]
  rw [Sql.quote, List.flatMap_congr hescape, List.flatMap_singleton' t]

namespace Intent

variable {t : Text} {intent : Intent} {policy : Sql.Policy}

/-- In lower case, the text in the literal of an intent consists of captured characters. -/
theorem isDomain_of_mem_literalText (h : intent.CapturedIn t) :
    ∀ c ∈ intent.literalText, c.toNat < 0x80 ∧ Phrase.isDomain c.toLower = true := by
  intro c hc
  -- An intent whose template has no place in a literal has no text for one.
  have hplace : intent.template.any Slot.isLiteral = true := by
    cases intent with
    | nameFilter pattern rows => cases pattern <;> cases rows <;> rfl
    | country | plan | emailDomain => rfl
    | _ => cases hc
  -- In upper case or not, the lower case of a captured character is the character itself.
  obtain ⟨word, hcap, htext | htext⟩ := isCapture_literalText h hplace
  · rw [htext] at hc
    have hdomain := hcap.chars c hc
    rw [Phrase.toLower_of_isDomain hdomain]
    exact ⟨(Phrase.toNat_of_isDomain hdomain).2, hdomain⟩
  · rw [htext] at hc
    obtain ⟨d, hd, rfl⟩ := List.mem_map.mp hc
    have hdomain := hcap.chars d hd
    rw [Phrase.toLower_toUpper hdomain]
    exact ⟨Phrase.toNat_toUpper_lt hdomain, hdomain⟩

/-- A sign that stands in a literal beside the text of a question. -/
def isSign (c : Char) : Bool := c = '%' || c = '@'

/-- Neither signs nor captured characters need an escape, and the policy searches for none of the
characters that would end a literal or separate words. -/
theorem isPlain_of_isSign_or_isDomain {c : Char}
    (h : isSign c = true ∨ Phrase.isDomain c.toLower = true) :
    (c ≠ '\\' ∧ c ≠ '\'') ∧ c.toLower ≠ ' ' ∧ c.toLower ≠ ';' := by
  rcases h with h | h
  · simp only [isSign, Bool.or_eq_true, decide_eq_true_eq] at h
    rcases h with rfl | rfl <;> decide
  · refine ⟨⟨?_, ?_⟩, ?_, ?_⟩
    · rintro rfl
      exact absurd h (by decide)
    · rintro rfl
      exact absurd h (by decide)
    · intro hblank
      rw [hblank] at h
      exact absurd h (by decide)
    · intro hsemicolon
      rw [hsemicolon] at h
      exact absurd h (by decide)

theorem notMem_of_isSign {c : Char} (hc : isSign c.toLower = true) :
    ∀ keyword ∈ forbiddenKeywords, c.toLower ∉ keyword := by
  simp only [isSign, Bool.or_eq_true, decide_eq_true_eq] at hc
  rcases hc with hc | hc <;> rw [hc] <;> decide

theorem isSign_toLower {c : Char} (h : isSign c = true) :
    c.toNat < 0x80 ∧ isSign c.toLower = true := by
  simp only [isSign, Bool.or_eq_true, decide_eq_true_eq] at h
  rcases h with rfl | rfl <;> decide

/-- The verdict on a statement with one condition that compares a column with a literal. The text in
the literal stands between signs. -/
theorem check_selectWhere (hident : policy.ident = Sql.tableIdent)
    {condition word rest : Text} (before after : Text)
    (hopening : IsOpening (selectWhere condition)) (hrest : IsHarmless rest)
    (hlast : ∀ c ∈ rest.getLast?, isBlank c = false)
    (hword : ∀ c ∈ word, c.toNat < 0x80 ∧ Phrase.isDomain c.toLower = true)
    (hbefore : before.all isSign = true) (hafter : after.all isSign = true) :
    policy.check (selectWhere (condition ++ (Sql.quote (before ++ word ++ after) ++ rest))) =
      keywordVerdict (lowered word) := by
  have hbefore := List.all_eq_true.mp hbefore
  have hafter := List.all_eq_true.mp hafter
  have hchars : ∀ c ∈ before ++ word ++ after,
      c.toNat < 0x80 ∧ (isSign c = true ∨ Phrase.isDomain c.toLower = true) := by
    intro c hc
    simp only [List.mem_append] at hc
    rcases hc with (hc | hc) | hc
    · exact ⟨(isSign_toLower (hbefore c hc)).1, Or.inl (hbefore c hc)⟩
    · exact ⟨(hword c hc).1, Or.inr (hword c hc).2⟩
    · exact ⟨(isSign_toLower (hafter c hc)).1, Or.inl (hafter c hc)⟩
  have hplain := fun c hc => isPlain_of_isSign_or_isDomain (hchars c hc).2
  -- The verdict on a statement around a literal applies once the quotes are seen beside it.
  have haround : selectWhere (condition ++ (Sql.quote (before ++ word ++ after) ++ rest)) =
      around (selectWhere condition) rest (before ++ word ++ after) := by
    rw [← selectWhere_append, Sql.quote_eq fun c hc => (hplain c hc).1, List.cons_append,
      List.append_assoc _ ['\''] rest]
    rfl
  -- The signs beside the text are in no keyword, so the search ends inside of the text.
  have hsearch : ∀ keyword ∈ forbiddenKeywords,
      includes (lowered (before ++ word ++ after)) keyword = includes (lowered word) keyword := by
    intro keyword hkeyword
    have hne : ∀ keyword ∈ forbiddenKeywords, keyword ≠ [] := by decide
    have hsigns : ∀ signs : Text, (∀ c ∈ signs, isSign c = true) →
        ∀ c ∈ lowered signs, c ∉ keyword := by
      intro signs hsigns c hc
      obtain ⟨d, hd, rfl⟩ := List.mem_map.mp hc
      exact notMem_of_isSign (isSign_toLower (hsigns d hd)).2 keyword hkeyword
    rw [lowered, List.map_append, List.map_append]
    exact Text.includes_between_separators (hne keyword hkeyword) (hsigns before hbefore)
      (hsigns after hafter)
  have hlowered : ∀ c ∈ lowered (before ++ word ++ after), c ≠ ' ' ∧ c ≠ ';' := by
    intro c hc
    obtain ⟨d, hd, rfl⟩ := List.mem_map.mp hc
    exact (hplain d hd).2
  rw [haround, Sql.Policy.check_around hident hopening hrest hlast
    (fun c hc => (hchars c hc).1) hlowered]
  exact Sql.Policy.keywordVerdict_congr hsearch

/-- The verdict on a statement that ends with its literal. -/
theorem check_selectWhere_quote (hident : policy.ident = Sql.tableIdent)
    {condition word : Text} (before after : Text) (hopening : IsOpening (selectWhere condition))
    (hword : ∀ c ∈ word, c.toNat < 0x80 ∧ Phrase.isDomain c.toLower = true)
    (hbefore : before.all isSign = true) (hafter : after.all isSign = true) :
    policy.check (selectWhere (condition ++ Sql.quote (before ++ word ++ after))) =
      keywordVerdict (lowered word) := by
  have hnone : IsHarmless [] := by decide
  have h := check_selectWhere hident before after hopening hnone (by simp) hword hbefore hafter
  rwa [List.append_nil] at h

/-! ## The verdict on an intent -/

/-- The verdict on a statement without a literal that ends with a number, and then perhaps more. -/
theorem check_digits (hident : policy.ident = Sql.tableIdent) {a b digits : Text}
    (ha : IsOpening a) (hb : IsHarmless b) (hlast : ∀ c ∈ b.getLast?, isBlank c = false)
    (hdigits : IsAmount t digits) : policy.check (a ++ (digits ++ b)) = .ok () := by
  refine Sql.Policy.check_of_isHarmless hident ha ?_ ?_
  · rw [← List.append_assoc]
    exact hdigits.isHarmless ha.toIsHarmless hb
  · rw [← List.append_assoc]
    -- The statement ends with a digit, or as the part behind the digits does.
    cases b with
    | nil =>
      rw [List.append_nil]
      exact hdigits.isBlank_getLast
    | cons c b => rwa [List.getLast?_append_of_ne_nil _ (List.cons_ne_nil c b)]

theorem isOpening_selectWhere_name : IsOpening (selectWhere "name ILIKE ") := by decide +kernel

theorem isOpening_selectWhere_country : IsOpening (selectWhere "country = ") := by decide +kernel

theorem isOpening_selectWhere_plan : IsOpening (selectWhere "subscription_plane = ") := by
  decide +kernel

theorem isOpening_selectWhere_email : IsOpening (selectWhere "email ILIKE ") := by decide +kernel

/-- The beginning of a sum over the signups since a time. -/
def selectSum (time : Text) : Text :=
  "SELECT sum(balance) FROM " ++ Sql.table ++ " WHERE signup_date >= " ++ time

/-- The statement of an intent gets the verdict on the keywords in its literal. -/
theorem check_sqlText (hident : policy.ident = Sql.tableIdent) (h : intent.CapturedIn t) :
    policy.check intent.sqlText = keywordVerdict (lowered intent.literalText) := by
  have hword := isDomain_of_mem_literalText h
  cases intent with
  | countRows | fallback | averageAge | countActive | countPerCountry | recentSignups
  | averageBalancePerPlan =>
    exact Sql.Policy.check_of_isOpening hident (by decide +kernel)
      (isBlank_getLast_of_all (by decide))
  | sumBalance window =>
    cases window with
    | none =>
      exact Sql.Policy.check_of_isOpening hident (by decide +kernel)
        (isBlank_getLast_of_all (by decide))
    | some window =>
      have hdigits : IsAmount t window.amount := h window rfl
      obtain ⟨digits, unit⟩ := window
      cases unit with
      | hours =>
        exact check_digits hident (a := selectSum "subtractHours(now(), ") (b := ")")
          (by decide +kernel) (by decide) (isBlank_getLast_of_all (by decide)) hdigits
      | days =>
        exact check_digits hident (a := selectSum "subtractDays(now(), ") (b := ")")
          (by decide +kernel) (by decide) (isBlank_getLast_of_all (by decide)) hdigits
  | nameFilter pattern rows =>
    have hliteral : (nameFilter pattern rows).literalText = pattern.literalText := rfl
    rw [hliteral] at hword ⊢
    have hbefore : pattern.around.1.all isSign = true := by cases pattern <;> rfl
    have hafter : pattern.around.2.all isSign = true := by cases pattern <;> rfl
    cases rows with
    | none =>
      have hname := check_selectWhere_quote hident pattern.around.1 pattern.around.2
        isOpening_selectWhere_name hword hbefore hafter
      rw [← pattern.like_eq] at hname
      exact hname
    | some rows =>
      have hrows : IsAmount t rows := h.2 rows rfl
      -- What follows the literal is harmless, since the number is one of digits.
      have hlimit : IsHarmless ((" LIMIT " : Text) ++ rows) := by
        have hharmless := hrows.isHarmless (a := " LIMIT ") (b := []) (by decide) (by decide)
        rwa [List.append_nil] at hharmless
      have hname := check_selectWhere hident pattern.around.1 pattern.around.2
        isOpening_selectWhere_name hlimit hrows.isBlank_getLast hword hbefore hafter
      rw [← pattern.like_eq, ← sqlText_nameFilter_some] at hname
      exact hname
  | country code =>
    have hcode := check_selectWhere_quote hident [] [] isOpening_selectWhere_country hword rfl
      rfl
    rwa [List.nil_append, List.append_nil] at hcode
  | plan name =>
    have hname := check_selectWhere_quote hident [] [] isOpening_selectWhere_plan hword rfl rfl
    rwa [List.nil_append, List.append_nil] at hname
  | emailDomain domain =>
    have hdomain := check_selectWhere_quote hident "%@" [] isOpening_selectWhere_email hword
      rfl rfl
    rwa [List.append_nil] at hdomain
  | limit rows =>
    have hrows := check_digits hident (a := "SELECT * FROM " ++ Sql.table ++ " LIMIT ") (b := [])
      (by decide +kernel) (by decide) (by simp) h
    rwa [List.append_nil] at hrows

/-- When the statement of an intent is accepted. -/
theorem check_sqlText_iff (hident : policy.ident = Sql.tableIdent) (h : intent.CapturedIn t) :
    policy.check intent.sqlText = .ok () ↔
      ∀ keyword ∈ forbiddenKeywords, includes (lowered intent.literalText) keyword = false := by
  rw [check_sqlText hident h, Sql.Policy.keywordVerdict_eq_ok_iff]

/-! ## Which text decides

The letter at the start of a name and the code of a country are too short for a keyword. All other
texts in literals are put there as they were captured, in lower case. -/

/-- The text in the literal of the intent, if it was put there as it was captured. -/
def capturedText? : Intent → Option Text
  | .nameFilter (.contains part) _ => some part
  | .nameFilter (.endsWith ending) _ => some ending
  | .plan name => some name
  | .emailDomain domain => some domain
  | _ => none

/-- A text that is shorter than all keywords has none inside. -/
theorem keywordVerdict_of_length_lt {word : Text} (h : word.length < 4) :
    keywordVerdict word = .ok () := by
  have hlong : ∀ keyword ∈ forbiddenKeywords, 4 ≤ keyword.length := by decide
  refine Sql.Policy.keywordVerdict_eq_ok_iff.mpr fun keyword hkeyword => ?_
  refine Text.includes_eq_false_iff.mpr fun hfound => ?_
  have hle := hfound.length_le
  have hleast := hlong keyword hkeyword
  omega

/-- What is captured is in lower case. -/
theorem lowered_of_isCapture {p : Char → Bool} {word : Text} (h : Text.IsCapture p t word)
    (hp : ∀ c, p c = true → Phrase.isDomain c = true) : lowered word = word := by
  have hself : ∀ c ∈ word, c.toLower = c :=
    fun c hc => Phrase.toLower_of_isDomain (hp c (h.chars c hc))
  rw [lowered, List.map_congr_left hself, List.map_id']

/-- The verdict on a literal is the verdict on the text that was captured for it. -/
theorem keywordVerdict_literalText (h : intent.CapturedIn t) :
    keywordVerdict (lowered intent.literalText) =
      intent.capturedText?.elim (.ok ()) keywordVerdict := by
  have hletter (c : Char) : Phrase.isLetter c = true → Phrase.isDomain c = true :=
    Phrase.isDomain_of_isLetter
  cases intent with
  | nameFilter pattern rows =>
    have hcaptured : pattern.CapturedIn t := h.1
    cases pattern with
    | startsWith letter =>
      have hshort : [letter.toLower].length < 4 := by simp
      exact keywordVerdict_of_length_lt hshort
    | contains part =>
      refine congrArg keywordVerdict (lowered_of_isCapture hcaptured fun c hc => ?_)
      rcases Bool.or_eq_true_iff.mp hc with hc | hc
      · exact hletter c hc
      · exact Phrase.isDomain_of_isDigit hc
    | endsWith ending => exact congrArg keywordVerdict (lowered_of_isCapture hcaptured hletter)
  | country code =>
    obtain ⟨word, -, hlength, rfl⟩ := h
    refine keywordVerdict_of_length_lt ?_
    rw [lowered, List.length_map]
    simp [literalText, hlength]
  | plan name => exact congrArg keywordVerdict (lowered_of_isCapture h hletter)
  | emailDomain domain => exact congrArg keywordVerdict (lowered_of_isCapture h fun _ => id)
  | _ =>
    have hempty : ([] : Text).length < 4 := by simp
    exact keywordVerdict_of_length_lt hempty

end Intent

/-! ## The verdict on a question -/

/-- The policy reads the text in a literal in lower case. -/
theorem lowercase_literalText (question : Text) :
    Text.lowercase (classify question).literalText = lowered (classify question).literalText :=
  Text.lowercase_ascii fun c hc =>
    (Intent.isDomain_of_mem_literalText (capturedIn_classify question) c hc).1

/-- A real executor refuses a statement exactly when the standard policy does. -/
theorem Executor.execute_refused_iff {ε : Type} {engine? : Option ε} {sql : Sql.Statement} :
    (∃ message, (Executor.real engine?).execute sql =
        .done (.error (.sqlPolicy message), .real engine?)) ↔
      Sql.Policy.standard.check sql.text ≠ .ok () := by
  cases hcheck : Sql.Policy.standard.check sql.text with
  | error v =>
    exact iff_of_true ⟨v.message, execute_refused hcheck⟩ (by simp)
  | ok u =>
    refine iff_of_false ?_ (by simp)
    rintro ⟨message, h⟩
    -- An accepted statement leads to a call first.
    cases engine? <;> simp [execute, hcheck, obtain, Dialogue.call] at h

/-- The statement of a question is accepted, at either strictness, exactly when no forbidden keyword
occurs in the text in its literal. A real executor refuses it in the other cases, and only then. -/
theorem check_heuristicSql_iff (question : Text) :
    (∀ strictness, Sql.Policy.check ⟨Sql.tableIdent, strictness⟩ (heuristicSql question).text =
        .ok () ↔
      ∀ keyword ∈ forbiddenKeywords,
        includes (Text.lowercase (classify question).literalText) keyword = false) ∧
    ∀ (ε : Type) (engine? : Option ε),
      (∃ message, (Executor.real engine?).execute (heuristicSql question) =
        .done (.error (.sqlPolicy message), .real engine?)) ↔
      ∃ keyword ∈ forbiddenKeywords,
        includes (Text.lowercase (classify question).literalText) keyword = true := by
  have hverdict (strictness : Sql.Strictness) :=
    have hident : (⟨Sql.tableIdent, strictness⟩ : Sql.Policy).ident = Sql.tableIdent := rfl
    Intent.check_sqlText_iff hident (capturedIn_classify question)
  rw [lowercase_literalText]
  refine ⟨hverdict, fun ε engine? => ?_⟩
  rw [Executor.execute_refused_iff]
  refine (not_congr (hverdict .standard)).trans ?_
  simp only [not_forall, Bool.not_eq_false, exists_prop]

/-- The verdict on the statement of a question, at either strictness. The statement is refused exactly
when a part of a name, the end of a name, a plan or a domain was asked for and this text has a
forbidden keyword inside. The first such keyword of the list is named, and nothing else is ever
complained of. -/
theorem check_heuristicSql_eq_error_iff (question : Text) (strictness : Sql.Strictness) :
    (∀ violation,
      Sql.Policy.check ⟨Sql.tableIdent, strictness⟩ (heuristicSql question).text =
          .error violation ↔
        ∃ word keyword, (classify question).capturedText? = some word ∧
          forbiddenKeywords.find? (includes word) = some keyword ∧
          violation = .keyword keyword ∧
          violation.message = "Disallowed keyword present: " ++ keyword) ∧
    (Sql.Policy.check ⟨Sql.tableIdent, strictness⟩ (heuristicSql question).text = .ok () ↔
      ∀ word, (classify question).capturedText? = some word →
        ∀ keyword ∈ forbiddenKeywords, includes word keyword = false) := by
  have hcaptured := capturedIn_classify question
  have hcheck : Sql.Policy.check ⟨Sql.tableIdent, strictness⟩ (heuristicSql question).text =
      (classify question).capturedText?.elim (.ok ()) keywordVerdict :=
    (Intent.check_sqlText rfl hcaptured).trans (Intent.keywordVerdict_literalText hcaptured)
  rw [hcheck]
  cases (classify question).capturedText? with
  | none => simp
  | some word =>
    constructor
    · intro violation
      rw [Option.elim_some, keywordVerdict]
      cases hfind : forbiddenKeywords.find? (includes word) with
      | none => simp [hfind]
      | some keyword =>
        constructor
        · intro h
          obtain rfl := Except.error.inj h
          exact ⟨word, keyword, rfl, hfind, rfl, rfl⟩
        · rintro ⟨_, found, hword, hfound, rfl, -⟩
          cases hword
          rw [hfind] at hfound
          rw [Option.some_inj.mp hfound]
    · rw [Option.elim_some, Sql.Policy.keywordVerdict_eq_ok_iff]
      simp

/-- Not every question has an acceptable statement: the name of a user may have a forbidden keyword
inside. -/
theorem not_forall_check_heuristicSql :
    Sql.Policy.standard.check (heuristicSql "Find users where name contains drop").text =
        .error (.keyword "drop") ∧
      ¬ ∀ (question : Text) (strictness : Sql.Strictness),
        Sql.Policy.check ⟨Sql.tableIdent, strictness⟩ (heuristicSql question).text = .ok () := by
  have hdrop : Sql.Policy.standard.check
      (heuristicSql "Find users where name contains drop").text = .error (.keyword "drop") := rfl
  refine ⟨hdrop, fun h => ?_⟩
  have hok := h "Find users where name contains drop" .standard
  rw [Sql.Policy.standard] at hdrop
  rw [hdrop] at hok
  cases hok

end AskTable
