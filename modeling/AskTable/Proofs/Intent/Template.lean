import AskTable.Proofs.Intent.Capture
import AskTable.Proofs.Sql.Grammar
/-!
# Statements of intents

There is a fixed list of templates. A template is a list of tokens with places for a number and for
the inside of one literal. The statement of every intent is a template with its places filled, and
after a question only these places depend on what was asked.

## Main definitions

* `Template`, `Template.fill` - tokens with places, and the tokens that fill them
* `templates` - the fixed list
* `Intent.template`, `Intent.literalText`, `Intent.digits` - the template of an intent and what it
  fills the places with

## Main results

* `Intent.sqlText_eq_write` - the statement of an intent is its filled template
* `Intent.exists_query` - a filled template is a sentence of the grammar, if its numbers are numbers
* `heuristicSql_confined` - what a question says stays inside a literal or a number
-/

namespace AskTable

open Sql (Token)
open Text (IsCapture IsAmount)

/-- A place of a template: a token, the digits of a number, or a literal with a text between two
fixed ones. -/
inductive Slot where
  | fixed (token : Token)
  | number
  | literal (before after : Text)
deriving DecidableEq, Repr

namespace Slot

def isLiteral : Slot → Bool
  | .literal .. => true
  | _ => false

/-- The token at a place. -/
def fill (word digits : Text) : Slot → Token
  | .fixed token => token
  | .number => .number digits
  | .literal before after => .literal (before ++ word ++ after)

def word (w : Text) : Slot := .fixed (.word w)

def mark (m : Text) : Slot := .fixed (.mark m)

end Slot

/-- A statement with places for a number and a literal. -/
abbrev Template := List Slot

namespace Template

open Slot (word mark)

/-- The tokens of a template whose places are filled. -/
def fill (template : Template) (literalText digits : Text) : List Token :=
  template.map (Slot.fill literalText digits)

def fromTable : Template := [word "FROM", word Sql.table]

def selectAll : Template := [word "SELECT", mark "*"] ++ fromTable

def selectCall (function : Text) (of : Slot) : Template :=
  [word "SELECT", word function, mark "(", of, mark ")"] ++ fromTable

/-- The condition that a signup lies in a window of time before now. -/
def since (subtract : Text) (amount : Slot) : Template :=
  [word "WHERE", word "signup_date", mark ">=", word subtract, mark "(", word "now", mark "(",
    mark ")", mark ",", amount, mark ")"]

/-- The condition that a column is like, or equal to, a literal. -/
def matching (column : Text) (comparison value : Slot) : Template :=
  [word "WHERE", word column, comparison, value]

/-- All rows with a name of the given look. -/
def named (before after : Text) : Template :=
  selectAll ++ matching "name" (word "ILIKE") (.literal before after)

def limited : Template := [word "LIMIT", .number]

def perCountry : Template :=
  [word "SELECT", word "country", mark ",", word "count", mark "(", mark "*", mark ")", word "AS",
    word "cnt"] ++ fromTable ++
  [word "GROUP", word "BY", word "country", word "ORDER", word "BY", word "cnt", word "DESC"]

def perPlan : Template :=
  [word "SELECT", word "subscription_plane", mark ",", word "avg", mark "(", word "balance",
    mark ")", word "AS", word "avg_balance"] ++ fromTable ++
  [word "GROUP", word "BY", word "subscription_plane", word "ORDER", word "BY",
    word "avg_balance", word "DESC"]

end Template

open Template in
/-- The templates of all statements. -/
def templates : List Template :=
  [selectCall "count" (.mark "*"),
    selectCall "avg" (.word "age"),
    selectCall "sum" (.word "balance"),
    selectCall "sum" (.word "balance") ++ since "subtractHours" .number,
    selectCall "sum" (.word "balance") ++ since "subtractDays" .number,
    selectCall "count" (.mark "*") ++ matching "is_active" (.mark "=") (.word "true"),
    perCountry,
    named "" "%",
    named "%" "%",
    named "%" "",
    named "" "%" ++ limited,
    named "%" "%" ++ limited,
    named "%" "" ++ limited,
    selectAll ++ matching "country" (.mark "=") (.literal "" ""),
    selectAll ++ matching "subscription_plane" (.mark "=") (.literal "" ""),
    selectAll ++ matching "email" (.word "ILIKE") (.literal "%@" ""),
    selectAll ++ limited,
    selectCall "count" (.mark "*") ++ since "subtractDays" (.fixed (.number "7")),
    perPlan]

/-! ## The template of an intent -/

namespace NamePattern

/-- What stands in the literal before and after the text of the pattern. -/
def around : NamePattern → Text × Text
  | .startsWith _ => ("", "%")
  | .contains _ => ("%", "%")
  | .endsWith _ => ("%", "")

def literalText : NamePattern → Text
  | .startsWith letter => [letter]
  | .contains part => part
  | .endsWith ending => ending

def template (pattern : NamePattern) : Template := .named pattern.around.1 pattern.around.2

theorem like_eq (pattern : NamePattern) :
    pattern.like = pattern.around.1 ++ pattern.literalText ++ pattern.around.2 := by
  cases pattern <;> simp [like, around, literalText]

end NamePattern

namespace Intent

open Template

/-- The template of the intent's statement. -/
def template : Intent → Template
  | .countRows | .fallback => selectCall "count" (.mark "*")
  | .averageAge => selectCall "avg" (.word "age")
  | .sumBalance none => selectCall "sum" (.word "balance")
  | .sumBalance (some ⟨_, .hours⟩) =>
    selectCall "sum" (.word "balance") ++ since "subtractHours" .number
  | .sumBalance (some ⟨_, .days⟩) =>
    selectCall "sum" (.word "balance") ++ since "subtractDays" .number
  | .countActive =>
    selectCall "count" (.mark "*") ++ matching "is_active" (.mark "=") (.word "true")
  | .countPerCountry => perCountry
  | .nameFilter pattern none => pattern.template
  | .nameFilter pattern (some _) => pattern.template ++ limited
  | .country _ => selectAll ++ matching "country" (.mark "=") (.literal "" "")
  | .plan _ => selectAll ++ matching "subscription_plane" (.mark "=") (.literal "" "")
  | .emailDomain _ => selectAll ++ matching "email" (.word "ILIKE") (.literal "%@" "")
  | .limit _ => selectAll ++ limited
  | .recentSignups =>
    selectCall "count" (.mark "*") ++ since "subtractDays" (.fixed (.number "7"))
  | .averageBalancePerPlan => perPlan

/-- The text of the intent that stands in a literal. -/
def literalText : Intent → Text
  | .nameFilter pattern _ => pattern.literalText
  | .country text | .plan text | .emailDomain text => text
  | _ => []

/-- The digits of the intent. -/
def digits : Intent → Text
  | .sumBalance window => window.elim [] TimeWindow.amount
  | .nameFilter _ rows => rows.getD []
  | .limit rows => rows
  | _ => []

theorem template_mem_templates (intent : Intent) : intent.template ∈ templates := by
  cases intent with
  | sumBalance window =>
    rcases window with _ | ⟨_, unit⟩
    · simp [template, templates]
    · cases unit <;> simp [template, templates]
  | nameFilter pattern rows =>
    cases pattern <;> cases rows <;>
      simp [template, NamePattern.template, NamePattern.around, templates]
  | _ => simp [template, templates]

/-! The fixed tokens of a statement are evaluated. What is left are the places behind them, and an
empty end behind the last place. -/

theorem selectWhere_append (condition rest : Text) :
    selectWhere condition ++ rest = selectWhere (condition ++ rest) :=
  List.append_assoc _ condition rest

theorem sqlText_nameFilter_some (pattern : NamePattern) (rows : Text) :
    (nameFilter pattern (some rows)).sqlText =
      selectWhere ("name ILIKE " ++ (Sql.quote pattern.like ++ ((" LIMIT " : Text) ++ rows))) := by
  calc selectWhere ("name ILIKE " ++ Sql.quote pattern.like) ++ (" LIMIT " : Text) ++ rows
    _ = selectWhere ("name ILIKE " ++ Sql.quote pattern.like) ++ ((" LIMIT " : Text) ++ rows) :=
      List.append_assoc _ _ _
    _ = _ := selectWhere_append _ _
    _ = _ := congrArg selectWhere (List.append_assoc _ _ _)

/-- The statement of an intent is its template with the places filled. -/
theorem sqlText_eq_write (intent : Intent) :
    intent.sqlText = Sql.write (intent.template.fill intent.literalText intent.digits) := by
  cases intent with
  | sumBalance window =>
    rcases window with _ | ⟨_, unit⟩
    · rfl
    · cases unit <;> rfl
  | nameFilter pattern rows =>
    cases rows with
    | none =>
      -- The text written by the template ends with the empty text behind the last token.
      have h : Sql.quote pattern.like =
          Sql.quote (pattern.around.1 ++ pattern.literalText ++ pattern.around.2) ++ [] := by
        rw [pattern.like_eq, List.append_nil]
      refine (congrArg (fun literal => selectWhere ("name ILIKE " ++ literal)) h).trans ?_
      rfl
    | some rows =>
      have h : Sql.quote pattern.like ++ ((" LIMIT " : Text) ++ rows) =
          Sql.quote (pattern.around.1 ++ pattern.literalText ++ pattern.around.2) ++
            ((" LIMIT " : Text) ++ (rows ++ [])) := by
        rw [pattern.like_eq, List.append_nil rows]
      refine (sqlText_nameFilter_some pattern rows).trans ?_
      refine (congrArg (fun rest => selectWhere ("name ILIKE " ++ rest)) h).trans ?_
      rfl
  | country code =>
    have h : Sql.quote code = Sql.quote (code ++ []) ++ [] := by simp
    refine (congrArg (fun literal => selectWhere ("country = " ++ literal)) h).trans ?_
    rfl
  | plan name =>
    have h : Sql.quote name = Sql.quote (name ++ []) ++ [] := by simp
    refine (congrArg (fun literal => selectWhere ("subscription_plane = " ++ literal)) h).trans ?_
    rfl
  | emailDomain domain =>
    have h : Sql.quote (['%', '@'] ++ domain) = Sql.quote (['%', '@'] ++ domain ++ []) ++ [] := by
      simp
    refine (congrArg (fun literal => selectWhere ("email ILIKE " ++ literal)) h).trans ?_
    rfl
  | limit rows =>
    have h : rows = rows ++ [] := by simp
    refine (congrArg (fun rows => "SELECT * FROM " ++ Sql.table ++ " LIMIT " ++ rows) h).trans ?_
    rfl
  | _ => rfl

/-! ## The tree of an intent -/

/-- An amount as a number of the grammar. -/
def numberOf {t digits : Text} (h : IsAmount t digits) : Sql.Number :=
  ⟨digits, h.ne_nil, List.all_eq_true.mpr h.chars⟩

/-- The select list of one function. -/
def callOf (function : Sql.Aggregate) (of : Option Sql.Column) : Sql.SelectList :=
  .items ⟨.aggregate function of, none⟩ []

/-- A column and one function, grouped by the column and with the largest values first. -/
def groupedBy (column : Sql.Column) (function : Sql.Aggregate) (of : Option Sql.Column)
    (label : Sql.Identifier) : Sql.Query where
  select := .items ⟨.column column, none⟩ [⟨.aggregate function of, some label⟩]
  filter := none
  grouping := some ⟨column, []⟩
  ordering := some ⟨.inr label, some .desc⟩
  limit := none

/-- All columns of the rows that satisfy a condition, or so many of them. -/
def rowsWhere (condition : Option Sql.Condition) (limit : Option Sql.Number) : Sql.Query where
  select := .all
  filter := condition.map fun condition => ⟨condition, []⟩
  grouping := none
  ordering := none
  limit := limit

/-- One function over the rows that satisfy a condition. -/
def totalWhere (function : Sql.Aggregate) (of : Option Sql.Column)
    (condition : Option Sql.Condition) : Sql.Query where
  select := callOf function of
  filter := condition.map fun condition => ⟨condition, []⟩
  grouping := none
  ordering := none
  limit := none

/-- The condition on a name that has the look of a pattern. -/
def nameLike (pattern : NamePattern) : Sql.Condition :=
  .like .name (pattern.around.1 ++ pattern.literalText ++ pattern.around.2)

/-- A filled template is a sentence of the grammar, if the numbers of the intent are numbers. -/
theorem exists_query {t : Text} {intent : Intent} (h : intent.CapturedIn t) :
    ∃ query : Sql.Query, query.tokens = intent.template.fill intent.literalText intent.digits := by
  cases intent with
  | countRows => exact ⟨totalWhere .count none none, rfl⟩
  | fallback => exact ⟨totalWhere .count none none, rfl⟩
  | averageAge => exact ⟨totalWhere .avg (some .age) none, rfl⟩
  | sumBalance window =>
    rcases window with _ | ⟨amount, unit⟩
    · exact ⟨totalWhere .sum (some .balance) none, rfl⟩
    · have hamount := h _ rfl
      refine ⟨totalWhere .sum (some .balance)
        (some (.since .signupDate unit (numberOf hamount))), ?_⟩
      cases unit <;> rfl
  | countActive =>
    exact ⟨totalWhere .count none (some (.compare .isActive .eq (.bool true))), rfl⟩
  | countPerCountry =>
    exact ⟨groupedBy .country .count none ⟨"cnt", by decide, by decide⟩, rfl⟩
  | nameFilter pattern rows =>
    cases rows with
    | none => exact ⟨rowsWhere (some (nameLike pattern)) none, rfl⟩
    | some rows =>
      exact ⟨rowsWhere (some (nameLike pattern)) (some (numberOf (h.2 rows rfl))), rfl⟩
  | country code =>
    exact ⟨rowsWhere (some (.compare .country .eq (.literal ([] ++ code ++ [])))) none, rfl⟩
  | plan name =>
    exact ⟨rowsWhere (some (.compare .subscriptionPlane .eq (.literal ([] ++ name ++ [])))) none,
      rfl⟩
  | emailDomain domain =>
    exact ⟨rowsWhere (some (.like .email (['%', '@'] ++ domain ++ []))) none, rfl⟩
  | limit rows => exact ⟨rowsWhere none (some (numberOf h)), rfl⟩
  | recentSignups =>
    exact ⟨totalWhere .count none (some (.since .signupDate .days ⟨"7", by decide, by decide⟩)),
      rfl⟩
  | averageBalancePerPlan =>
    exact ⟨groupedBy .subscriptionPlane .avg (some .balance)
      ⟨"avg_balance", by decide, by decide⟩, rfl⟩

/-! ## What fills the places -/

variable {t : Text} {intent : Intent}

/-- What fills the place in a literal was captured, and is perhaps in upper case. -/
theorem isCapture_literalText (h : intent.CapturedIn t)
    (hplace : intent.template.any Slot.isLiteral = true) :
    ∃ word, IsCapture Phrase.isDomain t word ∧
      (intent.literalText = word ∨ intent.literalText = word.map Char.toUpper) := by
  cases intent with
  | nameFilter pattern rows =>
    cases pattern with
    | startsWith letter =>
      -- The letter was put in upper case after it was captured, as is the code of a country.
      obtain ⟨⟨c, hcap, rfl⟩, -⟩ := h
      exact ⟨[c], hcap.mono fun _ => Phrase.isDomain_of_isLetter, Or.inr rfl⟩
    | contains part =>
      refine ⟨part, h.1.mono fun c hc => ?_, Or.inl rfl⟩
      rcases Bool.or_eq_true_iff.mp hc with hletter | hdigit
      · exact Phrase.isDomain_of_isLetter hletter
      · exact Phrase.isDomain_of_isDigit hdigit
    | endsWith ending =>
      exact ⟨ending, h.1.mono fun _ => Phrase.isDomain_of_isLetter, Or.inl rfl⟩
  | country code =>
    obtain ⟨word, hcap, -, rfl⟩ := h
    exact ⟨word, hcap.mono fun _ => Phrase.isDomain_of_isLetter, Or.inr rfl⟩
  | plan name => exact ⟨name, h.mono fun _ => Phrase.isDomain_of_isLetter, Or.inl rfl⟩
  | emailDomain domain => exact ⟨domain, h, Or.inl rfl⟩
  | sumBalance window =>
    -- A window fills the place of a number only.
    rcases window with _ | ⟨_, unit⟩
    · cases hplace
    · cases unit <;> cases hplace
  | _ => cases hplace

/-- What fills the place of a number was captured as one. -/
theorem isAmount_digits (h : intent.CapturedIn t) (hplace : .number ∈ intent.template) :
    IsAmount t intent.digits := by
  -- The test is evaluated for each template, so that only intents with digits are left.
  have hcontains : intent.template.contains .number = true := List.contains_iff_mem.mpr hplace
  cases intent with
  | sumBalance window =>
    cases window with
    | none => cases hcontains
    | some window => exact h window rfl
  | nameFilter pattern rows =>
    cases rows with
    | none => cases pattern <;> cases hcontains
    | some rows => exact h.2 rows rfl
  | limit rows => exact h
  | _ => cases hcontains

end Intent

/-- No template has two places of one kind. -/
theorem countP_of_mem_templates : ∀ template ∈ templates,
    template.countP Slot.isLiteral ≤ 1 ∧ template.count .number ≤ 1 := by decide

/-- What a question says stays inside one literal or one number. The statement of every question is
a sentence of the grammar, and its tokens are those of a template whose places are filled: the place
in a literal with a captured text, the place of a number with at most three captured digits. -/
theorem heuristicSql_confined (question : Text) :
    ∃ query : Sql.Query, ∃ template ∈ templates, ∃ literalText digits : Text,
      Sql.scan (heuristicSql question).text = some query.tokens ∧
      query.tokens = template.fill literalText digits ∧
      (template.countP Slot.isLiteral ≤ 1 ∧ template.count .number ≤ 1) ∧
      (template.any Slot.isLiteral = true →
        ∃ word, IsCapture Phrase.isDomain (Text.lowercase question) word ∧
          (literalText = word ∨ literalText = word.map Char.toUpper)) ∧
      (.number ∈ template → IsAmount (Text.lowercase question) digits) := by
  have hcap := capturedIn_classify question
  obtain ⟨query, hquery⟩ := Intent.exists_query hcap
  have hmem := (classify question).template_mem_templates
  refine ⟨query, _, hmem, (classify question).literalText, (classify question).digits, ?_, hquery,
    countP_of_mem_templates _ hmem, Intent.isCapture_literalText hcap,
    Intent.isAmount_digits hcap⟩
  calc Sql.scan (heuristicSql question).text
    _ = Sql.scan (Sql.write query.tokens) := by
      rw [hquery]
      exact congrArg Sql.scan (classify question).sqlText_eq_write
    _ = some query.tokens := Sql.scan_write_tokens query

end AskTable
