import AskTable.Proofs.Intent.Template
import AskTable.Proofs.Text.Search
/-!
# Literals in statements of intents

A literal ends at its own closing quote, whatever text is quoted and whatever stands behind it. So
the first literal of a statement can be cut out and read, and what stands around it does not depend
on the text in it. The statement of an intent has one literal at most, and the intent is free to
have any text there.

## Main definitions

* `Sql.Cut`, `Sql.cutLiteral?` - a text around a literal, and where the first literal of a text lies
* `Intent.cut?` - the literal that an intent has in its statement, and the fixed text around it

## Main results

* `Sql.cutLiteral?_text` - a literal behind a text without quotes is the first one
* `Intent.cutLiteral?_sqlText` - the literals of statements, for all texts in an intent
-/

namespace AskTable

namespace Sql

variable {t u rest rest' : Text}

/-- A literal begins with a quote, and a reader behind it gets back the text and what follows. -/
theorem exists_readLiteral?_quote (t rest : Text) :
    ∃ body, quote t ++ rest = '\'' :: body ∧ readLiteral? body = some (t, rest) :=
  ⟨_, rfl, readLiteral?_quote t rest⟩

/-- A literal with what stands before and behind it. -/
structure Cut where
  before : Text
  content : Text
  after : Text
deriving DecidableEq, Repr

/-- The text that has the literal at this place. -/
def Cut.text (cut : Cut) : Text := cut.before ++ (quote cut.content ++ cut.after)

/-- The first literal of a text. -/
def cutLiteral? (t : Text) : Option Cut := do
  let (before, body) ← Text.cutAt? '\'' t
  let (content, after) ← readLiteral? body
  return ⟨before, content, after⟩

theorem cutLiteral?_of_notMem (h : '\'' ∉ t) : cutLiteral? t = none := by
  rw [cutLiteral?, Text.cutAt?_eq_none h]
  rfl

/-- A literal behind a text without quotes is the first one, whatever is quoted. -/
theorem cutLiteral?_text {cut : Cut} (h : '\'' ∉ cut.before) :
    cutLiteral? cut.text = some cut := by
  obtain ⟨body, hbody, hread⟩ := exists_readLiteral?_quote cut.content cut.after
  rw [cutLiteral?, Cut.text, hbody, Text.cutAt?_append_cons h]
  simp [hread]

end Sql

namespace Intent

open Phrase (isDigit)
open Sql (Cut cutLiteral? quote)

/-- The end of a statement that asks for so many rows. -/
def limitClause (rows : Option Text) : Text := rows.elim [] fun rows => " LIMIT " ++ rows

/-- The literal of the intent's statement, with the fixed text around it and the number of rows. -/
def cut? : Intent → Option Cut
  | .nameFilter pattern rows => some ⟨selectWhere "name ILIKE ", pattern.like, limitClause rows⟩
  | .country code => some ⟨selectWhere "country = ", code, []⟩
  | .plan name => some ⟨selectWhere "subscription_plane = ", name, []⟩
  | .emailDomain domain => some ⟨selectWhere "email ILIKE ", "%@" ++ domain, []⟩
  | _ => none

/-- The statement of an intent with a literal is the fixed text around the literal. -/
theorem sqlText_eq_of_cut? {intent : Intent} {cut : Cut} (h : intent.cut? = some cut) :
    intent.sqlText = cut.text := by
  have hmove (condition literal : Text) :
      selectWhere (condition ++ quote literal) =
        selectWhere condition ++ (quote literal ++ []) := by
    rw [List.append_nil, selectWhere_append]
  cases intent with
  | nameFilter pattern rows =>
    obtain rfl := Option.some.inj h
    cases rows with
    | none => exact hmove _ _
    | some rows =>
      rw [sqlText_nameFilter_some, ← selectWhere_append]
      rfl
  | country code =>
    obtain rfl := Option.some.inj h
    exact hmove _ _
  | plan name =>
    obtain rfl := Option.some.inj h
    exact hmove _ _
  | emailDomain domain =>
    obtain rfl := Option.some.inj h
    exact hmove _ _
  | _ => cases h

theorem quote_notMem_selectWhere {condition : Text} (h : '\'' ∉ condition) :
    '\'' ∉ selectWhere condition := by
  have hfixed : '\'' ∉ ("SELECT * FROM " ++ Sql.table ++ " WHERE " : Text) := by decide
  exact List.not_mem_append hfixed h

/-- There is no quote in front of the literal. -/
theorem quote_notMem_before {intent : Intent} {cut : Cut} (h : intent.cut? = some cut) :
    '\'' ∉ cut.before := by
  cases intent with
  | nameFilter | country | plan | emailDomain =>
    obtain rfl := Option.some.inj h
    exact quote_notMem_selectWhere (by decide)
  | _ => cases h

/-- There is no quote behind the literal, if there is none in the number of rows. -/
theorem quote_notMem_after {intent : Intent} {cut : Cut} (h : intent.cut? = some cut)
    (hdigits : '\'' ∉ intent.digits) : '\'' ∉ cut.after := by
  cases intent with
  | nameFilter pattern rows =>
    obtain rfl := Option.some.inj h
    cases rows with
    | none => exact List.not_mem_nil
    | some rows =>
      have hfixed : '\'' ∉ (" LIMIT " : Text) := by decide
      exact List.not_mem_append hfixed hdigits
  | country | plan | emailDomain =>
    obtain rfl := Option.some.inj h
    exact List.not_mem_nil
  | _ => cases h

theorem quote_notMem_condition {window : TimeWindow} (hamount : '\'' ∉ window.amount) :
    '\'' ∉ window.condition := by
  have hclose : '\'' ∉ (")" : Text) := by decide
  obtain ⟨amount, unit⟩ := window
  cases unit with
  | hours =>
    have hopen : '\'' ∉ ("signup_date >= " ++ "subtractHours" ++ "(now(), " : Text) := by decide
    exact List.not_mem_append (List.not_mem_append hopen hamount) hclose
  | days =>
    have hopen : '\'' ∉ ("signup_date >= " ++ "subtractDays" ++ "(now(), " : Text) := by decide
    exact List.not_mem_append (List.not_mem_append hopen hamount) hclose

/-- There is no quote in a statement without a literal, if there is none in its number. -/
theorem quote_notMem_sqlText {intent : Intent} (h : intent.cut? = none)
    (hdigits : '\'' ∉ intent.digits) : '\'' ∉ intent.sqlText := by
  cases intent with
  | nameFilter | country | plan | emailDomain => cases h
  | sumBalance window =>
    cases window with
    | none => decide
    | some window =>
      have hfixed : '\'' ∉ ("SELECT sum(balance) FROM " ++ Sql.table ++ " WHERE " : Text) := by
        decide
      exact List.not_mem_append hfixed (quote_notMem_condition hdigits)
  | limit rows =>
    have hfixed : '\'' ∉ ("SELECT * FROM " ++ Sql.table ++ " LIMIT " : Text) := by decide
    exact List.not_mem_append hfixed hdigits
  | _ => decide

/-- The first literal of a statement is the one of the intent. A statement of an intent without a
literal has none, if its number has no quote. -/
theorem cutLiteral?_eq_cut? {intent : Intent} (hdigits : '\'' ∉ intent.digits) :
    cutLiteral? intent.sqlText = intent.cut? := by
  cases hcut : intent.cut? with
  | none => exact Sql.cutLiteral?_of_notMem (quote_notMem_sqlText hcut hdigits)
  | some cut =>
    rw [sqlText_eq_of_cut? hcut, Sql.cutLiteral?_text (quote_notMem_before hcut)]

/-- A literal is read back with what stands behind it. So in the statement of every intent with a
literal, whatever its text, the first literal is the one of the intent, in a fixed text. If the
number of the intent has only digits, there is no further quote in any statement. -/
theorem cutLiteral?_sqlText :
    (∀ t rest : Text, ∃ body, quote t ++ rest = '\'' :: body ∧
      Sql.readLiteral? body = some (t, rest)) ∧
    ∀ intent : Intent,
      (∀ cut ∈ intent.cut?, cutLiteral? intent.sqlText = some cut ∧ intent.sqlText = cut.text) ∧
      ((∀ c ∈ intent.digits, isDigit c = true) →
        cutLiteral? intent.sqlText = intent.cut? ∧ ∀ cut ∈ intent.cut?, '\'' ∉ cut.after) := by
  refine ⟨Sql.exists_readLiteral?_quote, fun intent => ⟨?_, ?_⟩⟩
  · intro cut hcut
    have htext := sqlText_eq_of_cut? hcut
    exact ⟨by rw [htext, Sql.cutLiteral?_text (quote_notMem_before hcut)], htext⟩
  · intro hall
    have hdigits : '\'' ∉ intent.digits := fun hmem => absurd (hall _ hmem) (by decide)
    exact ⟨cutLiteral?_eq_cut? hdigits, fun cut hcut => quote_notMem_after hcut hdigits⟩

/-- A name that tries to end its literal stays in it. -/
theorem cutLiteral?_sqlText_name :
    cutLiteral? (nameFilter (.contains "\\' OR 1=1 --\\") (some "5")).sqlText =
      some ⟨"SELECT * FROM default.MOCK_DATA WHERE name ILIKE ", "%\\' OR 1=1 --\\%",
        " LIMIT 5"⟩ := by
  have hdigits : ∀ c ∈ (nameFilter (.contains "\\' OR 1=1 --\\") (some "5")).digits,
      isDigit c = true := by simp [digits, isDigit]
  exact ((cutLiteral?_sqlText.2 _).2 hdigits).1

end Intent

end AskTable
