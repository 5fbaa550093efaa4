import AskTable.Text.LetterCase
import AskTable.Intent.Phrase
/-!
# Rules

The rules are tried in order on the question in lower case, and the first that accepts decides.
Rules about names come before the rule about a bare row limit, because a question about names may
carry a limit too. A question that no rule accepts falls back to counting rows.

## Main definitions

* `Rule` - a name and an acceptance test that gives the intent
* `rules` - the rules in their order
* `classify` - the intent of a question
* `heuristicSql` - its statement

## Main results

* `name_of_mem_rules` - a rule gives only intents of its own name
-/

namespace AskTable

/-- A rule accepts texts in lower case and gives their intent. -/
structure Rule where
  name : Text
  accepts? : Text → Option Intent

namespace Rule

open Text (includes includesAny)
open Phrase (leftmost?)

/-- The row limit anywhere in the text. -/
def rowLimit? (t : Text) : Option Text := leftmost? Phrase.rowLimit? t

/-- The intent, when the condition holds. -/
def when (condition : Bool) (intent : Intent) : Option Intent :=
  if condition then some intent else none

/-- "How many users are there?" -/
def countRows : Rule where
  name := "count_rows"
  accepts? t :=
    when (includesAny t ["count", "how many"]
      && includesAny t ["user", "record", "rows", "entries"]) .countRows

/-- "What is the average age?" -/
def averageAge : Rule where
  name := "average_age"
  accepts? t := when (includesAny t ["average", "avg"] && includes t "age") .averageAge

/-- "What is the total balance of the last 7 days?" -/
def sumBalance : Rule where
  name := "sum_balance"
  accepts? t :=
    when (includesAny t ["sum", "total"] && includes t "balance")
      (.sumBalance (leftmost? Phrase.timeWindow? t))

/-- "Show active users." -/
def countActive : Rule where
  name := "count_active"
  accepts? t := when (includes t "active" && includes t "user") .countActive

/-- "Number of signups per country." -/
def countPerCountry : Rule where
  name := "count_per_country"
  accepts? t :=
    when (includesAny t ["count", "number"] && includes t "country" && includesAny t ["per", "by"])
      .countPerCountry

/-- "Users whose name starts with A." -/
def nameStartsWith : Rule where
  name := "name_starts_with"
  accepts? t := (leftmost? Phrase.nameStart? t).map fun letter =>
    .nameFilter (.startsWith letter.toUpper) (rowLimit? t)

/-- "Users whose name contains ali." -/
def nameContains : Rule where
  name := "name_contains"
  accepts? t := (leftmost? Phrase.namePart? t).map fun part =>
    .nameFilter (.contains part) (rowLimit? t)

/-- "Users whose name ends with son." -/
def nameEndsWith : Rule where
  name := "name_ends_with"
  accepts? t := (leftmost? Phrase.nameEnd? t).map fun ending =>
    .nameFilter (.endsWith ending) (rowLimit? t)

/-- "Users from US." -/
def country : Rule where
  name := "country"
  accepts? t := (leftmost? Phrase.countryCode? t).map fun code => .country (code.map Char.toUpper)

/-- "Users whose plan is pro." -/
def plan : Rule where
  name := "subscription_plan"
  accepts? t := (leftmost? Phrase.planName? t).map .plan

/-- "Emails with domain example.com." -/
def emailDomain : Rule where
  name := "email_domain"
  accepts? t := (leftmost? Phrase.emailDomain? t).map .emailDomain

/-- "Show the first 5 users." -/
def limit : Rule where
  name := "limit"
  accepts? t := (rowLimit? t).map .limit

/-- "Recent signups." -/
def recentSignups : Rule where
  name := "recent_signups"
  accepts? t :=
    when (includesAny t ["recent", "last week"] && includesAny t ["signup", "sign ups", "signups"])
      .recentSignups

/-- "Avg balance by plan." -/
def averageBalancePerPlan : Rule where
  name := "average_balance_per_plan"
  accepts? t :=
    when (includesAny t ["average", "avg"] && includes t "balance"
      && includesAny t ["plan", "subscription"]) .averageBalancePerPlan

end Rule

/-- The rules in the order in which they are tried. -/
def rules : List Rule :=
  [.countRows, .averageAge, .sumBalance, .countActive, .countPerCountry, .nameStartsWith,
    .nameContains, .nameEndsWith, .country, .plan, .emailDomain, .limit, .recentSignups,
    .averageBalancePerPlan]

/-- The intent of a text in lower case. -/
def classifyLowered (t : Text) : Intent := (rules.findSome? (·.accepts? t)).getD .fallback

/-- The intent of a question. -/
def classify (question : Text) : Intent := classifyLowered (Text.lowercase question)

/-- The statement of a question, by the rules alone. -/
def heuristicSql (question : Text) : Sql.Statement := (classify question).toSql

theorem Rule.when_eq_some_iff {condition : Bool} {intent intent' : Intent} :
    Rule.when condition intent = some intent' ↔ condition = true ∧ intent = intent' := by
  cases condition <;> simp [Rule.when]

theorem name_of_mem_rules {rule : Rule} (h : rule ∈ rules) {t : Text} {intent : Intent}
    (ha : rule.accepts? t = some intent) : intent.name = rule.name := by
  simp only [rules, List.mem_cons, List.not_mem_nil, or_false] at h
  rcases h with h | h | h | h | h | h | h | h | h | h | h | h | h | h <;> subst h
  · obtain ⟨_, rfl⟩ := Rule.when_eq_some_iff.mp ha; rfl
  · obtain ⟨_, rfl⟩ := Rule.when_eq_some_iff.mp ha; rfl
  · obtain ⟨_, rfl⟩ := Rule.when_eq_some_iff.mp ha; rfl
  · obtain ⟨_, rfl⟩ := Rule.when_eq_some_iff.mp ha; rfl
  · obtain ⟨_, rfl⟩ := Rule.when_eq_some_iff.mp ha; rfl
  · obtain ⟨_, _, rfl⟩ := Option.map_eq_some_iff.mp ha; rfl
  · obtain ⟨_, _, rfl⟩ := Option.map_eq_some_iff.mp ha; rfl
  · obtain ⟨_, _, rfl⟩ := Option.map_eq_some_iff.mp ha; rfl
  · obtain ⟨_, _, rfl⟩ := Option.map_eq_some_iff.mp ha; rfl
  · obtain ⟨_, _, rfl⟩ := Option.map_eq_some_iff.mp ha; rfl
  · obtain ⟨_, _, rfl⟩ := Option.map_eq_some_iff.mp ha; rfl
  · obtain ⟨_, _, rfl⟩ := Option.map_eq_some_iff.mp ha; rfl
  · obtain ⟨_, rfl⟩ := Rule.when_eq_some_iff.mp ha; rfl
  · obtain ⟨_, rfl⟩ := Rule.when_eq_some_iff.mp ha; rfl

end AskTable
