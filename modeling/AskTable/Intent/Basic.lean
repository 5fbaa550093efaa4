import AskTable.Sql.Literal
import AskTable.Sql.Statement
/-!
# Intents

An intent is what a question asks for, with the values that the question names. Each intent has one
statement. Values from the question enter a statement as digits or inside a string literal.

## Main definitions

* `Intent` - what a question asks for
* `Intent.name` - the name of the rule that recognises it
* `Intent.toSql` - its statement
-/

namespace AskTable

/-- The unit of a time window. -/
inductive TimeUnit where
  | hours
  | days
deriving DecidableEq, Repr

/-- The last so many hours or days. The amount keeps its digits as they were written. -/
structure TimeWindow where
  amount : Text
  unit : TimeUnit
deriving DecidableEq, Repr

/-- The condition that a signup lies in the window. -/
def TimeWindow.condition (window : TimeWindow) : Text :=
  let subtract : Text := match window.unit with
    | .hours => "subtractHours"
    | .days => "subtractDays"
  "signup_date >= " ++ subtract ++ "(now(), " ++ window.amount ++ ")"

/-- What a name has to look like. -/
inductive NamePattern where
  | startsWith (letter : Char)
  | contains (part : Text)
  | endsWith (ending : Text)
deriving DecidableEq, Repr

/-- The pattern with `%` for any text. -/
def NamePattern.like : NamePattern → Text
  | .startsWith letter => letter :: "%"
  | .contains part => "%" ++ part ++ "%"
  | .endsWith ending => "%" ++ ending

/-- What a question asks for. -/
inductive Intent where
  | countRows
  | averageAge
  | sumBalance (window : Option TimeWindow)
  | countActive
  | countPerCountry
  | nameFilter (pattern : NamePattern) (limit : Option Text)
  | country (code : Text)
  | plan (name : Text)
  | emailDomain (domain : Text)
  | limit (rows : Text)
  | recentSignups
  | averageBalancePerPlan
  | fallback
deriving DecidableEq, Repr

namespace Intent

/-- The name of the rule that recognises the intent. -/
def name : Intent → Text
  | .countRows => "count_rows"
  | .averageAge => "average_age"
  | .sumBalance _ => "sum_balance"
  | .countActive => "count_active"
  | .countPerCountry => "count_per_country"
  | .nameFilter (.startsWith _) _ => "name_starts_with"
  | .nameFilter (.contains _) _ => "name_contains"
  | .nameFilter (.endsWith _) _ => "name_ends_with"
  | .country _ => "country"
  | .plan _ => "subscription_plan"
  | .emailDomain _ => "email_domain"
  | .limit _ => "limit"
  | .recentSignups => "recent_signups"
  | .averageBalancePerPlan => "average_balance_per_plan"
  | .fallback => "fallback"

/-- All columns of the rows that satisfy a condition. -/
def selectWhere (condition : Text) : Text :=
  "SELECT * FROM " ++ Sql.table ++ " WHERE " ++ condition

/-- The text of the intent's statement. -/
def sqlText : Intent → Text
  | .countRows | .fallback => "SELECT count(*) FROM " ++ Sql.table
  | .averageAge => "SELECT avg(age) FROM " ++ Sql.table
  | .sumBalance none => "SELECT sum(balance) FROM " ++ Sql.table
  | .sumBalance (some window) =>
    "SELECT sum(balance) FROM " ++ Sql.table ++ " WHERE " ++ window.condition
  | .countActive => "SELECT count(*) FROM " ++ Sql.table ++ " WHERE is_active = true"
  | .countPerCountry =>
    "SELECT country, count(*) AS cnt FROM " ++ Sql.table ++ " GROUP BY country ORDER BY cnt DESC"
  | .nameFilter pattern none => selectWhere ("name ILIKE " ++ Sql.quote pattern.like)
  | .nameFilter pattern (some rows) =>
    selectWhere ("name ILIKE " ++ Sql.quote pattern.like) ++ " LIMIT " ++ rows
  | .country code => selectWhere ("country = " ++ Sql.quote code)
  | .plan name => selectWhere ("subscription_plane = " ++ Sql.quote name)
  | .emailDomain domain => selectWhere ("email ILIKE " ++ Sql.quote ("%@" ++ domain))
  | .limit rows => "SELECT * FROM " ++ Sql.table ++ " LIMIT " ++ rows
  | .recentSignups =>
    "SELECT count(*) FROM " ++ Sql.table ++ " WHERE signup_date >= subtractDays(now(), 7)"
  | .averageBalancePerPlan =>
    "SELECT subscription_plane, avg(balance) AS avg_balance FROM " ++ Sql.table
      ++ " GROUP BY subscription_plane ORDER BY avg_balance DESC"

/-- The intent's statement. -/
def toSql (intent : Intent) : Sql.Statement := ⟨intent.sqlText⟩

end Intent

end AskTable
