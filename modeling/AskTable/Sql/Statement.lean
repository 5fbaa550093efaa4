import AskTable.Text.Blank
import AskTable.Text.LetterCase
/-!
# Statements

Every statement is meant for one fixed table.

## Main definitions

* `Sql.Statement` - a text taken to be SQL
* `Sql.table` - the table, with its database
* `Sql.Statement.isSelect` - the statement begins like a query
-/

namespace AskTable.Sql

/-- The one table that statements are about. -/
def table : Text := "default.MOCK_DATA"

/-- What the table is recognised by, in lower case. -/
def tableIdent : Text := "mock_data"

/-- A text taken to be SQL. -/
structure Statement where
  text : Text
deriving DecidableEq, Repr

/-- Does the statement begin with `select`, in whatever case and after whatever blanks? -/
def Statement.isSelect (s : Statement) : Bool :=
  Text.beginsWith (Text.lowercase (Text.trim s.text)) "select"

end AskTable.Sql
