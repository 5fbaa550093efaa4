import AskTable.Engine.ClickHouse
import AskTable.Sql.Statement
/-!
# Preparing the table

The table is created unless it is there, and gets five rows when it is empty. These statements are
commands of an administrator and are not checked against the policy.

## Main definitions

* `Bootstrap.createSql`, `Bootstrap.countSql`, `Bootstrap.insertSql` - the three statements
* `Bootstrap.Outcome` - what was found
* `Bootstrap.run` - the exchanges with the database
-/

namespace AskTable.Bootstrap

/-- The columns of the table with their types. -/
def columns : List (Text × Text) :=
  [("id", "UInt32"), ("name", "String"), ("email", "String"), ("age", "Int64"),
    ("signup_date", "DateTime"), ("country", "String"), ("is_active", "Bool"),
    ("subscription_plane", "String"), ("last_login", "DateTime"), ("balance", "Int64")]

/-- Creates the table unless it is there. -/
def createSql : Text :=
  "\nCREATE TABLE IF NOT EXISTS " ++ Sql.table ++ " (\n"
    ++ Text.join ",\n" (columns.map fun (name, type) => "  " ++ name ++ " " ++ type)
    ++ "\n) ENGINE = MergeTree ORDER BY id\n"

/-- Counts the rows of the table. -/
def countSql : Text := "SELECT count() AS n FROM " ++ Sql.table

/-- The values of the five rows, each row with its own padding. -/
def seedRows : List Text :=
  ["(1,'Alice','alice@example.com',34, now()-interval 10 day,'US',1,'basic',       "
      ++ "now()-interval 1 hour,   500)",
    "(2,'Bob','bob@example.com',41,   now()-interval 20 day,'DE',0,'pro',         "
      ++ "now()-interval 5 hour,  1250)",
    "(3,'Cara','cara@example.com',29,  now()-interval  2 day,'US',1,'enterprise',  "
      ++ "now()-interval 30 minute,3000)",
    "(4,'Dan','dan@example.com',50,    now()-interval 40 day,'FR',1,'basic',       "
      ++ "now()-interval 2 hour,   150)",
    "(5,'Eve','eve@example.com',22,    now()-interval  5 day,'IN',1,'pro',         "
      ++ "now()-interval 15 minute,850)"]

/-- Inserts the five rows. -/
def insertSql : Text :=
  "\nINSERT INTO " ++ Sql.table ++ " (" ++ Text.join "," (columns.map (·.1)) ++ ") VALUES\n"
    ++ Text.join ",\n" (seedRows.map fun row => "  " ++ row) ++ "\n"

/-- What was found. -/
inductive Outcome where
  /-- the table was empty and got its rows -/
  | seeded
  /-- the table had this number of rows, and was left alone -/
  | alreadyPopulated (rows : Nat)
deriving Repr, DecidableEq

/-- The number that a value stands for: counts may come as numbers or as text. -/
def countOf? : Json → Option Nat
  | .int (.ofNat n) => some n
  | .str t => Text.natBelow? UInt64.size t
  | _ => none

/-- The count that a result holds, in its first row. -/
def readCount? (rows : ResultSet) : Option Nat :=
  (rows.head?.bind fun row => row.get? "n").bind countOf?

/-- Prepares the table. What fails first ends it, and nothing is sent after that. -/
def run (engine : ClickHouse) : Wire.Exchange (Except Error Outcome) := do
  match ← engine.command createSql with
  | .error e => return .error e
  | .ok () =>
    match ← engine.query countSql with
    | .error e => return .error e
    | .ok rows =>
      match readCount? rows with
      | none => return .error (.execution "Could not read row count from ClickHouse")
      | some 0 => return (← engine.command insertSql).map fun _ => .seeded
      | some count => return .ok (.alreadyPopulated count)

end AskTable.Bootstrap
