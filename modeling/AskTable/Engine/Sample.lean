import AskTable.Engine.Rows
import AskTable.Sql.Statement
/-!
# The built-in sample

Without a database, statements are answered from three rows. The statement is not interpreted: only
its first two words are looked at, and decide between a count, a sum, an average and all rows.

## Main definitions

* `Sample.rows` - the three rows
* `Sample.leadingCall?` - the function that a statement begins with
* `Sample.respond` - the answer to a statement
-/

namespace AskTable.Sample

/-- A row of the sample. -/
def row (id : Nat) (name email : Text) (age : Nat) (signupDate country : Text) (isActive : Bool)
    (plan lastLogin : Text) (balance : Nat) : Fields :=
  [("id", .int id), ("name", .str name), ("email", .str email), ("age", .int age),
    ("signup_date", .str signupDate), ("country", .str country), ("is_active", .bool isActive),
    ("subscription_plane", .str plan), ("last_login", .str lastLogin), ("balance", .int balance)]

/-- The three rows. -/
def rows : ResultSet :=
  [row 1 "Alice" "alice@example.com" 34 "2025-09-17T10:00:00" "US" true "basic"
      "2025-09-27T09:00:00" 500,
    row 2 "Bob" "bob@example.com" 41 "2025-09-07T18:30:00" "DE" false "pro"
      "2025-09-27T05:00:00" 1250,
    row 3 "Cara" "cara@example.com" 29 "2025-09-25T02:15:00" "US" true "enterprise"
      "2025-09-27T09:30:00" 3000]

/-- The function whose call follows the word `select`, in a text in lower case. -/
def leadingCall? (t : Text) : Option Text :=
  match Text.words t with
  | first :: second :: _ =>
    if first = "select" then (Text.cutAt? '(' second).map (·.1) else none
  | _ => none

/-- The sum of the balances. -/
def totalBalance : Int :=
  (rows.filterMap fun row => match row.get? "balance" with
    | some (.int n) => some n
    | _ => none).foldr (· + ·) 0

/-- The sum of the balances, with two decimal places. -/
def sum? : Option Binary64 := Binary64.ofInt? totalBalance >>= (·.roundToHundredths?)

/-- The average balance, with two decimal places. -/
def average? : Option Binary64 := do
  let total ← Binary64.ofInt? totalBalance
  let count ← Binary64.ofInt? rows.length
  let average ← total.div? count
  average.roundToHundredths?

/-- One row with one value. -/
def single (column : Text) (value : Json) : ResultSet := [[(column, value)]]

/-- The answer to a statement. -/
def respond (sql : Text) : ResultSet :=
  match leadingCall? (Text.lowercase (Text.trimStart sql)) with
  | none => rows
  | some function =>
    if function = "count" then single "count" (.int rows.length)
    else if function = "sum" then single "sum" (.ofBinary64? sum?)
    else if function = "avg" then single "avg" (.ofBinary64? average?)
    else rows

end AskTable.Sample
