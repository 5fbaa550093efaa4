import AskTable.Engine.Certificate
import AskTable.Engine.Rows
import AskTable.Files
import AskTable.Json.Schema
import AskTable.Settings
import AskTable.Wire
/-!
# The ClickHouse engine

A statement is the content of a request; credentials are in its headers. Rows come back as a list of
column names and a list of lists of values.

## Main definitions

* `ClickHouse` - how to reach the database
* `ClickHouse.connect` - the connection that settings make
* `ClickHouse.query`, `ClickHouse.command` - the exchanges about a statement
* `ClickHouse.zipRows` - rows from column names and values
-/

namespace AskTable

/-- How to reach the database. -/
structure ClickHouse where
  endpoint : Text
  database : Text
  user : Text
  password : Text
deriving Repr, DecidableEq

namespace ClickHouse

/-- Checks the certificate that the settings name, if they name one. -/
def checkCertificate (files : Files) (settings : ClickHouseSettings) : Except Error Unit :=
  match settings.caCert with
  | none => .ok ()
  | some path =>
    match files path with
    | .error fault =>
      .error (.execution
        ("Failed to read CA certificate " ++ path ++ ": " ++ fault.message))
    | .ok content =>
      if Certificate.inFile content then .ok ()
      else .error (.execution "Invalid CA certificate: no certificate in the file")

/-- The connection that the settings make. The user and the password may be unset. -/
def connect (files : Files) (settings : ClickHouseSettings) : Except Error ClickHouse :=
  match settings.host, settings.portNumber, settings.database with
  | some host, some number, some database => do
    checkCertificate files settings
    let scheme : Text := if settings.secure then "https" else "http"
    return {
      endpoint := scheme ++ "://" ++ host ++ ":" ++ Text.ofNat number ++ "/"
      database := database
      user := settings.user.getD "default"
      password := settings.password.getD []
    }
  | _, _, _ => .error (.execution "ClickHouse connection settings incomplete")

/-- The request about a statement. Rows are asked for in a format; a command has none. -/
def request (engine : ClickHouse) (sql : Text) (wantsRows : Bool) : Wire.Request where
  method := "POST"
  url := engine.endpoint
  query := ("database", engine.database) :: (if wantsRows then
    [("default_format", "JSONCompact"), ("output_format_json_quote_64bit_integers", "0")]
    else [])
  headers := [("x-clickhouse-user", engine.user), ("x-clickhouse-key", engine.password)]
  body := sql

/-- The text of a reply that tells of success. The content is read before the status is looked
at. -/
def readReply : Wire.Reply → Except Error Text
  | .unreachable reason => .error (.execution ("Failed to reach ClickHouse: " ++ reason))
  | .unreadable _ reason =>
    .error (.execution ("Failed to read ClickHouse response: " ++ reason))
  | .answered status content =>
    if Wire.isSuccess status then .ok content.text
    else .error (.execution ("ClickHouse query failed with status " ++ Wire.statusText status
      ++ ": " ++ Text.trim content.text))

/-- The shape of a result. -/
def resultShape : Json.Schema :=
  .record "CompactResponse" [
    ("meta", .list (.record "CompactColumn" [("name", .text)])),
    ("data", .list (.list .any))]

/-- One row: the values at the names of their columns. Values without a column are left out, as are
columns without a value; of two columns of one name the later value stands in the earlier place. -/
def zipRow (columns : List Text) (values : List Json) : Fields :=
  Fields.ofList (columns.zip values)

/-- The items of an array. -/
def itemsOf : Option Json → List Json
  | some (.arr items) => items
  | _ => []

/-- The names of the columns of a result. -/
def columnNames (result : Json) : List Text :=
  (itemsOf (result.member? "meta")).map fun column =>
    ((column.member? "name").bind Json.text?).getD []

/-- The rows of a result. -/
def zipRows (result : Json) : ResultSet :=
  (itemsOf (result.member? "data")).map fun values =>
    zipRow (columnNames result) (itemsOf (some values))

/-- The rows that a text writes. -/
def readRows (t : Text) : Except Error ResultSet :=
  match resultShape.parse t with
  | .ok result => .ok (zipRows result)
  | .error e => .error (.execution ("Failed to parse ClickHouse response: " ++ e.message))

/-- Runs a statement and gives its rows. -/
def query (engine : ClickHouse) (sql : Text) : Wire.Exchange (Except Error ResultSet) := do
  let reply ← Wire.send (engine.request sql true)
  return readReply reply >>= readRows

/-- Runs a statement that gives no rows. It is not checked against the policy. -/
def command (engine : ClickHouse) (sql : Text) : Wire.Exchange (Except Error Unit) := do
  let reply ← Wire.send (engine.request sql false)
  return (readReply reply).map fun _ => ()

end ClickHouse

end AskTable
