import AskTable.Error
import AskTable.Text.Blank
import AskTable.Text.LetterCase
/-!
# Settings

Settings come from an environment, a function from names to values. A value of blanks only counts as
unset, and every setting that is unset has a default.

## Main definitions

* `Environment` - values by name
* `Settings`, `ClickHouseSettings` - all settings
* `Settings.ofEnvironment` - the settings that an environment makes
* `Settings.modelEnabled` - questions go to the chat model
-/

namespace AskTable

/-- The value of a name, if it is set. -/
abbrev Environment := (name : Text) → Option Text

/-- How to reach the database. -/
structure ClickHouseSettings where
  host : Option Text := none
  portNumber : Option Nat := none
  user : Option Text := none
  password : Option Text := none
  database : Option Text := none
  /-- use an encrypted connection -/
  secure : Bool := false
  /-- the path of a file with the certificate to trust -/
  caCert : Option Text := none
  timeoutSeconds : Nat := 30
deriving Repr, DecidableEq

/-- All settings. -/
structure Settings where
  apiKey : Option Text := none
  model : Text := "gpt-5"
  baseUrl : Text := "https://api.openai.com/v1"
  grammarPath : Text := "grammars/clickhouse_sql.bnf"
  /-- answer from the rules and the sample, without model and database -/
  mockMode : Bool := true
  clickHouse : ClickHouseSettings := {}
  logLevel : Text := "info"
  bindAddress : Text := "0.0.0.0:8000"
  chatTimeoutSeconds : Nat := 60
deriving Repr, DecidableEq

namespace Environment

/-- The value of a name, unless it is blank. -/
def value? (env : Environment) (name : Text) : Option Text :=
  (env name).filter (!Text.isBlankOnly ·)

/-- The spellings of yes. -/
def yesSpellings : List Text := ["1", "true", "yes"]

/-- Does the value mean yes, whatever its case and its outer blanks? -/
def isYes (value : Text) : Bool := yesSpellings.contains (Text.lowercase (Text.trim value))

/-- Whether a name is set to a value that means yes, or the default if it is unset. -/
def flag (env : Environment) (name : Text) (default : Bool) : Bool :=
  ((env.value? name).map isYes).getD default

/-- The number that a name is set to, below a bound, or `none` if it is unset. -/
def number? (env : Environment) (name : Text) (bound : Nat) : Except Error (Option Nat) :=
  match env.value? name with
  | none => .ok none
  | some raw =>
    match Text.natBelow? bound (Text.trim raw) with
    | some n => .ok (some n)
    | none =>
      .error (.config (name ++ " must be a non-negative integer, got '" ++ raw ++ "'"))

end Environment

namespace Settings

/-- The names that settings are made from. -/
def names : List Text :=
  ["CLICKHOUSE_PORT", "LLM_TIMEOUT_SECS", "DB_TIMEOUT_SECS", "OPENAI_API_KEY", "OPENAI_MODEL",
    "OPENAI_BASE_URL", "GRAMMAR_PATH", "MOCK_MODE", "CLICKHOUSE_HOST", "CLICKHOUSE_USER",
    "CLICKHOUSE_PASSWORD", "CLICKHOUSE_DATABASE", "CLICKHOUSE_SECURE", "CLICKHOUSE_CA_CERT",
    "LOG_LEVEL", "BIND_ADDR"]

/-- The settings that an environment makes. The number 0 for `portNumber` counts as unset. Of
several numbers that cannot be read the first is reported, in the order in which they are read
here. -/
def ofEnvironment (env : Environment) : Except Error Settings := do
  let defaults : Settings := {}
  let portNumber ← env.number? "CLICKHOUSE_PORT" UInt16.size
  let chatTimeout ← env.number? "LLM_TIMEOUT_SECS" UInt64.size
  let databaseTimeout ← env.number? "DB_TIMEOUT_SECS" UInt64.size
  return {
    apiKey := env.value? "OPENAI_API_KEY"
    model := (env.value? "OPENAI_MODEL").getD defaults.model
    baseUrl := (env.value? "OPENAI_BASE_URL").getD defaults.baseUrl
    grammarPath := (env.value? "GRAMMAR_PATH").getD defaults.grammarPath
    mockMode := env.flag "MOCK_MODE" defaults.mockMode
    clickHouse := {
      host := env.value? "CLICKHOUSE_HOST"
      portNumber := portNumber.filter (· ≠ 0)
      user := env.value? "CLICKHOUSE_USER"
      password := env.value? "CLICKHOUSE_PASSWORD"
      database := env.value? "CLICKHOUSE_DATABASE"
      secure := env.flag "CLICKHOUSE_SECURE" defaults.clickHouse.secure
      caCert := env.value? "CLICKHOUSE_CA_CERT"
      timeoutSeconds := databaseTimeout.getD defaults.clickHouse.timeoutSeconds
    }
    logLevel := ((env.value? "LOG_LEVEL").map Text.lowercase).getD defaults.logLevel
    bindAddress := (env.value? "BIND_ADDR").getD defaults.bindAddress
    chatTimeoutSeconds := chatTimeout.getD defaults.chatTimeoutSeconds
  }

/-- The paths of the files that the settings name. -/
def paths (settings : Settings) : List Text :=
  settings.grammarPath :: settings.clickHouse.caCert.toList

/-- Do questions go to the chat model? They do when mock mode is off and there is a key. -/
def modelEnabled (settings : Settings) : Bool := !settings.mockMode && settings.apiKey.isSome

end Settings

end AskTable
