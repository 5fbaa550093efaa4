import AskTable.Api.App
import AskTable.EnvFile
import AskTable.Log
/-!
# Starting the server

## Main definitions

* `Cli.Outcome` - what a run of a program shows
* `Cli.Startup` - what happens before the server listens
* `Cli.Startup.ofEnvironment` - the startup in an environment
* `Cli.Startup.unbound` - the outcome when the address cannot be had
-/

namespace AskTable.Cli

/-- What a run of a program shows: what it prints, the error it ends with, its exit status, and
entries of the log. -/
structure Outcome where
  stdout : Text := []
  error : Option Text := none
  exit : Nat := 0
  log : List Log.Entry := []
deriving Repr

namespace Outcome

/-- A run that ends with an error. -/
def failed (detail : Text) : Outcome := { error := some detail, exit := 1 }

/-- A run that ends with an error of the library. -/
def ofError (e : Error) : Outcome := failed e.message

/-- The outcome with the wanted entries of the log only. -/
def logged (outcome : Outcome) (settings : Settings) (source : Text) : Outcome :=
  let filter := (Log.readFilter? settings.logLevel).getD Log.defaultFilter
  { outcome with log := outcome.log.filter (filter.admits source) }

end Outcome

/-- What happens before the server listens. -/
structure Startup where
  settings : Settings
  log : List Log.Entry
  /-- the application, if it could be made -/
  app : Except Error (App ClickHouse)

namespace Startup

/-- The name under which the server writes to the log. -/
def source : Text := "server"

/-- What is told of the settings. -/
def announcement (settings : Settings) : Log.Entry :=
  if settings.mockMode then
    { level := .info, message := "Mock mode enabled - heuristic translation + sample data" }
  else if settings.apiKey.isSome then
    { level := .info
      message := "OpenAI API key found - LLM translation enabled"
      values := [("model", settings.model)] }
  else
    { level := .warn
      message := "OpenAI API key not found - will use heuristic translation" }

/-- The startup with the given settings. -/
def ofSettings (files : Files) (settings : Settings) : Startup :=
  ⟨settings, [announcement settings], App.ofSettings files settings⟩

/-- The startup in an environment. -/
def ofEnvironment (files : Files) (env : Environment) : Except Error Startup :=
  (Settings.ofEnvironment (EnvFile.load files env)).map (ofSettings files)

/-- The outcome when the address of the settings cannot be had. -/
def unbound (startup : Startup) : Outcome :=
  let outcome : Outcome :=
    match startup.app with
    | .ok _ => .failed ("failed to bind " ++ startup.settings.bindAddress)
    | .error e => .ofError e
  { outcome with log := startup.log }.logged startup.settings source

end Startup

end AskTable.Cli
