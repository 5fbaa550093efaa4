import AskTable.Bootstrap
import AskTable.Cli.Args
import AskTable.Cli.Startup
import AskTable.Evals.Report
/-!
# Running commands

A command is an exchange over the wire that ends with an outcome. Settings are read before the
arguments, so that an error in them comes first. An evaluation takes its patterns from a library.

## Main definitions

* `Cli.Context` - what a command can see
* `Cli.Command.run` - the exchange of a command
* `Cli.run` - the exchange of a command line
-/

namespace AskTable.Cli

/-- What a command can see: the environment, the files and the time. -/
structure Context where
  env : Environment
  files : Files
  now : Text

/-- The name of the program, under which it writes to the log. -/
def programName : Text := "cfg_evals"

/-- What the program says of its version. -/
def versionLine : Text := programName ++ " 0.1.0\n"

/-- What the program says of its use. -/
def usage : Text :=
  "Usage: " ++ programName ++ " <COMMAND>\n\nCommands:\n  translate QUESTION\n  ask QUESTION\n"
    ++ "  bootstrap\n  eval [DATASET]\n"

/-- The text as a line. -/
def line (t : Text) : Text := t ++ "\n"

variable {π : Type}

namespace Command

/-- An answer of the application over the wire. -/
def overWire {α : Type} (context : Context) (settings : Settings)
    (dialogue : App.Run ClickHouse α) : Wire.Exchange α :=
  dialogue.interpret (App.overWire context.files settings)

/-- Drafts a statement and shows it. -/
def runDraft (context : Context) (settings : Settings) (question : Text) : Wire.Exchange Outcome :=
  match Drafter.ofSettings context.files settings with
  | .error e => .done (.ofError e)
  | .ok drafter => do
    match ← overWire context settings (App.withChat (drafter.draft question)) with
    | .error e => return .ofError e
    | .ok drafted =>
      let heuristic : Text := if drafted.heuristic then "true" else "false"
      return {
        stdout := line drafted.sql.text
        log := [{ level := .info, message := "Translated", values := [("heuristic", heuristic)] }] }

/-- What is shown of a response. -/
def showResponse (response : Api.Response) : Outcome :=
  let shown : Text := ((response.value?).map Json.pretty).getD response.body
  let outcome : Outcome :=
    if response.status = 200 then {}
    else .failed ("request failed with status " ++ Text.ofNat response.status)
  { outcome with stdout := line shown }

/-- Answers a question. -/
def runAsk (context : Context) (settings : Settings) (question : Text) : Wire.Exchange Outcome :=
  match App.ofSettings context.files settings with
  | .error e => .done (.ofError e)
  | .ok app => do
    let (response, _) ← overWire context settings
      (Api.route app "POST" "/nl-query" (Api.Question.writeText question))
    return showResponse response

/-- The database settings with the values of a local server where nothing is set. -/
def localDefaults (settings : ClickHouseSettings) : ClickHouseSettings :=
  { settings with
    host := settings.host.or (some "localhost")
    portNumber := settings.portNumber.or (some 8123)
    database := settings.database.or (some "default") }

/-- How an outcome of preparing the table is named in the log. -/
def outcomeName : Bootstrap.Outcome → Text
  | .seeded => "Seeded"
  | .alreadyPopulated rows => "AlreadyPopulated(" ++ Text.ofNat rows ++ ")"

/-- Prepares the table. -/
def runBootstrap (context : Context) (settings : Settings) : Wire.Exchange Outcome :=
  match ClickHouse.connect context.files (localDefaults settings.clickHouse) with
  | .error e => .done (.ofError e)
  | .ok engine => do
    match ← Bootstrap.run engine with
    | .error e => return .ofError e
    | .ok outcome =>
      return {
        log := [{ level := .info, message := "Bootstrap complete.",
                  values := [("outcome", outcomeName outcome)] }] }

/-- Evaluates the cases of a file. The cases are read before the application is made. -/
def runEvals (matcher : Evals.Matcher π) (context : Context) (settings : Settings) (path : Text) :
    Wire.Exchange Outcome :=
  match context.files.readText path >>= Evals.readCases with
  | .error e => .done (.ofError e)
  | .ok cases =>
    match App.ofSettings context.files settings with
    | .error e => .done (.ofError e)
    | .ok app => do
      match ← overWire context settings (Evals.run matcher app cases) with
      | (.error e, _) => return .ofError e
      | (.ok report, _) =>
        return {
          stdout := line (report.toJson context.now).pretty
          exit := if report.allPassed then 0 else 1 }

/-- The exchange of a command. -/
def run (matcher : Evals.Matcher π) (context : Context) (settings : Settings) :
    Command → Wire.Exchange Outcome
  | .draft question => runDraft context settings question
  | .ask question => runAsk context settings question
  | .bootstrap => runBootstrap context settings
  | .evaluate path => runEvals matcher context settings path

end Command

/-- The exchange of an invocation. -/
def Invocation.run (matcher : Evals.Matcher π) (context : Context) (settings : Settings) :
    Invocation → Wire.Exchange Outcome
  | .command c => c.run matcher context settings
  | .help => .done { stdout := usage }
  | .version => .done { stdout := versionLine }
  | .misuse => .done { exit := 2 }

/-- The exchange of a command line. -/
def run (matcher : Evals.Matcher π) (context : Context) (args : List Text) :
    Wire.Exchange Outcome :=
  match Settings.ofEnvironment (EnvFile.load context.files context.env) with
  | .error e => .done (.ofError e)
  | .ok settings => do
    let outcome ← (Invocation.ofArgs args).run matcher context settings
    return outcome.logged settings programName

end AskTable.Cli
