import AskTable.Cli.Command
import Std.Time.Format
/-!
# The program

This is the outer layer: it reads the environment, the files and the clock, runs the exchange of the
command line, and shows the outcome. It has no network, so that no request gets an answer and no
address can be listened at, and no library of patterns, so that no pattern can be compiled.
-/

namespace AskTable.Main

/-- Reads a file. -/
def readFile (path : Text) : IO (Except FileFault Bytes) := do
  try
    let content ← IO.FS.readBinFile (String.ofList path)
    return .ok content.toList
  catch
    | .noFileOrDirectory .. => return .error .missing
    | e => return .error (.other e.toString.toList)

/-- Reads the files at some paths. -/
def readFiles (paths : List Text) : IO Files := do
  let contents ← paths.mapM readFile
  let table := paths.zip contents
  return fun path => (table.lookup path).getD (.error .missing)

/-- Reads the values of some names. -/
def readEnvironment (names : List Text) : IO Environment := do
  let values ← names.mapM fun name => do
    let value ← IO.getEnv (String.ofList name)
    return value.map String.toList
  let table := names.zip values
  return fun name => (table.lookup name).join

/-- The present time. -/
def now : IO Text := do
  let timestamp ← Std.Time.Timestamp.now
  let utc := Std.Time.DateTime.ofTimestampWithZone timestamp Std.Time.TimeZone.UTC
  return utc.toISO8601String.toList

/-- Reads what a command line can see. -/
def readContext (args : List Text) : IO Cli.Context := do
  let definitions ← readFiles [EnvFile.path]
  let mentioned := ((definitions.readText EnvFile.path).toOption.map EnvFile.mentionable).getD []
  let env ← readEnvironment (Settings.names ++ mentioned)
  let named := match Settings.ofEnvironment (EnvFile.load definitions env) with
    | .ok settings => settings.paths
    | .error _ => []
  let files ← readFiles (EnvFile.path :: (Cli.Invocation.ofArgs args).paths ++ named)
  return ⟨env, files, ← now⟩

/-- The reply to every request. -/
def reply (_ : Wire.Request) : IO Wire.Reply := return .unreachable "there is no network"

/-- The library of patterns. -/
def matcher : Evals.Matcher Empty where
  compile _ _ := .error "there is no library of patterns"
  isMatch pattern _ := pattern.elim

/-- Shows an outcome and gives its exit status. -/
def report (outcome : Cli.Outcome) : IO UInt32 := do
  let stdout ← IO.getStdout
  let stderr ← IO.getStderr
  stdout.putStr (String.ofList outcome.stdout)
  for entry in outcome.log do
    stderr.putStrLn (String.ofList entry.text)
  if let some detail := outcome.error then
    stderr.putStrLn ("Error: " ++ String.ofList detail)
  return UInt32.ofNat outcome.exit

/-- Starts the server. -/
def startServer (context : Cli.Context) : Cli.Outcome :=
  match Cli.Startup.ofEnvironment context.files context.env with
  | .ok startup => startup.unbound
  | .error e => .ofError e

end AskTable.Main

/-- Runs the command line, or starts the server if the program has that name. -/
def main (args : List String) : IO UInt32 := do
  let args := args.map String.toList
  let context ← AskTable.Main.readContext args
  if (← IO.appPath).fileName = some "server" then
    AskTable.Main.report (AskTable.Main.startServer context)
  else
    AskTable.Main.report (← (AskTable.Cli.run AskTable.Main.matcher context args).run
      AskTable.Main.reply)
