import AskTable.Text.Basic
/-!
# Command lines

## Main definitions

* `Cli.Command` - what the program can do
* `Cli.Invocation` - what a command line asks for
* `Cli.Invocation.ofArgs` - the reading of the arguments
-/

namespace AskTable.Cli

/-- What the program can do. -/
inductive Command where
  /-- draft a statement for a question, and show it -/
  | draft (question : Text)
  /-- answer a question -/
  | ask (question : Text)
  /-- prepare the table -/
  | bootstrap
  /-- evaluate the cases of a file -/
  | evaluate (path : Text)
deriving Repr, DecidableEq

/-- What a command line asks for. -/
inductive Invocation where
  | command (command : Command)
  | help
  | version
  | misuse
deriving Repr, DecidableEq

/-- The file of cases when none is named. -/
def defaultDataset : Text := "evals/dataset.jsonl"

/-- The operands after a command. -/
inductive Operands where
  | given (operands : List Text)
  | help
  | misuse
deriving Repr, DecidableEq

namespace Operands

/-- One more operand in front. -/
def cons (operand : Text) : Operands → Operands
  | .given operands => .given (operand :: operands)
  | other => other

/-- Does the argument ask for help? -/
def asksHelp (arg : Text) : Bool := arg = "--help" || Text.beginsWith arg "-h"

/-- The operands among arguments, of which there may be at most `most`. Two dashes end the options,
of which there is only the one for help; one dash is an operand. -/
def ofArgs : (most : Nat) → List Text → Operands
  | _, [] => .given []
  | most, arg :: args =>
    if arg = "--" then if args.length ≤ most then .given args else .misuse
    else if Text.beginsWith arg "-" && arg ≠ "-" then if asksHelp arg then .help else .misuse
    else match most with
      | 0 => .misuse
      | most + 1 => (ofArgs most args).cons arg

end Operands

namespace Invocation

/-- The names of the commands. -/
def commandNames : List Text := ["translate", "ask", "bootstrap", "eval", "help"]

/-- The command with the given name and operands, if they fit. -/
def ofOperands? (name : Text) (operands : List Text) : Option Command :=
  match operands with
  | [] =>
    if name = "bootstrap" then some .bootstrap
    else if name = "eval" then some (.evaluate defaultDataset)
    else none
  | operand :: _ =>
    if name = "translate" then some (.draft operand)
    else if name = "ask" then some (.ask operand)
    else if name = "eval" && !operand.isEmpty then some (.evaluate operand)
    else none

/-- What a command and the arguments after it ask for. -/
def ofCommand (name : Text) (args : List Text) : Invocation :=
  if !commandNames.contains name then .misuse
  else if name = "help" then
    match args with
    | [] => .help
    | [topic] => if commandNames.contains topic then .help else .misuse
    | _ => .misuse
  else match Operands.ofArgs (if name = "bootstrap" then 0 else 1) args with
    | .help => .help
    | .misuse => .misuse
    | .given operands => ((ofOperands? name operands).map .command).getD .misuse

/-- What the arguments ask for. -/
def ofArgs : List Text → Invocation
  | [] => .misuse
  | arg :: args =>
    if arg = "--version" || Text.beginsWith arg "-V" then .version
    else if Operands.asksHelp arg then .help
    else ofCommand arg args

/-- The paths of the files that an invocation names. -/
def paths : Invocation → List Text
  | .command (.evaluate path) => [path]
  | _ => []

end Invocation

end AskTable.Cli
