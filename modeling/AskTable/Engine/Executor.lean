import AskTable.Dialogue
import AskTable.Engine.Sample
import AskTable.Error
import AskTable.Sql.Policy
/-!
# Running statements

An executor answers from the sample, or from an engine that is built when the first acceptable
statement comes. An engine that could not be built is tried again with the next statement; one that
was built is kept.

## Main definitions

* `EngineCall` - building an engine, and running a statement on it
* `Executor` - the sample, or an engine that may not be built yet
* `Executor.execute` - runs a statement; gives the rows and the executor afterwards

## Main results

* `Executor.execute_refused` - a statement against the policy makes no call
-/

namespace AskTable

/-- A call to the outside of an executor with engines of type `ε`. -/
inductive EngineCall (ε : Type) where
  | build
  | run (engine : ε) (sql : Sql.Statement)

/-- What a call gives. -/
abbrev EngineCall.Reply {ε : Type} : EngineCall ε → Type
  | .build => Except Error ε
  | .run _ _ => Except Error ResultSet

/-- Where statements are run. -/
inductive Executor (ε : Type) where
  /-- the built-in sample answers -/
  | simulated
  /-- an engine answers, built at the first use -/
  | real (engine : Option ε)
deriving Repr

namespace Executor

variable {ε : Type}

/-- Does the sample answer? -/
def isSimulated : Executor ε → Bool
  | .simulated => true
  | .real _ => false

/-- The executor that settings ask for: the sample in mock mode. -/
def forMode (mockMode : Bool) : Executor ε := if mockMode then .simulated else .real none

/-- A dialogue of an executor. -/
abbrev Run (ε α : Type) : Type := Dialogue (EngineCall ε) EngineCall.Reply α

/-- Gives the engine that is there, or builds one. -/
def obtain : Option ε → Run ε (Except Error ε)
  | some engine => .done (.ok engine)
  | none => .ask .build .done

/-- Runs a statement. A real engine gets only statements that satisfy the standard policy. -/
def execute (executor : Executor ε) (sql : Sql.Statement) :
    Run ε (Except Error ResultSet × Executor ε) :=
  match executor with
  | .simulated => .done (.ok (Sample.respond sql.text), .simulated)
  | .real engine? =>
    match Sql.Policy.standard.check sql.text with
    | .error v => .done (.error (.sqlPolicy v.message), .real engine?)
    | .ok () => do
      match ← obtain engine? with
      | .error e => return (.error e, .real none)
      | .ok engine =>
        let rows ← Dialogue.call (.run engine sql)
        return (rows, .real (some engine))

theorem execute_refused {engine? : Option ε} {sql : Sql.Statement} {v : Sql.Violation}
    (h : Sql.Policy.standard.check sql.text = .error v) :
    (Executor.real engine?).execute sql =
      .done (.error (.sqlPolicy v.message), .real engine?) := by
  simp [execute, h]

end Executor

end AskTable
