import AskTable.Api.App
import AskTable.Api.Response
/-!
# Questions

A question becomes a statement, which is run. The answer has the statement and the rows, and says
whether it is mocked: in mock mode, and whenever the rules wrote the statement.

## Main definitions

* `Api.Answer` - what a question gets
* `Api.Question.readText` - the question of a body
* `Api.Question.resolve` - the dialogue about a question
* `Api.Question.answer` - the dialogue about a body
-/

namespace AskTable.Api

/-- What a question gets. -/
structure Answer where
  sql : Sql.Statement
  rows : ResultSet
  mocked : Bool
  warning : Option Text
deriving Repr

/-- An answer as JSON. Without a warning there is no such member. -/
def Answer.toJson (answer : Answer) : Json :=
  let fields : Fields := [("sql", .str answer.sql.text), ("rows", answer.rows.toJson),
    ("mocked", .bool answer.mocked)]
  match answer.warning with
  | some warning => .obj (fields.insert "warning" (.str warning))
  | none => .obj fields

namespace Question

/-- The least and the greatest length of a question. -/
def lengths : Nat × Nat := (3, 500)

/-- The shape of a body. -/
def shape : Json.Schema := .record "NlQueryRequest" [("question", .text)]

/-- The question of a body. -/
def readText (body : Text) : Except Error Text :=
  match shape.parse body with
  | .ok value => .ok (((value.member? "question").bind Json.text?).getD [])
  | .error e => .error (.json e)

/-- A body that holds a question. -/
def writeText (question : Text) : Text := Json.print (.obj [("question", .str question)])

/-- What an answer in mock mode warns of. -/
def mockWarning : Text := "Mock mode enabled: using heuristic translation + sample data"

/-- The refusal when there is no draft. -/
def draftRefusal : Error → Refusal
  | .quotaExceeded detail => .serviceUnavailable ("LLM quota exceeded: " ++ detail)
  | .sqlPolicy reason => .badRequest ("Generated SQL not allowed: " ++ reason)
  | e => .internal ("Translation failed: " ++ e.message)

/-- The refusal when a statement that begins like none of the allowed ones was drafted. -/
def notSelect : Refusal := .badRequest "Generated SQL not allowed (must be SELECT)"

/-- The refusal when the statement could not be run. -/
def executionRefusal : Error → Refusal
  | .sqlPolicy reason => .badRequest ("Safety check failed: " ++ reason)
  | .execution detail => .internal ("Execution failed: " ++ detail)
  | e => .internal ("Execution failed: " ++ e.message)

variable {ε : Type}

/-- The answer with the rows of a draft. -/
def answerOf (settings : Settings) (draft : Draft) (rows : ResultSet) : Answer where
  sql := draft.sql
  rows := rows
  mocked := settings.mockMode || draft.heuristic
  warning := if settings.mockMode then some mockWarning else none

/-- Runs a draft. -/
def runDraft (app : App ε) (draft : Draft) : App.Run ε (Except Refusal Answer × App ε) :=
  if draft.sql.isSelect then do
    let (result, executor) ← App.withEngine (app.executor.execute draft.sql)
    let app := { app with executor }
    match result with
    | .ok rows => return (.ok (answerOf app.settings draft rows), app)
    | .error e => return (.error (executionRefusal e), app)
  else .done (.error notSelect, app)

/-- The dialogue about a question. -/
def resolve (app : App ε) (question : Text) : App.Run ε (Except Refusal Answer × App ε) := do
  match ← App.withChat (app.drafter.draft question) with
  | .ok draft => runDraft app draft
  | .error e => return (.error (draftRefusal e), app)

/-- The dialogue about a body. -/
def answer (app : App ε) (body : Text) : App.Run ε (Except Refusal Answer × App ε) :=
  match readText body with
  | .error e => .done (.error (.ofError e), app)
  | .ok question =>
    match checkLength "question" question lengths.1 lengths.2 with
    | .error e => .done (.error (.ofError e), app)
    | .ok () => resolve app question

end Question

end AskTable.Api
