import AskTable.Api.Route
import AskTable.Evals.Case
/-!
# Evaluating

The questions of the cases are asked one after another. A case passes when its question is answered,
the statement matches the pattern whatever the case of letters, and the rows are a list. Patterns
are those of a library, which is no part of this program. A pattern that the library does not
compile ends the evaluation.

## Main definitions

* `Evals.Verdict` - what a case came to
* `Evals.Report` - the verdicts, with `Report.passed` and `Report.allPassed`
* `Evals.Matcher` - a library of patterns
* `Evals.judge` - the verdict on a response
* `Evals.run` - the dialogue about cases
-/

namespace AskTable.Evals

/-- What a case came to. -/
inductive Verdict where
  /-- the question was refused, with this body -/
  | refused (body : Text)
  /-- the question was answered -/
  | answered (passed : Bool) (sql : Text) (rows : Option Json) (mocked : Option Bool)
deriving Repr

namespace Verdict

/-- Did the case pass? -/
def isPass : Verdict → Bool
  | .refused _ => false
  | .answered passed .. => passed

/-- The name of what a case came to. -/
def status : Verdict → Text
  | .refused _ => "error"
  | .answered true .. => "pass"
  | .answered false .. => "fail"

/-- What is told of a verdict. Values that are not there are left out. -/
def details : Verdict → Fields
  | .refused body => [("detail", .str body)]
  | .answered _ sql rows mocked =>
    ("sql", .str sql) :: ((rows.map fun value => (("rows" : Text), value)).toList
      ++ (mocked.map fun value => (("mocked" : Text), Json.bool value)).toList)

end Verdict

/-- A case by its name, with what it came to. -/
structure Result where
  id : Text
  verdict : Verdict
deriving Repr

/-- A result as JSON. -/
def Result.toJson (result : Result) : Json :=
  .obj (("id", .str result.id) :: ("status", .str result.verdict.status) :: result.verdict.details)

/-- The results of an evaluation, in the order of the cases. -/
structure Report where
  results : List Result
deriving Repr

namespace Report

/-- The number of cases. -/
def total (report : Report) : Nat := report.results.length

/-- The number of cases that passed. -/
def passed (report : Report) : Nat := report.results.countP (·.verdict.isPass)

/-- The number of the other cases. -/
def failed (report : Report) : Nat := report.total - report.passed

/-- Did all cases pass? -/
def allPassed (report : Report) : Bool := report.passed = report.total

/-- The numbers as JSON. -/
def summary (report : Report) : Json :=
  .obj [("total", .int report.total), ("passed", .int report.passed),
    ("failed", .int report.failed)]

/-- A report as JSON, with the time at which it was made. -/
def toJson (report : Report) (generatedAt : Text) : Json :=
  .obj [("generated_at", .str generatedAt), ("summary", report.summary),
    ("results", .arr (report.results.map Result.toJson))]

theorem passed_le_total (report : Report) : report.passed ≤ report.total := List.countP_le_length

theorem passed_add_failed (report : Report) : report.passed + report.failed = report.total := by
  have := report.passed_le_total
  simp only [failed]
  omega

end Report

/-- A library of patterns. A text is compiled to a pattern, in which the case of letters may be
ignored, or the library says what is wrong with it. -/
structure Matcher (π : Type) where
  compile : (ignoreCase : Bool) → Text → Except Text π
  isMatch : π → Text → Bool

variable {ε π : Type}

/-- The pattern of a case; the case of letters does not count in it. -/
def readPattern (matcher : Matcher π) (case : Case) : Except Error π :=
  match matcher.compile true case.pattern with
  | .ok pattern => .ok pattern
  | .error detail => .error (.config ("case " ++ case.id ++ ": invalid regex: " ++ detail))

/-- The verdict on a response. -/
def judge (matcher : Matcher π) (pattern : π) (response : Api.Response) : Except Error Verdict :=
  if response.status ≠ 200 then .ok (.refused response.body)
  else match Json.parse response.body with
    | .error e => .error (.json e)
    | .ok value =>
      let sql := ((value.member? "sql").bind Json.text?).getD []
      let rows := value.member? "rows"
      let passed := matcher.isMatch pattern sql && rows.any Json.isArray
      .ok (.answered passed sql rows ((value.member? "mocked").bind Json.bool?))

/-- The dialogue about one case. -/
def runCase (matcher : Matcher π) (app : App ε) (case : Case) :
    App.Run ε (Except Error Result × App ε) :=
  match readPattern matcher case with
  | .error e => .done (.error e, app)
  | .ok pattern => do
    let (response, app) ← Api.route app "POST" "/nl-query" (Api.Question.writeText case.question)
    return ((judge matcher pattern response).map (⟨case.id, ·⟩), app)

/-- The results of cases, one after another. The first error ends them. -/
def runCases (matcher : Matcher π) (app : App ε) :
    List Case → App.Run ε (Except Error (List Result) × App ε)
  | [] => .done (.ok [], app)
  | case :: cases => do
    match ← runCase matcher app case with
    | (.error e, app) => return (.error e, app)
    | (.ok result, app) =>
      let (rest, app) ← runCases matcher app cases
      return (rest.map (result :: ·), app)

/-- The dialogue about cases. -/
def run (matcher : Matcher π) (app : App ε) (cases : List Case) :
    App.Run ε (Except Error Report × App ε) := do
  let (results, app) ← runCases matcher app cases
  return (results.map Report.mk, app)

end AskTable.Evals
