import AskTable.Json.Schema
import AskTable.Error
import AskTable.Text.Blank
/-!
# Evaluation cases

A case is a question with a pattern that the statement for it should match. Cases are written one to
a line; blank lines do not count.

## Main definitions

* `Evals.Case` - a case
* `Evals.readCases` - the cases of a text
-/

namespace AskTable.Evals

/-- A question with the pattern that its statement should match. -/
structure Case where
  id : Text
  question : Text
  pattern : Text
deriving Repr, DecidableEq

namespace Case

/-- The shape of a case. -/
def shape : Json.Schema :=
  .record "EvalCase" [("id", .text), ("question", .text), ("expect_sql_regex", .text)]

/-- The case that a value of that shape is. -/
def ofJson (value : Json) : Case :=
  let text (key : Text) : Text := ((value.member? key).bind Json.text?).getD []
  ⟨text "id", text "question", text "expect_sql_regex"⟩

/-- The case that a line writes. -/
def read (line : Text) : Except Error Case :=
  match shape.parse line with
  | .ok value => .ok (ofJson value)
  | .error e => .error (.json e)

end Case

/-- The lines of a text that are not blank. -/
def caseLines (t : Text) : List Text := (Text.lines t).filter (!Text.isBlankOnly ·)

/-- The cases of a text, or what is wrong with the first line that is no case. -/
def readCases (t : Text) : Except Error (List Case) := (caseLines t).mapM Case.read

end AskTable.Evals
