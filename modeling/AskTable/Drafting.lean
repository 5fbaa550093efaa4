import AskTable.Chat
import AskTable.Files
import AskTable.Intent.Rule
import AskTable.Prompt
import AskTable.Sql.Policy
/-!
# Drafting statements

A drafter proposes a statement for a question: by the rules alone, or by asking the chat model. What
the model says must satisfy the strict policy. When the model tells of an exhausted quota there is
no draft; when it fails in any other way the rules step in.

## Main definitions

* `Draft` - a statement, and whether the rules wrote it
* `Drafter` - how statements are proposed
* `Drafter.ofSettings` - the drafter that settings ask for
* `Drafter.draft` - the dialogue with the chat model about a question
-/

namespace AskTable

/-- A proposed statement. It is heuristic when the rules wrote it. -/
structure Draft where
  sql : Sql.Statement
  heuristic : Bool
deriving Repr, DecidableEq

namespace Draft

/-- The draft of the rules. -/
def byRules (question : Text) : Draft := ⟨heuristicSql question, true⟩

/-- A draft as JSON. -/
def toJson (draft : Draft) : Json :=
  .obj [("sql", .str draft.sql.text), ("heuristic", .bool draft.heuristic)]

end Draft

/-- How statements are proposed. -/
inductive Drafter where
  /-- by the rules alone -/
  | rules
  /-- by the chat model, with a system prompt -/
  | model (system : Text)
deriving Repr, DecidableEq

namespace Drafter

/-- The drafter that asks the model to keep to a grammar. -/
def withGrammar (grammar : Text) : Drafter := .model (Prompt.system grammar)

/-- Does the drafter ask the model? -/
def usesModel : Drafter → Bool
  | .rules => false
  | .model _ => true

/-- The drafter that the settings ask for. With a model the grammar file must be there. -/
def ofSettings (files : Files) (settings : Settings) : Except Error Drafter :=
  if settings.modelEnabled then
    match files.readText settings.grammarPath with
    | .ok grammar => .ok (withGrammar grammar)
    | .error e =>
      .error (.config
        ("Failed to read grammar file " ++ settings.grammarPath ++ ": " ++ e.message))
  else .ok .rules

/-- The draft that follows from what the model says. -/
def judge (question : Text) : ChatReply → Except Error Draft
  | .ok answer =>
    match Sql.Policy.strict.sanitize answer with
    | .ok sql => .ok ⟨sql, false⟩
    | .error v => .error (.sqlPolicy v.message)
  | .error e =>
    if e.isQuotaExceeded then .error (.quotaExceeded e.message) else .ok (Draft.byRules question)

/-- Drafts a statement for a question, with at most one call to the model. -/
def draft (drafter : Drafter) (question : Text) :
    Dialogue ChatCall (fun _ => ChatReply) (Except Error Draft) :=
  match drafter with
  | .rules => .done (.ok (Draft.byRules question))
  | .model system => .ask ⟨system, question⟩ fun reply => .done (judge question reply)

end Drafter

end AskTable
