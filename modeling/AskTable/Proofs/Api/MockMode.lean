import AskTable.Proofs.Api.Question
import AskTable.Proofs.Engine.Sample
/-!
# Mock mode

In mock mode a question is answered by the rules and the sample alone. No call is made, so the
response is a function of the body: a refusal if the body holds no question of an acceptable length,
and otherwise the statement of its intent with the rows that the sample has for this intent.

## Main definitions

* `Api.mockAnswer` - the answer to a question in mock mode

## Main results

* `Api.route_mockMode` - every request with a question or another body in mock mode
-/

namespace AskTable.Api

variable {ε : Type} {files : Files} {settings : Settings}

/-- The answer to a question in mock mode. -/
def mockAnswer (question : Text) : Answer where
  sql := heuristicSql question
  rows := (classify question).sampleRows
  mocked := true
  warning := some "Mock mode enabled: using heuristic translation + sample data"

/-- In mock mode an application is always made, whatever else the settings say. -/
theorem ofSettings_mockMode (files : Files) (hmock : settings.mockMode = true) :
    App.ofSettings files settings = .ok (⟨settings, .rules, .simulated⟩ : App ε) := by
  have hrules : Drafter.ofSettings files settings = .ok .rules := by
    rw [Drafter.ofSettings, if_neg]
    simp [Settings.modelEnabled, hmock]
  rw [App.ofSettings, hrules, hmock]
  rfl

/-- In mock mode a question is resolved without a call. -/
theorem resolve_mockMode (hmock : settings.mockMode = true) (question : Text) :
    Question.resolve (⟨settings, .rules, .simulated⟩ : App ε) question =
      .done (.ok (mockAnswer question), ⟨settings, .rules, .simulated⟩) := by
  have hanswer : Question.answerOf settings (Draft.byRules question)
      (Sample.respond (heuristicSql question).text) = mockAnswer question := by
    have hrows : Sample.respond (heuristicSql question).text = (classify question).sampleRows :=
      Sample.respond_sqlText (classify question)
    rw [Question.answerOf, hmock, hrows]
    rfl
  have hselect : (Draft.byRules question).sql.isSelect = true := (classify question).isSelect_toSql
  -- The drafter and the executor are done at once, so only the check in between is left.
  change Question.runDraft ⟨settings, .rules, .simulated⟩ (Draft.byRules question) = _
  rw [Question.runDraft, if_pos hselect, ← hanswer]
  rfl

/-- Every request to the page of questions in mock mode. A body that is rejected gets a refusal of
status 422, and every other body the answer to its question, whatever the question says: the
statement of the rules, the rows of its intent, and the warning. -/
theorem route_mockMode (files : Files) (hmock : settings.mockMode = true) :
    ∃ app : App ε, App.ofSettings files settings = .ok app ∧
      ∀ path body, Page.ofPath? path = some .question →
        (∀ refusal, Question.Rejects body refusal →
          route app "POST" path body = .done (.json 422 refusal.toJson, app)) ∧
        (∀ question, Question.Accepts body question →
          route app "POST" path body = .done (.json 200 (.obj [
            ("sql", .str (heuristicSql question).text),
            ("rows", (classify question).sampleRows.toJson),
            ("mocked", .bool true),
            ("warning", .str "Mock mode enabled: using heuristic translation + sample data")]),
            app)) ∧
        ((∃ question, Question.Accepts body question) ∨
          ∃ refusal, Question.Rejects body refusal) := by
  refine ⟨_, ofSettings_mockMode files hmock, fun path body hpath => ⟨?_, ?_, ?_⟩⟩
  · intro refusal hrejects
    exact route_of_rejects hpath hrejects _
  · intro question haccepts
    rw [route_of_accepts hpath haccepts, resolve_mockMode hmock]
    rfl
  · exact Question.accepts_or_rejects body

/-- A question about balances, with the default settings and without files. -/
theorem route_mockMode_balance :
    ({} : Settings).mockMode = true ∧
    ∃ app : App Unit, App.ofSettings (fun _ => .error .missing) {} = .ok app ∧
      route app "POST" "/nl-query/" (Question.writeText "Total balance of the last 7 days") =
        .done (.json 200 (.obj [
          ("sql", .str (heuristicSql "Total balance of the last 7 days").text),
          ("rows", (classify "Total balance of the last 7 days").sampleRows.toJson),
          ("mocked", .bool true),
          ("warning", .str "Mock mode enabled: using heuristic translation + sample data")]),
          app) ∧
      (heuristicSql "Total balance of the last 7 days").text =
        "SELECT sum(balance) FROM default.MOCK_DATA WHERE signup_date >= subtractDays(now(), 7)" ∧
      (classify "Total balance of the last 7 days").sampleRows.toJson.print =
        "[\x7b\"sum\":4750.0\x7d]" := by
  have hpath : Page.ofPath? "/nl-query/" = some .question := by decide
  have haccepts : Question.Accepts (Question.writeText "Total balance of the last 7 days")
      "Total balance of the last 7 days" := ⟨rfl, by decide, by decide⟩
  obtain ⟨app, happ, hroute⟩ := @route_mockMode Unit {} (fun _ => .error .missing) rfl
  exact ⟨rfl, app, happ, (hroute _ _ hpath).2.1 _ haccepts, by decide +kernel, by decide +kernel⟩

end AskTable.Api
