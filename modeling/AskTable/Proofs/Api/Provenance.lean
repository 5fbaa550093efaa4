import AskTable.Proofs.Api.Outcome
import AskTable.Proofs.Api.Session
/-!
# Where answers come from

The settings are read when the drafter is made, when the executor is made, and again for every
answer, and these readings agree. An answer has a warning exactly when its rows are from the sample.
Where it is mocked the rules have written its statement; otherwise the model has written it in reply
to the same request, and an engine has run it.

## Main definitions

* `App.SameMode` - what a request leaves as it is
* `App.IsFor` - an application in the mode that settings ask for
* `Api.Answered` - what an answer is made of
* `Api.Served.FromSample`, `Api.Served.FromEngine` - where the rows of an answer come from
* `Api.Served.FromModel` - where the statement of an answer comes from
* `Api.Served.IsLabelled` - the labels of an answer are true

## Main results

* `App.isFor_of_ofSettings` - the parts of an application are all in the mode of its settings
* `Api.answered_of_trace` - one request does not change the mode, and its answer has its parts
* `Api.Served.isLabelled_of_answered` - the labels of such an answer are true
* `Api.session_isLabelled` - they are true in every session of an application that settings make
-/

namespace AskTable

open Dialogue (Trace trace_done_iff trace_done_prod_iff trace_ask_iff trace_bind_iff)

variable {ε : Type}

/-! ## Modes -/

/-- The drafter that settings make asks the model when they ask for that. -/
theorem Drafter.usesModel_of_ofSettings {files : Files} {settings : Settings} {drafter : Drafter}
    (h : ofSettings files settings = .ok drafter) : drafter.usesModel = settings.modelEnabled := by
  unfold ofSettings at h
  split at h
  · rename_i henabled
    split at h
    · obtain rfl := Except.ok.inj h
      exact henabled.symm
    · cases h
  · rename_i hdisabled
    obtain rfl := Except.ok.inj h
    exact (Bool.eq_false_iff.mpr hdisabled).symm

namespace App

/-- The settings and the drafter are the same, and the sample answers for both or for none. -/
structure SameMode (app next : App ε) : Prop where
  settings_eq : next.settings = app.settings
  drafter_eq : next.drafter = app.drafter
  isSimulated_eq : next.executor.isSimulated = app.executor.isSimulated

theorem SameMode.refl (app : App ε) : SameMode app app := ⟨rfl, rfl, rfl⟩

/-- The application is in the mode that the settings ask for. -/
structure IsFor (settings : Settings) (app : App ε) : Prop where
  settings_eq : app.settings = settings
  usesModel_iff : app.drafter.usesModel = true ↔
    settings.mockMode = false ∧ settings.apiKey.isSome = true
  isSimulated_iff : app.executor.isSimulated = true ↔ settings.mockMode = true

variable {files : Files} {settings : Settings} {app next : App ε}

theorem IsFor.of_sameMode (h : IsFor settings app) (hmode : SameMode app next) :
    IsFor settings next where
  settings_eq := hmode.settings_eq.trans h.settings_eq
  usesModel_iff := by rw [hmode.drafter_eq, h.usesModel_iff]
  isSimulated_iff := by rw [hmode.isSimulated_eq, h.isSimulated_iff]

/-- An application that settings make is in the mode that they ask for. -/
theorem isFor_of_ofSettings (h : ofSettings files settings = .ok app) : IsFor settings app := by
  unfold ofSettings at h
  cases hdrafter : Drafter.ofSettings files settings with
  | error e =>
    rw [hdrafter] at h
    cases h
  | ok drafter =>
    rw [hdrafter] at h
    obtain rfl := Except.ok.inj h
    refine ⟨rfl, ?_, ?_⟩
    · rw [Drafter.usesModel_of_ofSettings hdrafter, Settings.modelEnabled]
      simp
    · cases hmode : settings.mockMode <;> simp [Executor.forMode, Executor.isSimulated]

end App

/-! ## Answers -/

namespace Api

variable {question : Text} {settings : Settings} {drafter : Drafter} {app next : App ε}
  {draft : Draft} {events : List (App.Event ε)} {answer : Answer}

/-- An answer is made of a draft and of rows that the executor has for it. -/
inductive Answered (app : App ε) (question : Text) : List (App.Event ε) → Answer → Prop
  | intro {draft : Draft} {chats : List App.ChatEvent} {engines : List (App.EngineEvent ε)}
      {rows : ResultSet} {after : Executor ε}
      (hdraft : Trace (app.drafter.draft question) chats (.ok draft))
      (hrows : Executor.Executes draft.sql app.executor engines (.ok rows) after) :
      Answered app question (chats.map App.Event.ofChat ++ engines.map App.Event.ofEngine)
        (Question.answerOf app.settings draft rows)

/-- A question does not change the mode, and an answer to it is made of a draft and rows. -/
theorem answered_of_trace_resolve {result : Except Refusal Answer}
    (h : Trace (Question.resolve app question) events (result, next)) :
    app.SameMode next ∧ ∀ answer, result = .ok answer → Answered app question events answer := by
  obtain ⟨before, later, outcome, rfl, hdraft, hlater⟩ := trace_bind_iff.mp h
  obtain ⟨chats, rfl, hchats⟩ := App.trace_withChat_iff.mp hdraft
  cases outcome with
  | error e =>
    obtain ⟨rfl, rfl, rfl⟩ := trace_done_prod_iff.mp hlater
    exact ⟨.refl _, nofun⟩
  | ok draft =>
    rcases trace_runDraft_cases hlater with
      ⟨rfl, rfl, rfl⟩ | ⟨engines, rows, executor, rfl, rfl, hexecutes, rfl⟩
    · exact ⟨.refl _, nofun⟩
    · refine ⟨⟨rfl, rfl, hexecutes.isSimulated_eq⟩, fun answer hanswer => ?_⟩
      cases rows with
      | ok rows =>
        rw [← Except.ok.inj hanswer]
        exact .intro hchats hexecutes
      | error e => cases hanswer

/-- A request does not change the mode, and where it gets an answer to a question, this is made of a
draft and rows. -/
theorem answered_of_trace {method path body : Text} {response : Response}
    (h : Trace (route app method path body) events (response, next)) :
    app.SameMode next ∧ (Page.ofPath? path = some .question → response.status = 200 →
      ∃ question answer, Question.Accepts body question ∧ response = .json 200 answer.toJson ∧
        Answered app question events answer) := by
  rcases route_cases app method path body with
    ⟨rfl, hpath, question, haccepts⟩ | ⟨_, hroute, hstatus, -⟩
  · rw [route_of_accepts hpath haccepts] at h
    obtain ⟨before, later, ⟨result, left⟩, rfl, hresolve, hlater⟩ := trace_bind_iff.mp h
    obtain ⟨rfl, rfl, rfl⟩ := trace_done_prod_iff.mp hlater
    obtain ⟨hmode, hanswered⟩ := answered_of_trace_resolve hresolve
    refine ⟨hmode, fun _ hok => ?_⟩
    rw [List.append_nil]
    cases result with
    | ok answer => exact ⟨question, answer, haccepts, rfl, hanswered answer rfl⟩
    | error refusal => exact absurd hok refusal.status_ne
  · rw [hroute] at h
    obtain ⟨rfl, rfl, rfl⟩ := trace_done_prod_iff.mp h
    exact ⟨.refl _, fun hpath hok => absurd hok (hstatus hpath)⟩

/-! ## Labels -/

/-- A heuristic draft is of the rules, and any other one is what the model replied, sanitized. -/
theorem draft_cases {chats : List App.ChatEvent}
    (h : Trace (drafter.draft question) chats (.ok draft)) :
    (draft.heuristic = true ∧ draft.sql = heuristicSql question) ∨
      (draft.heuristic = false ∧ drafter.usesModel = true ∧
        ∃ system text, ⟨⟨system, question⟩, .ok text⟩ ∈ chats ∧
          Sql.Policy.strict.sanitize text = .ok draft.sql) := by
  cases drafter with
  | rules =>
    obtain ⟨-, hdraft⟩ := trace_done_iff.mp h
    obtain rfl := Except.ok.inj hdraft
    exact Or.inl ⟨rfl, rfl⟩
  | model system =>
    obtain ⟨reply, rest, rfl, hrest⟩ := trace_ask_iff.mp h
    obtain ⟨rfl, hjudge⟩ := trace_done_iff.mp hrest
    cases judge_eq_ok_iff.mp hjudge.symm with
    | sanitized hsanitize => exact Or.inr ⟨rfl, rfl, system, _, List.mem_cons_self, hsanitize⟩
    | rules => exact Or.inl ⟨rfl, rfl⟩

namespace Served

/-- The rows of the answer are those of the sample, and no engine was called. -/
def FromSample (served : Served ε) (answer : Answer) : Prop :=
  (∀ event ∈ served.events, event.isChat = true) ∧ answer.rows = Sample.respond answer.sql.text

/-- The rows of the answer are what an engine gave for its statement. -/
def FromEngine (served : Served ε) (answer : Answer) : Prop :=
  ∃ engine, ⟨.engine (.run engine answer.sql), .ok answer.rows⟩ ∈ served.events

/-- The model was asked this question, and what it replied is the statement of the answer once it is
cleaned, and satisfies the strict policy. -/
def FromModel (served : Served ε) (question : Text) (answer : Answer) : Prop :=
  ∃ system text, ⟨.chat ⟨system, question⟩, .ok text⟩ ∈ served.events ∧
    Sql.Policy.strict.sanitize text = .ok answer.sql

/-- The labels of an answer are true. -/
structure IsLabelled (served : Served ε) (question : Text) (answer : Answer) : Prop where
  /-- there is a warning exactly when the rows are from the sample -/
  warned : (answer.toJson.member? "warning").isSome = true ↔ served.FromSample answer
  unmocked : answer.mocked = false → served.FromModel question answer ∧ served.FromEngine answer
  mocked : answer.mocked = true → answer.sql = heuristicSql question

theorem isSome_warning_toJson (answer : Answer) :
    (answer.toJson.member? "warning").isSome = answer.warning.isSome := by
  obtain ⟨sql, rows, mocked, warning⟩ := answer
  cases warning <;> rfl

/-- Rows of an execution are from an engine, and not from the sample. -/
theorem fromEngine_of_execution (answer : Answer) {request : Http.Request} {response : Response}
    {chats : List App.ChatEvent} {engines : List (App.EngineEvent ε)} {engine? after : Option ε}
    (h : Executor.Execution answer.sql engine? engines (.ok answer.rows) after) :
    FromEngine ⟨request, chats.map App.Event.ofChat ++ engines.map App.Event.ofEngine, response⟩
        answer ∧
      ¬ FromSample ⟨request, chats.map App.Event.ofChat ++ engines.map App.Event.ofEngine, response⟩
        answer := by
  obtain ⟨engine, hrun⟩ := h.exists_run_mem
  have hmem : (⟨.engine (.run engine answer.sql), .ok answer.rows⟩ : App.Event ε) ∈
      chats.map App.Event.ofChat ++ engines.map App.Event.ofEngine :=
    List.mem_append_right _ (List.mem_map.mpr ⟨_, hrun, rfl⟩)
  refine ⟨⟨engine, hmem⟩, fun hsample => ?_⟩
  cases hsample.1 _ hmem

/-- In mock mode the rules have written the statement, and the sample has the rows. -/
theorem isLabelled_sampled {request : Http.Request} {response : Response}
    {chats : List App.ChatEvent} (hmock : settings.mockMode = true)
    (hsql : draft.sql = heuristicSql question) :
    IsLabelled (⟨request, chats.map App.Event.ofChat, response⟩ : Served ε) question
      (Question.answerOf settings draft (Sample.respond draft.sql.text)) where
  warned := by
    rw [isSome_warning_toJson, Question.answerOf, hmock]
    refine iff_of_true rfl ⟨fun event hevent => ?_, rfl⟩
    obtain ⟨chat, -, rfl⟩ := List.mem_map.mp hevent
    exact App.Event.isChat_ofChat chat
  unmocked := by simp [Question.answerOf, hmock]
  mocked := fun _ => hsql

/-- Outside of mock mode an engine has the rows, and a mocked statement is of the rules. -/
theorem isLabelled_executed {request : Http.Request} {response : Response}
    {chats : List App.ChatEvent} {engines : List (App.EngineEvent ε)} {engine? after : Option ε}
    {rows : ResultSet} (hmock : settings.mockMode = false)
    (hdraft : Trace (drafter.draft question) chats (.ok draft))
    (hexecution : Executor.Execution draft.sql engine? engines (.ok rows) after) :
    IsLabelled ⟨request, chats.map App.Event.ofChat ++ engines.map App.Event.ofEngine, response⟩
      question (Question.answerOf settings draft rows) := by
  obtain ⟨hengine, hsample⟩ :=
    fromEngine_of_execution (Question.answerOf settings draft rows) hexecution
  have hlabel : (Question.answerOf settings draft rows).mocked = draft.heuristic := by
    rw [Question.answerOf, hmock, Bool.false_or]
  refine ⟨?_, fun hmocked => ⟨?_, hengine⟩, fun hmocked => ?_⟩
  · rw [isSome_warning_toJson, Question.answerOf, hmock]
    exact iff_of_false Bool.false_ne_true hsample
  · rcases draft_cases hdraft with ⟨hrules, -⟩ | ⟨-, -, system, text, hchat, hsanitize⟩
    · cases hrules.symm.trans (hlabel.symm.trans hmocked)
    · have hmem : (⟨.chat ⟨system, question⟩, .ok text⟩ : App.Event ε) ∈
          chats.map App.Event.ofChat := List.mem_map.mpr ⟨_, hchat, rfl⟩
      exact ⟨system, text, List.mem_append_left _ hmem, hsanitize⟩
  · rcases draft_cases hdraft with ⟨-, hsql⟩ | ⟨hmodel, -⟩
    · exact hsql
    · cases hmodel.symm.trans (hlabel.symm.trans hmocked)

/-- In the mode that settings ask for, the labels of an answer are true. -/
theorem isLabelled_of_answered {request : Http.Request} {response : Response}
    (hfor : App.IsFor settings app) (h : Answered app question events answer) :
    IsLabelled ⟨request, events, response⟩ question answer := by
  obtain ⟨own, drafter, executor⟩ := app
  obtain ⟨rfl, husesModel, hsimulated⟩ := hfor
  cases h with
  | @intro draft chats engines rows after hdraft hrows =>
    cases hrows with
    | sampled =>
      -- The sample answers in mock mode only, and then there is no model.
      have hmock : own.mockMode = true := hsimulated.mp rfl
      rw [List.map_nil, List.append_nil]
      rcases draft_cases hdraft with ⟨-, hsql⟩ | ⟨-, hmodel, -⟩
      · exact isLabelled_sampled hmock hsql
      · cases hmock.symm.trans (husesModel.mp hmodel).1
    | executed hexecution =>
      have hmock : own.mockMode = false := by
        rw [← Bool.not_eq_true, ← hsimulated]
        exact Bool.false_ne_true
      exact isLabelled_executed hmock hdraft hexecution

end Served

/-- The labels of every answer are true, in every session of an application in the mode that
settings ask for. -/
theorem isLabelled_of_session {requests : List (Served ε)} {last : App ε}
    (hfor : App.IsFor settings app) (h : Session app requests last) :
    ∀ served ∈ requests, Page.ofPath? served.request.path = some .question →
      served.response.status = 200 → ∃ question answer,
        Question.Accepts served.request.body question ∧
          served.response = .json 200 answer.toJson ∧ served.IsLabelled question answer := by
  induction h with
  | nil app => nofun
  | @cons app next last served rest h hrest ih =>
    obtain ⟨hmode, hanswered⟩ := answered_of_trace h
    intro other hother hpath hstatus
    rcases List.mem_cons.mp hother with rfl | hother
    · obtain ⟨question, answer, haccepts, hresponse, hanswer⟩ := hanswered hpath hstatus
      exact ⟨question, answer, haccepts, hresponse, Served.isLabelled_of_answered hfor hanswer⟩
    · -- The request before has left the application in the same mode.
      exact ih (hfor.of_sameMode hmode) other hother hpath hstatus

/-- An application that settings make asks the model when mock mode is off and there is a key, and
answers from the sample in mock mode. In each of its sessions, whatever is requested and whatever
the model, the building of engines and the engines reply, the labels of every answer are true. -/
theorem session_isLabelled {files : Files} {requests : List (Served ε)} {last : App ε}
    (happ : App.ofSettings files settings = .ok app) (h : Session app requests last) :
    (app.drafter.usesModel = true ↔ settings.mockMode = false ∧ settings.apiKey.isSome = true) ∧
      (app.executor.isSimulated = true ↔ settings.mockMode = true) ∧
      ∀ served ∈ requests, Page.ofPath? served.request.path = some .question →
        served.response.status = 200 → ∃ question answer,
          Question.Accepts served.request.body question ∧
            served.response = .json 200 answer.toJson ∧ served.IsLabelled question answer := by
  have hfor := App.isFor_of_ofSettings happ
  exact ⟨hfor.usesModel_iff, hfor.isSimulated_iff, isLabelled_of_session hfor h⟩

/-- Two questions in a session: the model answers the first and cannot be reached for the second. -/
theorem session_isLabelled_count :
    ∃ (settings : Settings) (app last : App Unit) (first second : Served Unit),
      App.ofSettings (fun _ => .ok []) settings = .ok app ∧ Session app [first, second] last ∧
        app.drafter.usesModel = true ∧ app.executor.isSimulated = false ∧
        first.response.status = 200 ∧ second.response.status = 200 ∧
        ∀ served ∈ [first, second], ∃ question answer,
          served.response = .json 200 answer.toJson ∧ served.IsLabelled question answer := by
  let settings : Settings := { mockMode := false, apiKey := some "key" }
  let app : App Unit := ⟨settings, .withGrammar [], .real none⟩
  let request : Http.Request := ⟨"POST", "/nl-query", Question.writeText "Count all users"⟩
  have happ : App.ofSettings (fun _ => .ok []) settings = .ok app := rfl
  have hsession : Session app
      [⟨request,
        [⟨.chat ⟨Prompt.system [], "Count all users"⟩,
            .ok "SELECT count(*) FROM default.MOCK_DATA;"⟩,
          ⟨.engine .build, .ok ()⟩,
          ⟨.engine (.run () ⟨"SELECT count(*) FROM default.MOCK_DATA"⟩), .ok []⟩], _⟩,
      ⟨request,
        [⟨.chat ⟨Prompt.system [], "Count all users"⟩, .error (.transport "timeout")⟩,
          ⟨.engine (.run () ⟨"SELECT count(*) FROM default.MOCK_DATA"⟩), .ok []⟩], _⟩] _ :=
    .cons (.ask (.ask (.ask (.done _)))) (.cons (.ask (.ask (.done _))) (.nil _))
  obtain ⟨hmodel, hsimulated, hlabelled⟩ := session_isLabelled happ hsession
  refine ⟨settings, app, _, _, _, happ, hsession, hmodel.mpr ⟨rfl, rfl⟩, rfl, rfl, rfl, ?_⟩
  have hpath : Page.ofPath? "/nl-query" = some .question := by decide
  intro served hserved
  have hquestion : Page.ofPath? served.request.path = some .question ∧
      served.response.status = 200 := by
    rcases List.mem_pair.mp hserved with rfl | rfl
    · exact ⟨hpath, rfl⟩
    · exact ⟨hpath, rfl⟩
  obtain ⟨question, answer, -, hresponse, hlabel⟩ :=
    hlabelled served hserved hquestion.1 hquestion.2
  exact ⟨question, answer, hresponse, hlabel⟩

end Api

end AskTable
