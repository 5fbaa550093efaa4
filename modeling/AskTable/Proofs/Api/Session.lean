import AskTable.Http.Request
import AskTable.Proofs.Api.Question
import AskTable.Proofs.Engine.Executor
import Mathlib.Tactic.SplitIfs
/-!
# Sessions

A session of an application is a list of requests that are served one after another. Each is served
with the application that the one before has left. The chat model and the engine reply as they like.
What reaches the engine is nevertheless under control: it was drafted for the same request,
satisfies the standard policy, and is what the answer shows.

## Main definitions

* `App.Event` - a call of an application with its reply
* `Api.Served` - a request with the calls that were made for it and its response
* `Api.Session` - requests that are served one after another
* `Api.Served.IsGuarded` - what is promised of a served request

## Main results

* `Api.exists_session` - requests can be served whatever the replies are
* `Api.isGuarded_of_trace` - the promise holds for one request, and the executor stays real
* `Api.session_isGuarded` - the promise holds for every request of every session
-/

namespace AskTable

open Dialogue (Trace trace_done_iff trace_done_prod_iff trace_ask_iff trace_bind_iff)

variable {ε α : Type}

/-! ## Calls of an application -/

namespace App

/-- A call of an application with its reply. -/
abbrev Event (ε : Type) : Type := Dialogue.Event (Call ε) Call.Reply

/-- A call to the chat model with its reply. -/
abbrev ChatEvent : Type := Dialogue.Event ChatCall fun _ => ChatReply

/-- A call about an engine with its reply. -/
abbrev EngineEvent (ε : Type) : Type := Dialogue.Event (EngineCall ε) EngineCall.Reply

namespace Event

def ofChat (event : ChatEvent) : Event ε := ⟨.chat event.1, event.2⟩

def ofEngine (event : EngineEvent ε) : Event ε := ⟨.engine event.1, event.2⟩

/-- Was the chat model called? -/
def isChat : Event ε → Bool
  | ⟨.chat _, _⟩ => true
  | ⟨.engine _, _⟩ => false

/-- Was an engine built? -/
def isBuild : Event ε → Bool
  | ⟨.engine .build, _⟩ => true
  | _ => false

/-- The statement that was handed to an engine, if one was. -/
def statement? : Event ε → Option Sql.Statement
  | ⟨.engine (.run _ sql), _⟩ => some sql
  | _ => none

@[simp] theorem isChat_ofChat (event : ChatEvent) : (ofChat event : Event ε).isChat = true := rfl

@[simp] theorem isChat_ofEngine (event : EngineEvent ε) : (ofEngine event).isChat = false := rfl

@[simp] theorem isBuild_ofChat (event : ChatEvent) : (ofChat event : Event ε).isBuild = false := rfl

@[simp] theorem isBuild_ofEngine (event : EngineEvent ε) :
    (ofEngine event).isBuild = Executor.isBuild event := by
  obtain ⟨_ | _, reply⟩ := event <;> rfl

@[simp] theorem statement?_ofChat (event : ChatEvent) :
    (ofChat event : Event ε).statement? = none := rfl

@[simp] theorem statement?_ofEngine (event : EngineEvent ε) :
    (ofEngine event).statement? = Executor.statement? event := by
  obtain ⟨_ | _, reply⟩ := event <;> rfl

theorem ofChat_injective (event event' : ChatEvent)
    (h : (ofChat event : Event ε) = ofChat event') : event = event' := by
  obtain ⟨call, reply⟩ := event
  obtain ⟨call', reply'⟩ := event'
  cases h
  rfl

end Event

/-- A dialogue with the chat model makes its calls as calls of the application. -/
theorem trace_withChat_iff {d : Dialogue ChatCall (fun _ => ChatReply) α} {events : List (Event ε)}
    {a : α} : Trace (withChat d) events a ↔
      ∃ chats, events = chats.map Event.ofChat ∧ Trace d chats a :=
  Dialogue.trace_interpret_iff Event.ofChat fun _ _ _ _ => trace_ask_iff

/-- A dialogue of an executor makes its calls as calls of the application. -/
theorem trace_withEngine_iff {d : Executor.Run ε α} {events : List (Event ε)} {a : α} :
    Trace (withEngine d) events a ↔
      ∃ engines, events = engines.map Event.ofEngine ∧ Trace d engines a :=
  Dialogue.trace_interpret_iff Event.ofEngine fun _ _ _ _ => trace_ask_iff

end App

/-! ## Served requests -/

namespace Api

/-- A request with the calls that were made for it and its response. -/
structure Served (ε : Type) where
  request : Http.Request
  events : List (App.Event ε)
  response : Response

/-- Requests that are served one after another, each with the application that is left. -/
inductive Session : App ε → List (Served ε) → App ε → Prop
  | nil (app : App ε) : Session app [] app
  | cons {app next last : App ε} {served : Served ε} {rest : List (Served ε)}
      (h : Trace (route app served.request.method served.request.path served.request.body)
        served.events (served.response, next))
      (hrest : Session next rest last) : Session app (served :: rest) last

/-- A request for the page of questions whose body is a question of an acceptable length. -/
def IsQuestion (request : Http.Request) : Prop :=
  request.method = "POST" ∧ Text.dropEnd (· = '/') request.path = "/nl-query" ∧
    ∃ question, Question.readText request.body = .ok question ∧
      3 ≤ question.length ∧ question.length ≤ 500

namespace Served

/-- The statements that were handed to the engine. -/
def statements (served : Served ε) : List Sql.Statement :=
  served.events.filterMap App.Event.statement?

/-- For the question in the body, and with what the chat model replied to this request, the drafter
comes to this outcome. -/
def Drafts (drafter : Drafter) (served : Served ε) (outcome : Except Error Draft) : Prop :=
  ∃ question chats, Question.readText served.request.body = .ok question ∧
    served.events.filter App.Event.isChat = chats.map App.Event.ofChat ∧
    Trace (drafter.draft question) chats outcome

/-- What is promised of a served request. -/
structure IsGuarded (drafter : Drafter) (served : Served ε) : Prop where
  /-- calls are made for questions only -/
  asked : served.events ≠ [] → IsQuestion served.request
  chats_le : served.events.countP App.Event.isChat ≤ 1
  builds_le : served.events.countP App.Event.isBuild ≤ 1
  statements_le : served.statements.length ≤ 1
  /-- a statement that reaches the engine was drafted for this request -/
  drafted : ∀ sql ∈ served.statements, ∃ heuristic, served.Drafts drafter (.ok ⟨sql, heuristic⟩)
  /-- it satisfies the standard policy -/
  checked : ∀ sql ∈ served.statements, Sql.Policy.standard.check sql.text = .ok ()
  /-- it is what the answer shows, if there is one -/
  shown : ∀ sql ∈ served.statements, served.response.status = 200 →
    ∃ value : Json, served.response.body = value.print ∧ value.member? "sql" = some (.str sql.text)
  /-- without a draft there is no call about an engine -/
  undrafted : ∀ e, served.Drafts drafter (.error e) → ∀ event ∈ served.events, event.isChat = true

end Served

/-! ## The dialogue about a question -/

/-- The chat model is called once at most. -/
theorem length_le_of_trace_draft {drafter : Drafter} {question : Text} {chats : List App.ChatEvent}
    {outcome : Except Error Draft} (h : Trace (drafter.draft question) chats outcome) :
    chats.length ≤ 1 := by
  cases drafter with
  | rules =>
    obtain ⟨rfl, -⟩ := trace_done_iff.mp h
    exact Nat.zero_le 1
  | model system =>
    obtain ⟨reply, rest, rfl, hrest⟩ := trace_ask_iff.mp h
    obtain ⟨rfl, -⟩ := trace_done_iff.mp hrest
    exact Nat.le_refl 1

/-- What becomes of a question: there is no draft and nothing is run, or there is one and at most
this draft is run. -/
inductive Resolution (drafter : Drafter) (question : Text) :
    List (App.Event ε) → Except Refusal Answer → Prop
  | undrafted {chats : List App.ChatEvent} {e : Error} (refusal : Refusal)
      (hdraft : Trace (drafter.draft question) chats (.error e)) :
      Resolution drafter question (chats.map App.Event.ofChat) (.error refusal)
  | drafted {chats : List App.ChatEvent} {draft : Draft} {engines : List (App.EngineEvent ε)}
      {result : Except Refusal Answer} (hdraft : Trace (drafter.draft question) chats (.ok draft))
      (hbuilds : engines.countP Executor.isBuild ≤ 1)
      (hstatements : engines.filterMap Executor.statement? = [] ∨
        engines.filterMap Executor.statement? = [draft.sql] ∧
          Sql.Policy.standard.check draft.sql.text = .ok ())
      (hanswer : ∀ answer, result = .ok answer → answer.sql = draft.sql) :
      Resolution drafter question
        (chats.map App.Event.ofChat ++ engines.map App.Event.ofEngine) result

variable {settings : Settings} {drafter : Drafter} {engine? : Option ε}
  {events : List (App.Event ε)}

/-- What a draft gets when its statement is run. -/
def resultOf (settings : Settings) (draft : Draft) :
    Except Error ResultSet → Except Refusal Answer
  | .ok rows => .ok (Question.answerOf settings draft rows)
  | .error e => .error (Question.executionRefusal e)

/-- A draft that begins like a query goes through the executor. -/
theorem trace_runDraft_of_isSelect {app next : App ε} {draft : Draft}
    {result : Except Refusal Answer} (hselect : draft.sql.isSelect = true)
    (h : Trace (Question.runDraft app draft) events (result, next)) :
    ∃ engines rows executor, events = engines.map App.Event.ofEngine ∧
      next = { app with executor } ∧
      Executor.Executes draft.sql app.executor engines rows executor ∧
      result = resultOf app.settings draft rows := by
  rw [Question.runDraft, if_pos hselect] at h
  obtain ⟨before, later, ⟨rows, executor⟩, rfl, hexecute, hlater⟩ := trace_bind_iff.mp h
  obtain ⟨engines, rfl, hengines⟩ := App.trace_withEngine_iff.mp hexecute
  refine ⟨engines, rows, executor, ?_⟩
  -- Whether there are rows or an error, no call comes after the execution.
  cases rows with
  | ok rows =>
    obtain ⟨rfl, rfl, rfl⟩ := trace_done_prod_iff.mp hlater
    exact ⟨List.append_nil _, rfl, .of_trace hengines, rfl⟩
  | error e =>
    obtain ⟨rfl, rfl, rfl⟩ := trace_done_prod_iff.mp hlater
    exact ⟨List.append_nil _, rfl, .of_trace hengines, rfl⟩

/-- A draft goes through the executor, or it is refused without a call. -/
theorem trace_runDraft_cases {app next : App ε} {draft : Draft} {result : Except Refusal Answer}
    (h : Trace (Question.runDraft app draft) events (result, next)) :
    (events = [] ∧ next = app ∧ result = .error Question.notSelect) ∨
      ∃ engines rows executor, events = engines.map App.Event.ofEngine ∧
        next = { app with executor } ∧
        Executor.Executes draft.sql app.executor engines rows executor ∧
        result = resultOf app.settings draft rows := by
  by_cases hselect : draft.sql.isSelect = true
  · exact Or.inr (trace_runDraft_of_isSelect hselect h)
  · rw [Question.runDraft, if_neg hselect] at h
    obtain ⟨rfl, rfl, rfl⟩ := trace_done_prod_iff.mp h
    exact Or.inl ⟨rfl, rfl, rfl⟩

/-- With a real executor a draft is run by an execution, or not at all. -/
theorem trace_runDraft {draft : Draft} {result : Except Refusal Answer} {next : App ε}
    (h : Trace (Question.runDraft ⟨settings, drafter, .real engine?⟩ draft) events (result, next)) :
    ∃ engines after, events = engines.map App.Event.ofEngine ∧
      next = ⟨settings, drafter, .real after⟩ ∧
      (engines = [] ∨ ∃ rows, Executor.Execution draft.sql engine? engines rows after) ∧
      ∀ answer, result = .ok answer → answer.sql = draft.sql := by
  rcases trace_runDraft_cases h with
    ⟨rfl, rfl, rfl⟩ | ⟨engines, rows, executor, rfl, rfl, hexecutes, rfl⟩
  · exact ⟨[], engine?, rfl, rfl, Or.inl rfl, nofun⟩
  · cases hexecutes with
    | @executed _ after _ _ hexecution =>
      refine ⟨engines, after, rfl, rfl, Or.inr ⟨rows, hexecution⟩, fun answer ha => ?_⟩
      cases rows with
      | ok rows =>
        rw [← Except.ok.inj ha]
        rfl
      | error e => cases ha

/-- The dialogue about a question resolves it and leaves a real executor. -/
theorem trace_resolve {question : Text} {result : Except Refusal Answer} {next : App ε}
    (h : Trace (Question.resolve ⟨settings, drafter, .real engine?⟩ question) events
      (result, next)) :
    (∃ after, next = ⟨settings, drafter, .real after⟩) ∧
      Resolution drafter question events result := by
  obtain ⟨before, later, outcome, rfl, hdraft, hlater⟩ := trace_bind_iff.mp h
  obtain ⟨chats, rfl, hchats⟩ := App.trace_withChat_iff.mp hdraft
  cases outcome with
  | error e =>
    obtain ⟨rfl, rfl, rfl⟩ := trace_done_prod_iff.mp hlater
    rw [List.append_nil]
    exact ⟨⟨engine?, rfl⟩, .undrafted _ hchats⟩
  | ok draft =>
    obtain ⟨engines, after, rfl, rfl, hrun, hanswer⟩ := trace_runDraft hlater
    refine ⟨⟨after, rfl⟩, ?_⟩
    rcases hrun with rfl | ⟨rows, hexecution⟩
    · exact .drafted hchats (Nat.zero_le 1) (Or.inl rfl) hanswer
    · exact .drafted hchats hexecution.countP_isBuild_le hexecution.statements_cases hanswer

/-! ## Guarded requests -/

namespace Served

variable {request : Http.Request} {response : Response}

/-- Nothing has to be promised where no call is made. -/
theorem IsGuarded.of_nil (drafter : Drafter) (request : Http.Request) (response : Response) :
    IsGuarded drafter (⟨request, [], response⟩ : Served ε) where
  asked := fun h => absurd rfl h
  chats_le := Nat.zero_le 1
  builds_le := Nat.zero_le 1
  statements_le := Nat.zero_le 1
  drafted := nofun
  checked := nofun
  shown := nofun
  undrafted := fun _ _ _ hevent => (List.not_mem_nil hevent).elim

/-- The chat model gets no statements. -/
theorem filterMap_statement?_chats (chats : List App.ChatEvent) :
    (chats.map (App.Event.ofChat (ε := ε))).filterMap App.Event.statement? = [] := by
  rw [List.filterMap_map]
  exact List.filterMap_eq_nil_iff.mpr fun chat _ => App.Event.statement?_ofChat chat

/-- The statements of a request for which a draft was run are those of the engine. -/
theorem statements_drafted {chats : List App.ChatEvent} {engines : List (App.EngineEvent ε)} :
    statements ⟨request, chats.map App.Event.ofChat ++ engines.map App.Event.ofEngine, response⟩ =
      engines.filterMap Executor.statement? := by
  have hengines : (App.Event.statement? ∘ App.Event.ofEngine : App.EngineEvent ε → _) =
      Executor.statement? := funext App.Event.statement?_ofEngine
  rw [statements, List.filterMap_append, filterMap_statement?_chats, List.nil_append,
    List.filterMap_map, hengines]

theorem filter_isChat_drafted {chats : List App.ChatEvent} {engines : List (App.EngineEvent ε)} :
    (chats.map App.Event.ofChat ++ engines.map App.Event.ofEngine).filter App.Event.isChat =
      chats.map App.Event.ofChat := by
  have hchats : (chats.map (App.Event.ofChat (ε := ε))).filter App.Event.isChat =
      chats.map App.Event.ofChat :=
    List.filter_eq_self.mpr (List.forall_mem_map.mpr fun chat _ => App.Event.isChat_ofChat chat)
  have hengines : (engines.map App.Event.ofEngine).filter App.Event.isChat = [] :=
    List.filter_eq_nil_iff.mpr (List.forall_mem_map.mpr fun _ _ => Bool.false_ne_true)
  rw [List.filter_append, hchats, hengines, List.append_nil]

/-- There is one outcome for the question of a request. -/
theorem Drafts.unique {served : Served ε} {drafter : Drafter}
    {outcome outcome' : Except Error Draft} (h : served.Drafts drafter outcome)
    (h' : served.Drafts drafter outcome') : outcome = outcome' := by
  obtain ⟨question, chats, hquestion, hchats, htrace⟩ := h
  obtain ⟨question', chats', hquestion', hchats', htrace'⟩ := h'
  obtain rfl := Except.ok.inj (hquestion.symm.trans hquestion')
  have hsame : chats = chats' :=
    (List.map_inj_right App.Event.ofChat_injective).mp (hchats.symm.trans hchats')
  subst hsame
  exact htrace.unique htrace'

/-- The answer to a question has its statement as a member. -/
theorem member?_sql_toJson (answer : Answer) :
    answer.toJson.member? "sql" = some (.str answer.sql.text) := by
  obtain ⟨sql, rows, mocked, warning⟩ := answer
  cases warning <;> rfl

/-- A response of status 200 to a question shows the statement of its answer. -/
theorem shows_of_status {result : Except Refusal Answer} {sql : Sql.Statement}
    (hanswer : ∀ answer, result = .ok answer → answer.sql = sql)
    (hstatus : (Response.ofResult (result.map Answer.toJson)).status = 200) :
    ∃ value : Json, (Response.ofResult (result.map Answer.toJson)).body = value.print ∧
      value.member? "sql" = some (.str sql.text) := by
  cases result with
  | ok answer =>
    refine ⟨answer.toJson, rfl, ?_⟩
    rw [member?_sql_toJson, hanswer answer rfl]
  | error refusal => exact absurd hstatus refusal.status_ne

theorem countP_map_ofChat_le {chats : List App.ChatEvent} {p : App.Event ε → Bool}
    (h : chats.length ≤ 1) : (chats.map App.Event.ofChat).countP p ≤ 1 := by
  refine Nat.le_trans List.countP_le_length ?_
  rwa [List.length_map]

theorem isGuarded_undrafted {drafter : Drafter} {question : Text} {chats : List App.ChatEvent}
    {e : Error} (hrequest : IsQuestion request)
    (hdraft : Trace (drafter.draft question) chats (.error e)) :
    IsGuarded drafter (⟨request, chats.map App.Event.ofChat, response⟩ : Served ε) := by
  have hnone : statements (⟨request, chats.map App.Event.ofChat, response⟩ : Served ε) = [] :=
    filterMap_statement?_chats chats
  have hlength := length_le_of_trace_draft hdraft
  refine ⟨fun _ => hrequest, countP_map_ofChat_le hlength, countP_map_ofChat_le hlength, ?_, ?_, ?_,
    ?_, ?_⟩
  · rw [hnone]
    exact Nat.zero_le 1
  · rw [hnone]
    nofun
  · rw [hnone]
    nofun
  · rw [hnone]
    nofun
  · intro e' _ event hevent
    obtain ⟨chat, -, rfl⟩ := List.mem_map.mp hevent
    exact App.Event.isChat_ofChat chat

theorem isGuarded_drafted {drafter : Drafter} {question : Text} {chats : List App.ChatEvent}
    {draft : Draft} {engines : List (App.EngineEvent ε)} {result : Except Refusal Answer}
    (hrequest : IsQuestion request) (hquestion : Question.readText request.body = .ok question)
    (hdraft : Trace (drafter.draft question) chats (.ok draft))
    (hbuilds : engines.countP Executor.isBuild ≤ 1)
    (hstatements : engines.filterMap Executor.statement? = [] ∨
      engines.filterMap Executor.statement? = [draft.sql] ∧
        Sql.Policy.standard.check draft.sql.text = .ok ())
    (hanswer : ∀ answer, result = .ok answer → answer.sql = draft.sql) :
    IsGuarded drafter ⟨request, chats.map App.Event.ofChat ++ engines.map App.Event.ofEngine,
      .ofResult (result.map Answer.toJson)⟩ := by
  have hdrafts : Drafts drafter ⟨request, chats.map App.Event.ofChat ++
      engines.map App.Event.ofEngine, .ofResult (result.map Answer.toJson)⟩ (.ok draft) :=
    ⟨question, chats, hquestion, filter_isChat_drafted, hdraft⟩
  have hlength := length_le_of_trace_draft hdraft
  have hmem : ∀ sql ∈ engines.filterMap Executor.statement?,
      sql = draft.sql ∧ Sql.Policy.standard.check draft.sql.text = .ok () := by
    intro sql hsql
    rcases hstatements with hnone | ⟨hone, hcheck⟩
    · rw [hnone] at hsql
      cases hsql
    · rw [hone] at hsql
      exact ⟨List.mem_singleton.mp hsql, hcheck⟩
  refine ⟨fun _ => hrequest, ?_, ?_, ?_, ?_, ?_, ?_, ?_⟩
  · rw [List.countP_append]
    -- Only the calls of the drafter go to the chat model.
    have hengines : (engines.map App.Event.ofEngine).countP App.Event.isChat = 0 :=
      List.countP_eq_zero.mpr (List.forall_mem_map.mpr fun _ _ => Bool.false_ne_true)
    rw [hengines, Nat.add_zero]
    exact countP_map_ofChat_le hlength
  · rw [List.countP_append]
    -- Only those of the execution can build an engine.
    have hchats : (chats.map (App.Event.ofChat (ε := ε))).countP App.Event.isBuild = 0 :=
      List.countP_eq_zero.mpr (List.forall_mem_map.mpr fun _ _ => Bool.false_ne_true)
    have hengines : (App.Event.isBuild ∘ App.Event.ofEngine : App.EngineEvent ε → Bool) =
        Executor.isBuild := funext App.Event.isBuild_ofEngine
    rw [hchats, Nat.zero_add, List.countP_map, hengines]
    exact hbuilds
  · rw [statements_drafted]
    rcases hstatements with hnone | ⟨hone, -⟩
    · rw [hnone]
      exact Nat.zero_le 1
    · rw [hone]
      exact Nat.le_refl 1
  · rw [statements_drafted]
    intro sql hsql
    obtain ⟨rfl, -⟩ := hmem sql hsql
    exact ⟨draft.heuristic, hdrafts⟩
  · rw [statements_drafted]
    intro sql hsql
    obtain ⟨rfl, hcheck⟩ := hmem sql hsql
    exact hcheck
  · rw [statements_drafted]
    intro sql hsql
    obtain ⟨rfl, -⟩ := hmem sql hsql
    exact shows_of_status hanswer
  · intro e he
    -- The drafter has one outcome, and here it is a draft.
    cases hdrafts.unique he

/-- What is promised holds where a question was resolved. -/
theorem IsGuarded.of_resolution {drafter : Drafter} {question : Text}
    {events : List (App.Event ε)} {result : Except Refusal Answer} (hrequest : IsQuestion request)
    (hquestion : Question.readText request.body = .ok question)
    (h : Resolution drafter question events result) :
    IsGuarded drafter ⟨request, events, .ofResult (result.map Answer.toJson)⟩ := by
  cases h with
  | undrafted refusal hdraft => exact isGuarded_undrafted hrequest hdraft
  | drafted hdraft hbuilds hstatements hanswer =>
    exact isGuarded_drafted hrequest hquestion hdraft hbuilds hstatements hanswer

end Served

/-! ## The promise -/

theorem dropEnd_of_ofPath? {path : Text} (h : Page.ofPath? path = some .question) :
    Text.dropEnd (· = '/') path = "/nl-query" := by
  rw [Page.ofPath?] at h
  split_ifs at h with hroot hhealth hecho hquestion
  · cases h
  · cases h
  · cases h
  · exact hquestion

/-- The promise holds for a request that is served with a real executor, which stays real. -/
theorem isGuarded_of_trace {request : Http.Request} {response : Response} {next : App ε}
    (h : Trace (route ⟨settings, drafter, .real engine?⟩ request.method request.path request.body)
      events (response, next)) :
    (∃ after, next = ⟨settings, drafter, .real after⟩) ∧
      Served.IsGuarded drafter ⟨request, events, response⟩ := by
  rcases route_cases (⟨settings, drafter, .real engine?⟩ : App ε) request.method request.path
    request.body with ⟨hmethod, hpath, question, haccepts⟩ | ⟨_, hroute, -⟩
  · have hquestion := Question.readText_of_parse haccepts.parse_eq
    have hrequest : IsQuestion request :=
      ⟨hmethod, dropEnd_of_ofPath? hpath, question, hquestion, haccepts.least, haccepts.most⟩
    -- No call is made before the question is known to be acceptable.
    rw [hmethod, route_of_accepts hpath haccepts] at h
    obtain ⟨before, later, ⟨result, app⟩, rfl, hresolve, hlater⟩ := trace_bind_iff.mp h
    obtain ⟨rfl, rfl, rfl⟩ := trace_done_prod_iff.mp hlater
    obtain ⟨hnext, hresolution⟩ := trace_resolve hresolve
    rw [List.append_nil]
    exact ⟨hnext, .of_resolution hrequest hquestion hresolution⟩
  · rw [hroute] at h
    obtain ⟨rfl, rfl, rfl⟩ := trace_done_prod_iff.mp h
    exact ⟨⟨engine?, rfl⟩, .of_nil drafter request _⟩

/-- Requests can be served whatever the replies to the calls are. -/
theorem exists_session (app : App ε)
    (requests : List (Http.Request × ((call : App.Call ε) → call.Reply))) :
    ∃ served last, Session app served last ∧
      served.map Served.request = requests.map Prod.fst := by
  induction requests generalizing app with
  | nil => exact ⟨[], app, .nil app, rfl⟩
  | cons request requests ih =>
    obtain ⟨request, answer⟩ := request
    have htrace := Dialogue.exists_trace answer
      (route app request.method request.path request.body)
    obtain ⟨served, last, hsession, hrequests⟩ := ih (Dialogue.play answer
      (route app request.method request.path request.body)).2.2
    refine ⟨⟨request, _, _⟩ :: served, last, .cons htrace hsession, ?_⟩
    rw [List.map_cons, List.map_cons, hrequests]

/-- Only statements that satisfy the standard policy reach the engine. In every session of an
application with a real executor, whatever is requested and whatever the chat model, the building of
engines and the engines reply, every served request is guarded. -/
theorem session_isGuarded {app last : App ε} {requests : List (Served ε)}
    (hreal : ∃ engine?, app.executor = .real engine?) (h : Session app requests last) :
    ∀ served ∈ requests, served.IsGuarded app.drafter := by
  induction h with
  | nil app => nofun
  | @cons app next last served rest h hrest ih =>
    -- A request leaves the drafter as it is and a real executor, so the promise goes on.
    obtain ⟨settings, drafter, executor⟩ := app
    obtain ⟨engine?, rfl⟩ := hreal
    obtain ⟨⟨after, rfl⟩, hserved⟩ := isGuarded_of_trace h
    intro other hother
    rcases List.mem_cons.mp hother with rfl | hother
    · exact hserved
    · exact ih ⟨after, rfl⟩ other hother

/-- A question in a session with a real executor that has no engine yet. -/
theorem session_count_users :
    ∃ (served : Served Unit) (last : App Unit),
      Session ⟨{ mockMode := false }, .rules, .real none⟩ [served] last ∧
        served.request = ⟨"POST", "/nl-query/", Question.writeText "Count all users"⟩ ∧
        served.statements = [⟨"SELECT count(*) FROM default.MOCK_DATA"⟩] ∧
        served.response.status = 200 ∧ served.IsGuarded .rules := by
  have hsession : Session ⟨{ mockMode := false }, .rules, .real none⟩
      [⟨⟨"POST", "/nl-query/", Question.writeText "Count all users"⟩,
        [⟨.engine .build, .ok ()⟩,
          ⟨.engine (.run () ⟨"SELECT count(*) FROM default.MOCK_DATA"⟩), .ok []⟩], _⟩] _ :=
    .cons (.ask (.ask (.done _))) (.nil _)
  exact ⟨_, _, hsession, rfl, rfl, rfl,
    session_isGuarded ⟨none, rfl⟩ hsession _ List.mem_cons_self⟩

end Api

end AskTable
