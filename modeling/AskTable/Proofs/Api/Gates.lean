import AskTable.Proofs.Api.Provenance
/-!
# Gates behind the drafter

A draft passes three gates before it is run: the drafter has the text of the model checked by the
strict policy, the page of questions looks whether the draft begins like a query, and the executor
checks it by the standard policy. The gates behind the first one read other texts than the first,
but what the first lets through is let through by all. So no question is ever told that its
statement must be a query, and where the model has written the statement, a failed check is
reported only if an engine itself reports one. The engine of the program reports none.

## Main definitions

* `App.Event.engineError?` - the error that an engine has replied with
* `Api.Served.PassesGates` - no gate behind the drafter has refused the draft
* `Api.Served.IsWired` - the engine of the program was reached over the wire

## Main results

* `Sql.Policy.check_of_opening` - a policy that asks for a shorter beginning accepts no less
* `Api.passes_of_draft` - every draft begins like a query, and one of the model passes the standard
  policy
* `Api.passesGates_of_trace` - the gates let through what was drafted for a request
* `App.isPolicy_of_overWire` - the engine of the program reports no violation of the policy
* `Api.session_passesGates` - all of this, for every session
-/

namespace AskTable

open Dialogue (Trace trace_done_iff trace_done_prod_iff trace_ask_iff trace_bind_iff)

/-! ## Policies of different strictness -/

namespace Sql.Policy

variable {policy policy' : Policy} {t : Text}

/-- A policy for the same table that asks for a shorter beginning accepts no less. -/
theorem check_of_opening (h : policy.check t = .ok ()) (hident : policy'.ident = policy.ident)
    (hopening : policy'.opening <+: policy.opening) : policy'.check t = .ok () := by
  obtain ⟨hbegins, hsemicolon, htable, hkeywords⟩ := checkLowered_eq_ok_iff.mp h
  refine checkLowered_eq_ok_iff.mpr ⟨?_, hsemicolon, hident ▸ htable, hkeywords⟩
  obtain ⟨rest, hrest⟩ := Text.beginsWith_iff.mp hbegins
  obtain ⟨more, hmore⟩ := hopening
  refine Text.beginsWith_iff.mpr ⟨more ++ rest, ?_⟩
  rw [hrest, ← hmore, List.append_assoc]

/-- What is let through by the strict policy is let through by the standard one. -/
theorem check_standard_of_strict (h : strict.check t = .ok ()) : standard.check t = .ok () := by
  have hopening : standard.opening <+: strict.opening := ⟨" ", rfl⟩
  exact check_of_opening h rfl hopening

end Sql.Policy

/-! ## Errors of engines -/

variable {ε : Type}

namespace App.Event

/-- The error that an engine has replied with, if it has, while it was built or was run. -/
def engineError? : App.Event ε → Option Error
  | ⟨.chat _, _⟩ => none
  | ⟨.engine .build, reply⟩ => match reply with
    | .error e => some e
    | .ok _ => none
  | ⟨.engine (.run _ _), reply⟩ => match reply with
    | .error e => some e
    | .ok _ => none

theorem engineError?_build_iff {reply : Except Error ε} {e : Error} :
    engineError? ⟨.engine .build, reply⟩ = some e ↔ reply = .error e := by
  cases reply <;> simp [engineError?]

theorem engineError?_run_iff {engine : ε} {sql : Sql.Statement} {reply : Except Error ResultSet}
    {e : Error} : engineError? ⟨.engine (.run engine sql), reply⟩ = some e ↔ reply = .error e := by
  cases reply <;> simp [engineError?]

end App.Event

/-- Does the error tell of a violation of the policy? -/
def Error.isPolicy : Error → Bool
  | .sqlPolicy _ => true
  | _ => false

/-- Where the policy accepts the statement, the error of an execution is one of an engine. -/
theorem Executor.Execution.exists_engineError? {sql : Sql.Statement} {engine? after : Option ε}
    {engines : List (App.EngineEvent ε)} {e : Error}
    (hcheck : Sql.Policy.standard.check sql.text = .ok ())
    (h : Execution sql engine? engines (.error e) after) :
    ∃ event ∈ engines, (App.Event.ofEngine event).engineError? = some e := by
  generalize hresult : (.error e : Except Error ResultSet) = result at h
  -- The first way is that of a refusal by the policy. In the others the last call has the error.
  cases h with
  | refused _ hrefused => cases hcheck.symm.trans hrefused
  | unbuilt e' _ =>
    cases hresult
    exact ⟨_, List.mem_singleton_self _, rfl⟩
  | built engine _ _ =>
    subst hresult
    exact ⟨_, List.mem_cons_of_mem _ (List.mem_singleton_self _), rfl⟩
  | ran engine _ _ =>
    subst hresult
    exact ⟨_, List.mem_singleton_self _, rfl⟩

/-! ## The engine of the program -/

namespace ClickHouse

variable {e : Error}

theorem isPolicy_of_checkCertificate {files : Files} {settings : ClickHouseSettings}
    (h : checkCertificate files settings = .error e) : e.isPolicy = false := by
  unfold checkCertificate at h
  split at h
  · cases h
  · split at h
    · cases h
      rfl
    · split at h
      · cases h
      · cases h
        rfl

theorem isPolicy_of_connect {files : Files} {settings : ClickHouseSettings}
    (h : connect files settings = .error e) : e.isPolicy = false := by
  unfold connect at h
  split at h
  · cases hcertificate : checkCertificate files settings with
    | error e' =>
      rw [hcertificate] at h
      obtain rfl : e' = e := Except.error.inj h
      exact isPolicy_of_checkCertificate hcertificate
    | ok _ =>
      rw [hcertificate] at h
      cases h
  · cases h
    rfl

/-- What goes wrong with a reply goes wrong with the execution. -/
theorem isPolicy_of_readReply {reply : Wire.Reply} (h : readReply reply >>= readRows = .error e) :
    e.isPolicy = false := by
  have hrows {t : Text} (h : readRows t = .error e) : e.isPolicy = false := by
    unfold readRows at h
    split at h
    · cases h
    · cases h
      rfl
  cases reply with
  | unreachable reason =>
    cases h
    rfl
  | unreadable status reason =>
    cases h
    rfl
  | answered status content =>
    rw [readReply] at h
    split at h
    · exact hrows h
    · cases h
      rfl

end ClickHouse

/-- The engine of the program reports no violation of the policy, whatever comes over the wire. -/
theorem App.isPolicy_of_overWire {files : Files} {settings : Settings} {call : App.Call ClickHouse}
    {exchanges : List (Dialogue.Event Wire.Request fun _ => Wire.Reply)} {reply : call.Reply}
    {e : Error} (h : Trace (App.overWire files settings call) exchanges reply)
    (he : App.Event.engineError? ⟨call, reply⟩ = some e) : e.isPolicy = false := by
  cases call with
  | chat call => cases he
  | engine call =>
    cases call with
    | build =>
      obtain ⟨-, rfl⟩ := trace_done_iff.mp h
      exact ClickHouse.isPolicy_of_connect (App.Event.engineError?_build_iff.mp he)
    | run engine sql =>
      obtain ⟨wired, rest, -, hrest⟩ := trace_ask_iff.mp h
      obtain ⟨-, rfl⟩ := trace_done_iff.mp hrest
      exact ClickHouse.isPolicy_of_readReply (App.Event.engineError?_run_iff.mp he)

/-! ## Gates behind the drafter -/

namespace Api

variable {question : Text} {drafter : Drafter} {draft : Draft} {chats : List App.ChatEvent}

/-- Every draft begins like a query, and one that the model has written passes the standard
policy. -/
theorem passes_of_draft (h : Trace (drafter.draft question) chats (.ok draft)) :
    draft.sql.isSelect = true ∧
      (draft.heuristic = false → Sql.Policy.standard.check draft.sql.text = .ok ()) := by
  -- The rules begin every statement alike, and the strict policy asks for a longer beginning.
  rcases draft_cases h with ⟨hrules, hsql⟩ | ⟨hmodel, -, system, text, -, hsanitize⟩
  · rw [hsql]
    exact ⟨(classify question).isSelect_toSql, fun hmodel => nomatch hrules.symm.trans hmodel⟩
  · have hcheck := (Sql.Policy.check_of_sanitize hsanitize).2
    exact ⟨Sql.Policy.isSelect_of_check hcheck,
      fun _ => Sql.Policy.check_standard_of_strict hcheck⟩

/-! Refusals with the same status differ in what they tell. -/

/-- What a bad request is told stands in the body, character by character. -/
theorem body_badRequest (detail : Text) : (Response.ofRefusal (.badRequest detail)).body =
    "\x7b\"detail\":\"" ++ (detail.flatMap Json.escape ++ "\"\x7d") := by
  have hname : Json.quote "detail" = "\"detail\"" := by decide
  have hprint : (Response.ofRefusal (.badRequest detail)).body =
      "\x7b" ++ (Json.quote "detail" ++ ":" ++ Json.quote detail) ++ "\x7d" := rfl
  rw [hprint, hname, Json.quote]
  simp

/-- A bad request that is told something else is not told that its statement must be a query. -/
theorem ofRefusal_badRequest_ne {start : Text}
    (h : ¬ ("\x7b\"detail\":\"" ++ start.flatMap Json.escape : Text) <+:
      (Response.ofRefusal Question.notSelect).body) (rest : Text) :
    Response.ofRefusal (.badRequest (start ++ rest)) ≠ .ofRefusal Question.notSelect := by
  intro heq
  have hbody := body_badRequest (start ++ rest)
  rw [heq, List.flatMap_append] at hbody
  exact h ⟨rest.flatMap Json.escape ++ "\"\x7d", by rw [hbody]; simp⟩

theorem status_draftRefusal_iff (e : Error) :
    (Question.draftRefusal e).status = 400 ↔ e.isPolicy = true := by
  cases e <;> simp [Question.draftRefusal, Refusal.status, Error.isPolicy]

theorem status_executionRefusal_iff (e : Error) :
    (Question.executionRefusal e).status = 400 ↔ e.isPolicy = true := by
  cases e <;> simp [Question.executionRefusal, Refusal.status, Error.isPolicy]

theorem ofRefusal_ne_of_status {refusal : Refusal} (h : refusal.status ≠ 400) :
    Response.ofRefusal refusal ≠ .ofRefusal Question.notSelect :=
  fun heq => h (congrArg Response.status heq)

theorem draftRefusal_ne_notSelect (e : Error) :
    Response.ofRefusal (Question.draftRefusal e) ≠ .ofRefusal Question.notSelect := by
  cases e with
  | sqlPolicy reason => exact ofRefusal_badRequest_ne (by decide +kernel) reason
  | _ => exact ofRefusal_ne_of_status (mt (status_draftRefusal_iff _).mp Bool.false_ne_true)

theorem executionRefusal_ne_notSelect (e : Error) :
    Response.ofRefusal (Question.executionRefusal e) ≠ .ofRefusal Question.notSelect := by
  cases e with
  | sqlPolicy reason => exact ofRefusal_badRequest_ne (by decide +kernel) reason
  | _ => exact ofRefusal_ne_of_status (mt (status_executionRefusal_iff _).mp Bool.false_ne_true)

namespace Served

/-- No gate behind the drafter has refused the draft. -/
structure PassesGates (drafter : Drafter) (served : Served ε) : Prop where
  /-- the response does not tell that the statement must be a query -/
  select : served.response ≠ .ofRefusal Question.notSelect
  /-- where the model has written the draft, a failed check is one that an engine reports -/
  safety : ∀ draft, served.Drafts drafter (.ok draft) → draft.heuristic = false → ∀ reason,
    served.response = .ofRefusal (.badRequest ("Safety check failed: " ++ reason)) →
      ∃ event ∈ served.events, ∃ e, event.engineError? = some e ∧ e.isPolicy = true

/-- What the engine of the program replied came over the wire. -/
def IsWired (files : Files) (settings : Settings) (served : Served ClickHouse) : Prop :=
  ∀ event ∈ served.events, event.isChat = false →
    ∃ exchanges, Trace (App.overWire files settings event.1) exchanges event.2

/-- No error that came over the wire tells of a violation of the policy. -/
theorem IsWired.isPolicy_eq_false {files : Files} {settings : Settings}
    {served : Served ClickHouse} (h : served.IsWired files settings) {event : App.Event ClickHouse}
    (hmem : event ∈ served.events) {e : Error} (he : event.engineError? = some e) :
    e.isPolicy = false := by
  obtain ⟨call, reply⟩ := event
  cases call with
  | chat call => cases he
  | engine call =>
    obtain ⟨exchanges, htrace⟩ := h _ hmem rfl
    exact App.isPolicy_of_overWire htrace he

variable {app next : App ε} {request : Http.Request} {events : List (App.Event ε)}

/-- Where there is no draft, only the gate of the drafter has refused anything. -/
theorem passesGates_undrafted {e : Error}
    (hquestion : Question.readText request.body = .ok question)
    (hdraft : Trace (drafter.draft question) chats (.error e)) :
    PassesGates drafter (⟨request, chats.map App.Event.ofChat,
      .ofRefusal (Question.draftRefusal e)⟩ : Served ε) where
  select := draftRefusal_ne_notSelect e
  safety := by
    intro draft hdrafts
    have herror : Drafts drafter (⟨request, chats.map App.Event.ofChat,
        .ofRefusal (Question.draftRefusal e)⟩ : Served ε) (.error e) := by
      refine ⟨question, chats, hquestion, ?_, hdraft⟩
      exact List.filter_eq_self.mpr
        (List.forall_mem_map.mpr fun chat _ => App.Event.isChat_ofChat chat)
    cases hdrafts.unique herror

/-- What becomes of a draft is not the refusal of a gate, if the model has written it. -/
theorem passesGates_drafted {settings : Settings} {executor after : Executor ε}
    {engines : List (App.EngineEvent ε)} {rows : Except Error ResultSet}
    (hquestion : Question.readText request.body = .ok question)
    (hdraft : Trace (drafter.draft question) chats (.ok draft))
    (hexecutes : Executor.Executes draft.sql executor engines rows after) :
    PassesGates drafter ⟨request, chats.map App.Event.ofChat ++ engines.map App.Event.ofEngine,
      .ofResult ((resultOf settings draft rows).map Answer.toJson)⟩ := by
  have hown : Drafts drafter ⟨request, chats.map App.Event.ofChat ++
      engines.map App.Event.ofEngine, .ofResult ((resultOf settings draft rows).map
        Answer.toJson)⟩ (.ok draft) := ⟨question, chats, hquestion, filter_isChat_drafted, hdraft⟩
  constructor
  · cases rows with
    | ok rows => exact fun h => absurd (congrArg Response.status h) (by decide : 200 ≠ 400)
    | error e => exact executionRefusal_ne_notSelect e
  · intro draft' hdrafts hmodel reason hresponse
    obtain rfl := Except.ok.inj (hdrafts.unique hown)
    have hstatus := congrArg Response.status hresponse
    cases rows with
    | ok rows => exact absurd hstatus (by decide : 200 ≠ 400)
    | error e =>
      -- The status is that of a violation, which the executor itself does not find.
      have hpolicy := (status_executionRefusal_iff e).mp hstatus
      cases hexecutes with
      | executed hexecution =>
        obtain ⟨event, hmem, herror⟩ :=
          hexecution.exists_engineError? ((passes_of_draft hdraft).2 hmodel)
        exact ⟨_, List.mem_append_right _ (List.mem_map_of_mem hmem), e, herror, hpolicy⟩

/-- The gates let through what was drafted for a question. -/
theorem PassesGates.of_resolve {result : Except Refusal Answer}
    (hquestion : Question.readText request.body = .ok question)
    (h : Trace (Question.resolve app question) events (result, next)) :
    PassesGates app.drafter ⟨request, events, .ofResult (result.map Answer.toJson)⟩ := by
  obtain ⟨before, later, outcome, rfl, hdraft, hlater⟩ := trace_bind_iff.mp h
  obtain ⟨chats, rfl, hchats⟩ := App.trace_withChat_iff.mp hdraft
  cases outcome with
  | error e =>
    obtain ⟨rfl, rfl, rfl⟩ := trace_done_prod_iff.mp hlater
    rw [List.append_nil]
    exact passesGates_undrafted hquestion hchats
  | ok draft =>
    obtain ⟨engines, rows, executor, rfl, rfl, hexecutes, rfl⟩ :=
      trace_runDraft_of_isSelect (passes_of_draft hchats).1 hlater
    exact passesGates_drafted hquestion hchats hexecutes

/-- A response with another status is none of the refusals of the gates. -/
theorem PassesGates.of_status_ne {response : Response} (h : response.status ≠ 400)
    (drafter : Drafter) : PassesGates drafter ⟨request, events, response⟩ where
  select := fun heq => h (congrArg Response.status heq)
  safety := fun _ _ _ _ heq => absurd (congrArg Response.status heq) h

end Served

/-- The gates let through what was drafted for a request. -/
theorem passesGates_of_trace {app next : App ε} {request : Http.Request}
    {events : List (App.Event ε)} {response : Response}
    (h : Trace (route app request.method request.path request.body) events (response, next)) :
    Served.PassesGates app.drafter ⟨request, events, response⟩ := by
  rcases route_cases app request.method request.path request.body with
    ⟨hmethod, hpath, question, haccepts⟩ | ⟨_, hroute, -, hstatus⟩
  · rw [hmethod, route_of_accepts hpath haccepts] at h
    obtain ⟨before, later, ⟨result, left⟩, rfl, hresolve, hlater⟩ := trace_bind_iff.mp h
    obtain ⟨rfl, rfl, rfl⟩ := trace_done_prod_iff.mp hlater
    rw [List.append_nil]
    exact .of_resolve (Question.readText_of_parse haccepts.parse_eq) hresolve
  · rw [hroute] at h
    obtain ⟨rfl, rfl, rfl⟩ := trace_done_prod_iff.mp h
    exact .of_status_ne hstatus _

/-- The gates let through what was drafted for the requests of a session. -/
theorem passesGates_of_session {app last : App ε} {requests : List (Served ε)}
    (h : Session app requests last) : ∀ served ∈ requests, served.PassesGates app.drafter := by
  induction h with
  | nil app => nofun
  | @cons app next last served rest h hrest ih =>
    intro other hother
    rcases List.mem_cons.mp hother with rfl | hother
    · exact passesGates_of_trace h
    · -- The request before has left the drafter as it was.
      rw [← (answered_of_trace h).1.drafter_eq]
      exact ih other hother

/-- The gates behind the drafter never fire on what a model has written. Whatever the model replies,
a draft begins like a query, and one that the model has written passes the standard policy. So in
every session of every application no request is told that its statement must be a query. A failed
check of a statement of the model is one that an engine reports itself, and with the engine of the
program there is none, whatever comes over the wire. -/
theorem session_passesGates :
    (∀ (drafter : Drafter) (question : Text) (chats : List App.ChatEvent) (draft : Draft),
      Trace (drafter.draft question) chats (.ok draft) → draft.sql.isSelect = true ∧
        (draft.heuristic = false → Sql.Policy.standard.check draft.sql.text = .ok ())) ∧
    (∀ {ε : Type} (app last : App ε) (requests : List (Served ε)),
      Session app requests last → ∀ served ∈ requests, served.PassesGates app.drafter) ∧
    ∀ (files : Files) (settings : Settings) (app last : App ClickHouse)
      (requests : List (Served ClickHouse)), Session app requests last →
        ∀ served ∈ requests, served.IsWired files settings →
          ∀ draft, served.Drafts app.drafter (.ok draft) → draft.heuristic = false →
            ∀ reason, served.response ≠
              .ofRefusal (.badRequest ("Safety check failed: " ++ reason)) := by
  refine ⟨fun _ _ _ _ => passes_of_draft, fun _ _ _ => passesGates_of_session, ?_⟩
  intro files settings app last requests h served hserved hwired draft hdraft hmodel reason heq
  obtain ⟨event, hmem, e, herror, hpolicy⟩ :=
    (passesGates_of_session h served hserved).safety draft hdraft hmodel reason heq
  cases hpolicy.symm.trans (hwired.isPolicy_eq_false hmem herror)

/-- The model writes a statement, and the database that is to run it cannot be reached. -/
theorem session_passesGates_unreachable :
    let engine : ClickHouse := ⟨"http://localhost:8123/", "default", "default", []⟩
    let app : App ClickHouse := ⟨{ mockMode := false }, .model "system", .real (some engine)⟩
    let sql : Sql.Statement := ⟨"SELECT count(*) FROM default.MOCK_DATA"⟩
    ∃ (served : Served ClickHouse) (last : App ClickHouse), Session app [served] last ∧
      served.IsWired (fun _ => .ok []) {} ∧ served.Drafts app.drafter (.ok ⟨sql, false⟩) ∧
      served.response.status = 500 ∧ sql.isSelect = true ∧
      Sql.Policy.standard.check sql.text = .ok () ∧ served.PassesGates app.drafter ∧
      ∀ reason, served.response ≠ .ofRefusal (.badRequest ("Safety check failed: " ++ reason)) := by
  intro engine app sql
  have hdraft : Trace (app.drafter.draft "Count all users")
      [⟨⟨"system", "Count all users"⟩, .ok "SELECT count(*) FROM default.MOCK_DATA;"⟩]
      (.ok ⟨sql, false⟩) := .ask (.done _)
  let served : Served ClickHouse := ⟨⟨"POST", "/nl-query", Question.writeText "Count all users"⟩,
    [⟨.chat ⟨"system", "Count all users"⟩, .ok "SELECT count(*) FROM default.MOCK_DATA;"⟩,
      ⟨.engine (.run engine sql), .error (.execution "Failed to reach ClickHouse: timeout")⟩],
    .ofRefusal (.internal "Execution failed: Failed to reach ClickHouse: timeout")⟩
  have hsession : Session app [served] app := .cons (.ask (.ask (.done _))) (.nil _)
  have hdrafts : served.Drafts app.drafter (.ok ⟨sql, false⟩) :=
    ⟨"Count all users", _, rfl, rfl, hdraft⟩
  have hwired : served.IsWired (fun _ => .ok []) {} := by
    intro event hmem hengine
    rcases List.mem_pair.mp hmem with rfl | rfl
    · cases hengine
    · exact ⟨[⟨engine.request sql.text true, .unreachable "timeout"⟩], .ask (.done _)⟩
  obtain ⟨hselect, hcheck⟩ := session_passesGates.1 _ _ _ _ hdraft
  exact ⟨served, app, hsession, hwired, hdrafts, rfl, hselect, hcheck rfl,
    session_passesGates.2.1 _ _ _ hsession _ List.mem_cons_self,
    session_passesGates.2.2 _ _ _ _ _ hsession _ List.mem_cons_self hwired _ hdrafts rfl⟩

end Api

end AskTable
