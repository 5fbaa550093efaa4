import AskTable.Proofs.Api.Question
import AskTable.Proofs.Engine.Executor
import AskTable.Proofs.Intent.Opening
import AskTable.Proofs.Sql.Verdict
/-!
# What becomes of a question

A question of an acceptable length is put to the chat model, and there are five things that can come
of it. The quota of the model is exhausted; its text is not acceptable; or there is a statement,
which is refused, fails, or is answered with rows. Each has a response of its own. The model may
reply as it likes, and engines may fail, but only while they are built or run.

## Main definitions

* `Api.World` - the chat model and the engines
* `Api.Proposes` - the statement that a reply of the model amounts to
* `Api.Runs`, `Api.Occurs` - when each of the outcomes occurs
* `Api.Outcome.status`, `Api.Outcome.content` - the response of an outcome

## Main results

* `Api.Occurs.unique`, `Api.exists_occurs` - exactly one outcome occurs
* `Api.play_resolve_of_occurs` - the calls that are made for it and what the question gets
* `Api.existsUnique_outcome` - both for requests to the page of questions
-/

namespace AskTable.Api

open Dialogue (play play_bind)
open Sql (Policy Violation)

/-- The chat model and the engines. Building an engine and running a statement on it may fail with a
message. -/
structure World (ε : Type) where
  chat : ChatCall → ChatReply
  build : Except Text ε
  run : ε → Sql.Statement → Except Text ResultSet

variable {ε : Type}

namespace World

/-- The replies to calls. What fails with a message fails as an execution. -/
def answer (world : World ε) : (call : App.Call ε) → call.Reply
  | .chat call => world.chat call
  | .engine .build => world.build.mapError .execution
  | .engine (.run engine sql) => (world.run engine sql).mapError .execution

/-- What running a statement gives, with the calls for it: the engine that is there runs it, or one
is built first. -/
def execute (world : World ε) (engine? : Option ε) (sql : Sql.Statement) :
    List (EngineCall ε) × Except Text ResultSet :=
  match engine? with
  | some engine => ([.run engine sql], world.run engine sql)
  | none =>
    match world.build with
    | .error message => ([.build], .error message)
    | .ok engine => ([.build, .run engine sql], world.run engine sql)

end World

/-- What a reply of the model amounts to: the sanitized text of the model, or the statement of the
rules when the model fails in any other way than by its quota. -/
inductive Proposes (question : Text) : ChatReply → Draft → Prop
  | sanitized {text : Text} {sql : Sql.Statement} (h : Policy.strict.sanitize text = .ok sql) :
      Proposes question (.ok text) ⟨sql, false⟩
  | rules {e : ChatError} (h : e.isQuotaExceeded = false) :
      Proposes question (.error e) ⟨heuristicSql question, true⟩

/-- What can come of a question. -/
inductive Outcome (ε : Type) where
  /-- the quota of the model is exhausted -/
  | exhausted (e : ChatError)
  /-- the text of the model is not acceptable -/
  | unusable (v : Violation)
  /-- the statement is refused before it is run -/
  | refused (v : Violation)
  /-- an engine fails -/
  | failed (calls : List (EngineCall ε)) (message : Text)
  /-- there are rows -/
  | answered (calls : List (EngineCall ε)) (draft : Draft) (rows : ResultSet)

namespace Outcome

def status : Outcome ε → Nat
  | .exhausted _ => 503
  | .unusable _ | .refused _ => 400
  | .failed .. => 500
  | .answered .. => 200

/-- What the body of the response says. There is a warning in mock mode only. -/
def content (settings : Settings) : Outcome ε → Json
  | .exhausted e => .obj [("detail", .str ("LLM quota exceeded: " ++ e.message))]
  | .unusable v => .obj [("detail", .str ("Generated SQL not allowed: " ++ v.message))]
  | .refused v => .obj [("detail", .str ("Safety check failed: " ++ v.message))]
  | .failed _ message => .obj [("detail", .str ("Execution failed: " ++ message))]
  | .answered _ draft rows => .obj (("sql", .str draft.sql.text) :: ("rows", rows.toJson) ::
      ("mocked", .bool (settings.mockMode || draft.heuristic)) ::
      if settings.mockMode then
        [("warning", .str "Mock mode enabled: using heuristic translation + sample data")]
      else [])

/-- What the question gets. -/
def result (settings : Settings) : Outcome ε → Except Refusal Answer
  | .exhausted e => .error (.serviceUnavailable ("LLM quota exceeded: " ++ e.message))
  | .unusable v => .error (.badRequest ("Generated SQL not allowed: " ++ v.message))
  | .refused v => .error (.badRequest ("Safety check failed: " ++ v.message))
  | .failed _ message => .error (.internal ("Execution failed: " ++ message))
  | .answered _ draft rows => .ok (Question.answerOf settings draft rows)

theorem ofResult_result (settings : Settings) (outcome : Outcome ε) :
    Response.ofResult ((outcome.result settings).map Answer.toJson) =
      .json outcome.status (outcome.content settings) := by
  cases outcome with
  | answered calls draft rows =>
    have hanswer : (Question.answerOf settings draft rows).toJson =
        (Outcome.answered calls draft rows).content settings := by
      rw [Question.answerOf, content]
      cases settings.mockMode <;> rfl
    rw [← hanswer]
    rfl
  | _ => rfl

/-- The calls about engines. -/
def engineCalls : Outcome ε → List (EngineCall ε)
  | .exhausted _ | .unusable _ | .refused _ => []
  | .failed calls _ | .answered calls _ _ => calls

end Outcome

/-- What comes of a proposed statement. -/
inductive Runs (world : World ε) (draft : Draft) : Executor ε → Outcome ε → Prop
  | sampled : Runs world draft .simulated (.answered [] draft (Sample.respond draft.sql.text))
  | refused {engine? : Option ε} {v : Violation}
      (hcheck : Policy.standard.check draft.sql.text = .error v) :
      Runs world draft (.real engine?) (.refused v)
  | failed {engine? : Option ε} {calls : List (EngineCall ε)} {message : Text}
      (hcheck : Policy.standard.check draft.sql.text = .ok ())
      (hrun : world.execute engine? draft.sql = (calls, .error message)) :
      Runs world draft (.real engine?) (.failed calls message)
  | answered {engine? : Option ε} {calls : List (EngineCall ε)} {rows : ResultSet}
      (hcheck : Policy.standard.check draft.sql.text = .ok ())
      (hrun : world.execute engine? draft.sql = (calls, .ok rows)) :
      Runs world draft (.real engine?) (.answered calls draft rows)

/-- What comes of a question with a reply of the model. -/
inductive Occurs (world : World ε) (executor : Executor ε) (question : Text) :
    ChatReply → Outcome ε → Prop
  | exhausted {e : ChatError} (h : e.isQuotaExceeded = true) :
      Occurs world executor question (.error e) (.exhausted e)
  | unusable {text : Text} {v : Violation} (h : Policy.strict.sanitize text = .error v) :
      Occurs world executor question (.ok text) (.unusable v)
  | proposed {reply : ChatReply} {draft : Draft} {outcome : Outcome ε}
      (hdraft : Proposes question reply draft) (hruns : Runs world draft executor outcome) :
      Occurs world executor question reply outcome

variable {world : World ε} {executor : Executor ε} {question : Text} {reply : ChatReply}
  {draft : Draft} {outcome outcome' : Outcome ε}

/-! ## Exactly one outcome -/

/-- The drafter makes a draft of what a reply proposes, and of nothing else. -/
theorem judge_eq_ok_iff :
    Drafter.judge question reply = .ok draft ↔ Proposes question reply draft := by
  constructor
  · intro h
    cases reply with
    | ok text =>
      cases hsanitize : Policy.strict.sanitize text with
      | error v => simp [Drafter.judge, hsanitize] at h
      | ok sql =>
        simp only [Drafter.judge, hsanitize, Except.ok.injEq] at h
        exact h ▸ .sanitized hsanitize
    | error e =>
      cases hquota : e.isQuotaExceeded with
      | true => simp [Drafter.judge, hquota] at h
      | false =>
        simp only [Drafter.judge, hquota, Bool.false_eq_true, if_false, Except.ok.injEq] at h
        exact h ▸ .rules hquota
  · intro h
    cases h with
    | sanitized h => simp [Drafter.judge, h]
    | rules h => simp [Drafter.judge, h, Draft.byRules]

theorem Proposes.unique {draft' : Draft} (h : Proposes question reply draft)
    (h' : Proposes question reply draft') : draft = draft' :=
  Except.ok.inj ((judge_eq_ok_iff.mpr h).symm.trans (judge_eq_ok_iff.mpr h'))

theorem Runs.unique (h : Runs world draft executor outcome)
    (h' : Runs world draft executor outcome') : outcome = outcome' := by
  cases h with
  | sampled =>
    cases h' with
    | sampled => rfl
  | refused hcheck =>
    cases h' with
    | refused hcheck' =>
      obtain rfl := Except.error.inj (hcheck.symm.trans hcheck')
      rfl
    | failed hcheck' => cases hcheck.symm.trans hcheck'
    | answered hcheck' => cases hcheck.symm.trans hcheck'
  | failed hcheck hrun =>
    cases h' with
    | refused hcheck' => cases hcheck.symm.trans hcheck'
    | failed hcheck' hrun' =>
      cases hrun.symm.trans hrun'
      rfl
    | answered hcheck' hrun' => cases hrun.symm.trans hrun'
  | answered hcheck hrun =>
    cases h' with
    | refused hcheck' => cases hcheck.symm.trans hcheck'
    | failed hcheck' hrun' => cases hrun.symm.trans hrun'
    | answered hcheck' hrun' =>
      cases hrun.symm.trans hrun'
      rfl

theorem Occurs.unique (h : Occurs world executor question reply outcome)
    (h' : Occurs world executor question reply outcome') : outcome = outcome' := by
  cases h with
  | exhausted h =>
    cases h' with
    | exhausted => rfl
    | proposed hdraft =>
      cases hdraft with
      | rules hquota => cases h.symm.trans hquota
  | unusable h =>
    cases h' with
    | unusable h' =>
      obtain rfl := Except.error.inj (h.symm.trans h')
      rfl
    | proposed hdraft =>
      cases hdraft with
      | sanitized hsanitize => cases h.symm.trans hsanitize
  | proposed hdraft hruns =>
    cases h' with
    | exhausted h' =>
      cases hdraft with
      | rules hquota => cases h'.symm.trans hquota
    | unusable h' =>
      cases hdraft with
      | sanitized hsanitize => cases h'.symm.trans hsanitize
    | proposed hdraft' hruns' =>
      obtain rfl := hdraft.unique hdraft'
      exact hruns.unique hruns'

theorem exists_runs (world : World ε) (draft : Draft) (executor : Executor ε) :
    ∃ outcome, Runs world draft executor outcome := by
  cases executor with
  | simulated => exact ⟨_, .sampled⟩
  | real engine? =>
    cases hcheck : Policy.standard.check draft.sql.text with
    | error v => exact ⟨_, .refused hcheck⟩
    | ok _ =>
      cases hrun : world.execute engine? draft.sql with
      | mk calls result =>
        cases result with
        | error message => exact ⟨_, .failed hcheck hrun⟩
        | ok rows => exact ⟨_, .answered hcheck hrun⟩

theorem exists_occurs (world : World ε) (executor : Executor ε) (question : Text)
    (reply : ChatReply) : ∃ outcome, Occurs world executor question reply outcome := by
  have hproposed {draft : Draft} (hdraft : Proposes question reply draft) :
      ∃ outcome, Occurs world executor question reply outcome := by
    obtain ⟨outcome, hruns⟩ := exists_runs world draft executor
    exact ⟨outcome, .proposed hdraft hruns⟩
  cases reply with
  | ok text =>
    cases hsanitize : Policy.strict.sanitize text with
    | error v => exact ⟨_, .unusable hsanitize⟩
    | ok sql => exact hproposed (.sanitized hsanitize)
  | error e =>
    cases hquota : e.isQuotaExceeded with
    | true => exact ⟨_, .exhausted hquota⟩
    | false => exact hproposed (.rules hquota)

/-! ## What the program does -/

/-- A proposed statement begins like a query, so it is handed to the executor. -/
theorem Proposes.isSelect (h : Proposes question reply draft) : draft.sql.isSelect = true := by
  cases h with
  | sanitized h => exact Policy.isSelect_of_check (Policy.check_of_sanitize h).2
  | rules => exact (classify question).isSelect_toSql

/-- The dialogue about a question begins with one call to the model. -/
theorem resolve_model (settings : Settings) (system : Text) (executor : Executor ε)
    (question : Text) :
    Question.resolve ⟨settings, .model system, executor⟩ question =
      .ask (.chat ⟨system, question⟩) fun reply =>
        match Drafter.judge question reply with
        | .ok draft => Question.runDraft ⟨settings, .model system, executor⟩ draft
        | .error e =>
          .done (.error (Question.draftRefusal e), ⟨settings, .model system, executor⟩) := rfl

/-- Without an engine one is built, and runs an acceptable statement. -/
theorem withEngine_execute_none {sql : Sql.Statement}
    (hcheck : Policy.standard.check sql.text = .ok ()) :
    App.withEngine ((Executor.real (none : Option ε)).execute sql) =
      .ask (.engine .build) fun
        | .error e => .done (.error e, .real none)
        | .ok engine =>
          .ask (.engine (.run engine sql)) fun rows => .done (rows, .real (some engine)) := by
  simp only [Executor.execute, hcheck]
  exact congrArg (Dialogue.ask _) (funext fun reply => by cases reply <;> rfl)

/-- An acceptable statement is run as the world runs it. -/
theorem play_execute (world : World ε) (engine? : Option ε) {sql : Sql.Statement}
    (hcheck : Policy.standard.check sql.text = .ok ()) :
    ∃ after, play world.answer (App.withEngine ((Executor.real engine?).execute sql)) =
      ((world.execute engine? sql).1.map .engine,
        (world.execute engine? sql).2.mapError .execution, .real after) := by
  cases engine? with
  | some engine =>
    refine ⟨some engine, ?_⟩
    simp only [Executor.execute, hcheck]
    rfl
  | none =>
    rw [withEngine_execute_none hcheck]
    cases hbuild : world.build with
    | error message =>
      exact ⟨none, by simp [play, World.answer, World.execute, hbuild, Except.mapError]⟩
    | ok engine =>
      exact ⟨some engine, by simp [play, World.answer, World.execute, hbuild, Except.mapError]⟩

/-- A proposed statement leads to its outcome. -/
theorem play_runDraft (settings : Settings) (drafter : Drafter)
    (hselect : draft.sql.isSelect = true) (h : Runs world draft executor outcome) :
    ∃ after, play world.answer (Question.runDraft ⟨settings, drafter, executor⟩ draft) =
      (outcome.engineCalls.map .engine, outcome.result settings, ⟨settings, drafter, after⟩) := by
  rw [Question.runDraft, if_pos hselect, play_bind]
  cases h with
  | sampled => exact ⟨.simulated, rfl⟩
  | @refused engine? v hcheck =>
    refine ⟨.real engine?, ?_⟩
    rw [Executor.execute_refused hcheck]
    rfl
  | @failed engine? calls message hcheck hrun =>
    obtain ⟨after, hplay⟩ := play_execute world engine? hcheck
    refine ⟨.real after, ?_⟩
    rw [hplay, hrun]
    simp [Except.mapError, play, Outcome.engineCalls, Outcome.result, Question.executionRefusal]
  | @answered engine? calls rows hcheck hrun =>
    obtain ⟨after, hplay⟩ := play_execute world engine? hcheck
    refine ⟨.real after, ?_⟩
    rw [hplay, hrun]
    simp [Except.mapError, play, Outcome.engineCalls, Outcome.result]

/-- A question leads to its outcome: after the call to the model, the calls of the outcome are made,
and the response is that of the outcome. -/
theorem play_resolve_of_occurs (settings : Settings) {system : Text}
    (h : Occurs world executor question (world.chat ⟨system, question⟩) outcome) :
    ∃ after, play world.answer (Question.resolve ⟨settings, .model system, executor⟩ question) =
      (.chat ⟨system, question⟩ :: outcome.engineCalls.map .engine, outcome.result settings,
        ⟨settings, .model system, after⟩) := by
  rw [resolve_model, play]
  generalize hreply : world.chat ⟨system, question⟩ = reply at h
  have hanswer : world.answer (.chat ⟨system, question⟩) = reply := hreply
  rw [hanswer]
  cases h with
  | exhausted hquota =>
    refine ⟨executor, ?_⟩
    simp [Drafter.judge, hquota, play, Question.draftRefusal, Outcome.engineCalls, Outcome.result]
  | unusable hsanitize =>
    refine ⟨executor, ?_⟩
    simp [Drafter.judge, hsanitize, play, Question.draftRefusal, Outcome.engineCalls,
      Outcome.result]
  | proposed hdraft hruns =>
    obtain ⟨after, hplay⟩ := play_runDraft settings (.model system) hdraft.isSelect hruns
    refine ⟨after, ?_⟩
    simp only [judge_eq_ok_iff.mpr hdraft, hplay]

/-- With the sample no engine fails. -/
theorem Occurs.status_ne (h : Occurs world executor question reply outcome)
    (hsim : executor.isSimulated = true) : outcome.status ≠ 500 := by
  cases h with
  | exhausted => simp [Outcome.status]
  | unusable => simp [Outcome.status]
  | proposed hdraft hruns =>
    cases hruns with
    | sampled => simp [Outcome.status]
    | refused => cases hsim
    | failed => cases hsim
    | answered => cases hsim

/-- Of every question of an acceptable length that is put to the model, exactly one outcome occurs.
The model is called once, the calls about engines are those of the outcome, and the response has
its status and its content. With the sample no engine fails. -/
theorem existsUnique_outcome (world : World ε) (settings : Settings) (system : Text)
    (executor : Executor ε) {path body question : Text}
    (hpath : Page.ofPath? path = some .question) (hbody : Question.Accepts body question) :
    (∃! outcome, Occurs world executor question (world.chat ⟨system, question⟩) outcome) ∧
      ∀ outcome, Occurs world executor question (world.chat ⟨system, question⟩) outcome →
        (∃ after, play world.answer (route ⟨settings, .model system, executor⟩ "POST" path body) =
          (.chat ⟨system, question⟩ :: outcome.engineCalls.map .engine,
            .json outcome.status (outcome.content settings),
            ⟨settings, .model system, after⟩)) ∧
          (executor.isSimulated = true → outcome.status ≠ 500) := by
  constructor
  · obtain ⟨outcome, h⟩ :=
      exists_occurs world executor question (world.chat ⟨system, question⟩)
    exact ⟨outcome, h, fun other hother => Occurs.unique hother h⟩
  · intro outcome h
    obtain ⟨after, hplay⟩ := play_resolve_of_occurs settings h
    refine ⟨⟨after, ?_⟩, h.status_ne⟩
    rw [route_of_accepts hpath hbody, play_bind, hplay, ← outcome.ofResult_result]
    simp [play]

/-- The model replies with a statement and a semicolon, and the engine that is built for it fails. -/
theorem existsUnique_outcome_failed :
    Page.ofPath? "/nl-query" = some .question ∧
    Question.Accepts (Question.writeText "Count all users") "Count all users" ∧
    ∃ after, play
        (World.answer ⟨fun _ => .ok "SELECT count(*) FROM default.MOCK_DATA;", .ok (),
          fun _ _ => .error "timeout"⟩)
        (route (⟨{}, .model "system", .real none⟩ : App Unit) "POST" "/nl-query"
          (Question.writeText "Count all users")) =
      ([.chat ⟨"system", "Count all users"⟩, .engine .build,
          .engine (.run () ⟨"SELECT count(*) FROM default.MOCK_DATA"⟩)],
        .json 500 (.obj [("detail", .str "Execution failed: timeout")]),
        ⟨{}, .model "system", after⟩) := by
  let world : World Unit := ⟨fun _ => .ok "SELECT count(*) FROM default.MOCK_DATA;", .ok (),
    fun _ _ => .error "timeout"⟩
  have hpath : Page.ofPath? "/nl-query" = some .question := by decide
  have hbody : Question.Accepts (Question.writeText "Count all users") "Count all users" :=
    ⟨rfl, by decide, by decide⟩
  have hsanitize : Policy.strict.sanitize "SELECT count(*) FROM default.MOCK_DATA;" =
      .ok ⟨"SELECT count(*) FROM default.MOCK_DATA"⟩ := by decide +kernel
  have hcheck : Policy.standard.check "SELECT count(*) FROM default.MOCK_DATA" = .ok () := by
    decide +kernel
  have hruns : Runs world ⟨⟨"SELECT count(*) FROM default.MOCK_DATA"⟩, false⟩ (.real none)
      (.failed [.build, .run () ⟨"SELECT count(*) FROM default.MOCK_DATA"⟩] "timeout") :=
    .failed hcheck rfl
  have houtcome := (existsUnique_outcome world {} "system" (.real none) hpath hbody).2 _
    (.proposed (.sanitized hsanitize) hruns)
  exact ⟨hpath, hbody, houtcome.1⟩

end AskTable.Api
