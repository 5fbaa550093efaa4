import AskTable.Evals.Report
import AskTable.Proofs.Api.MockMode
import AskTable.Proofs.Json.ReadBack
import AskTable.Proofs.Json.TextRecord
/-!
# Evaluations in mock mode

An evaluation asks its questions as any client does: a question is written as a body, the body is
routed, and the statement is read from the body of the response. In mock mode nothing is lost on the
way. The question that is translated is the one of the case, and the text that is matched is the
statement of the rules, whatever characters the question has. So the report tells of each case what
its question and its pattern alone decide, with any library of patterns.

## Main definitions

* `Evals.statusOf` - what a question and a pattern come to
* `Evals.Settles` - the result of a case, by its question and its pattern alone
* `Evals.Reports` - the report about cases, or the error of the first whose pattern is not compiled

## Main results

* `Api.readsBack_mockAnswer` - every answer in mock mode is read back
* `Evals.runCase_mockMode` - one case in mock mode
* `Evals.run_mockMode` - all cases in mock mode
-/

namespace AskTable

open Json (ReadsBack)

/-! ## Answers as they are read back -/

namespace Sample

variable {depth : Nat}

theorem readsBack_single {value : Json} (column : Text) (h : ReadsBack (depth + 1) value) :
    ∀ row ∈ single column value, ReadsBack (depth + 2) (.obj row) := by
  rw [single, List.forall_mem_singleton]
  refine Json.readsBack_obj ?_ ?_
  · exact List.nodup_singleton column
  · rwa [List.forall_mem_singleton]

theorem readsBack_row {id age balance : Nat} (name email signupDate country plan lastLogin : Text)
    (isActive : Bool) (hid : id < Json.significandBound) (hage : age < Json.significandBound)
    (hbalance : balance < Json.significandBound) :
    ReadsBack (depth + 2)
      (.obj (row id name email age signupDate country isActive plan lastLogin balance)) := by
  have hnat {n : Nat} (h : n < Json.significandBound) : ReadsBack (depth + 1) (.int n) :=
    Json.readsBack_int (by omega) (Int.ofNat_lt.mpr h)
  have hstr (t : Text) : ReadsBack (depth + 1) (.str t) := Json.readsBack_str t
  have hkeys : (["id", "name", "email", "age", "signup_date", "country", "is_active",
      "subscription_plane", "last_login", "balance"] : List Text).Nodup := by decide
  refine Json.readsBack_obj hkeys ?_
  simp only [row, List.forall_mem_cons]
  exact ⟨hnat hid, hstr _, hstr _, hnat hage, hstr _, hstr _, Json.readsBack_bool _, hstr _, hstr _,
    hnat hbalance, List.forall_mem_nil _⟩

theorem readsBack_rows : ∀ row ∈ rows, ReadsBack (depth + 2) (.obj row) := by
  simp only [rows, List.forall_mem_cons]
  exact ⟨readsBack_row _ _ _ _ _ _ _ (by decide) (by decide) (by decide),
    readsBack_row _ _ _ _ _ _ _ (by decide) (by decide) (by decide),
    readsBack_row _ _ _ _ _ _ _ (by decide) (by decide) (by decide), List.forall_mem_nil _⟩

/-- The two numbers of the sample that are no integers are read back. -/
theorem readsBack_numbers :
    ReadsBack (depth + 1) (.ofBinary64? (Binary64.ofRatio? false 4750 1)) ∧
      ReadsBack (depth + 1) (.ofBinary64? (Binary64.ofRatio? false 158333 100)) := by
  have hsum : Binary64.ofRatio? false 4750 1 = some ⟨false, 5222680231936000, -40⟩ := by
    decide +kernel
  have haverage : Binary64.ofRatio? false 158333 100 = some ⟨false, 6963558982426296, -42⟩ := by
    decide +kernel
  rw [hsum, haverage]
  exact ⟨Json.readsBack_float (by decide +kernel) (Json.isWhole_ofNat 4750) (Json.isDigits_ofNat 0)
      (by decide +kernel) (by decide +kernel) rfl,
    Json.readsBack_float (by decide +kernel) (Json.isWhole_ofNat 1583) (Json.isDigits_ofNat 33)
      (by decide +kernel) (by decide +kernel) rfl⟩

end Sample

theorem Intent.readsBack_sampleRows {depth : Nat} (intent : Intent) :
    ∀ row ∈ intent.sampleRows, ReadsBack (depth + 2) (.obj row) := by
  have hcount : ReadsBack (depth + 1) (.int 3) := Json.readsBack_int (by decide) (by decide)
  unfold Intent.sampleRows
  split
  -- The rules that count come to the same rows, and so do those that list rows.
  any_goals exact Sample.readsBack_single "count" hcount
  · exact Sample.readsBack_single "avg" Sample.readsBack_numbers.2
  · exact Sample.readsBack_single "sum" Sample.readsBack_numbers.1
  · exact Sample.readsBack_rows

/-- Every answer in mock mode is read back. -/
theorem Api.readsBack_mockAnswer (question : Text) :
    ReadsBack Json.startDepth (mockAnswer question).toJson := by
  have hkeys : (["sql", "rows", "mocked", "warning"] : List Text).Nodup := by decide
  have hrows : ReadsBack (Json.startDepth - 1) (mockAnswer question).rows.toJson :=
    Json.readsBack_arr
      (List.forall_mem_map.mpr (Intent.readsBack_sampleRows (classify question)))
  change ReadsBack _ (.obj [("sql", .str (mockAnswer question).sql.text),
    ("rows", (mockAnswer question).rows.toJson), ("mocked", .bool true),
    ("warning", .str Question.mockWarning)])
  refine Json.readsBack_obj hkeys ?_
  simp only [List.forall_mem_cons]
  exact ⟨Json.readsBack_str _, hrows, Json.readsBack_bool true, Json.readsBack_str _,
    List.forall_mem_nil _⟩

/-- The body that is written for a question holds it. -/
theorem Api.Question.parse_writeText (question : Text) :
    shape.parse (writeText question) = .ok (.obj [("question", .str question)]) :=
  Json.Schema.parse_print_record _ _ question

namespace Evals

open Api (mockAnswer)

variable {ε π : Type} {matcher : Matcher π} {files : Files} {settings : Settings} {case : Case}
  {cases : List Case} {pattern : π} {question : Text}

/-! ## One case -/

/-- What a question and a pattern come to. -/
def statusOf (matcher : Matcher π) (pattern : π) (question : Text) : Text :=
  if question.length < 3 ∨ 500 < question.length then "error"
  else if matcher.isMatch pattern (heuristicSql question).text then "pass"
  else "fail"

/-- The result is that of the case, as the question and the pattern of the case decide it. The case
of letters does not count in the pattern. -/
structure Settles (matcher : Matcher π) (case : Case) (result : Result) : Prop where
  id_eq : result.id = case.id
  status_eq : ∃ pattern, matcher.compile true case.pattern = .ok pattern ∧
    result.verdict.status = statusOf matcher pattern case.question

theorem Verdict.status_eq_pass_iff {verdict : Verdict} :
    verdict.status = "pass" ↔ verdict.isPass = true := by
  cases verdict with
  | refused body => exact iff_of_false (by decide : ("error" : Text) ≠ "pass") Bool.false_ne_true
  | answered passed sql rows mocked =>
    cases passed with
    | true => exact iff_of_true rfl rfl
    | false => exact iff_of_false (by decide : ("fail" : Text) ≠ "pass") Bool.false_ne_true

/-- The verdict on an answer in mock mode is that on its statement. -/
theorem judge_mockAnswer (matcher : Matcher π) (pattern : π) (question : Text) :
    judge matcher pattern (.json 200 (mockAnswer question).toJson) =
      .ok (.answered (matcher.isMatch pattern (heuristicSql question).text)
        (heuristicSql question).text (some (mockAnswer question).rows.toJson) (some true)) := by
  have hanswered : ¬ (Api.Response.json 200 (mockAnswer question).toJson).status ≠ 200 :=
    fun h => h rfl
  have hparse : Json.parse (Api.Response.json 200 (mockAnswer question).toJson).body =
      .ok (mockAnswer question).toJson := (Api.readsBack_mockAnswer question).parse_print
  rw [judge, if_neg hanswered, hparse]
  change Except.ok
    (Verdict.answered (matcher.isMatch pattern (heuristicSql question).text && true) _ _ _) = _
  rw [Bool.and_true]
  rfl

theorem readPattern_of_ok (h : matcher.compile true case.pattern = .ok pattern) :
    readPattern matcher case = .ok pattern := by
  rw [readPattern, h]

/-- A pattern that is not compiled is an error that names the case. -/
theorem readPattern_of_error {detail : Text}
    (h : matcher.compile true case.pattern = .error detail) : readPattern matcher case =
      .error (.config ("case " ++ case.id ++ ": invalid regex: " ++ detail)) := by
  rw [readPattern, h]

/-- A question out of range is refused. -/
theorem runCase_of_rejects (app : App ε) (hpattern : matcher.compile true case.pattern = .ok pattern)
    {refusal : Api.Refusal}
    (h : Api.Question.Rejects (Api.Question.writeText case.question) refusal) :
    ∃ body, runCase matcher app case = .done (.ok ⟨case.id, .refused body⟩, app) := by
  have hpath : Api.Page.ofPath? "/nl-query" = some .question := by decide
  refine ⟨(Api.Response.json 422 refusal.toJson).body, ?_⟩
  rw [runCase, readPattern_of_ok hpattern]
  change (Api.route app "POST" "/nl-query" _ >>= _) = _
  rw [Api.route_of_rejects hpath h app]
  rfl

/-- A question in range is answered. -/
theorem runCase_of_accepts (hmock : settings.mockMode = true)
    (hpattern : matcher.compile true case.pattern = .ok pattern)
    (h : Api.Question.Accepts (Api.Question.writeText case.question) case.question) :
    runCase matcher (⟨settings, .rules, .simulated⟩ : App ε) case =
      .done (.ok ⟨case.id, .answered (matcher.isMatch pattern (heuristicSql case.question).text)
        (heuristicSql case.question).text (some (mockAnswer case.question).rows.toJson)
        (some true)⟩, ⟨settings, .rules, .simulated⟩) := by
  have hpath : Api.Page.ofPath? "/nl-query" = some .question := by decide
  rw [runCase, readPattern_of_ok hpattern]
  change (Api.route _ "POST" "/nl-query" _ >>= _) = _
  rw [Api.route_of_accepts hpath h, Api.resolve_mockMode hmock]
  change Dialogue.done
    ((judge matcher pattern (.json 200 (mockAnswer case.question).toJson)).map _, _) = _
  rw [judge_mockAnswer]
  rfl

/-- One case in mock mode. -/
theorem runCase_mockMode (hmock : settings.mockMode = true)
    (hpattern : matcher.compile true case.pattern = .ok pattern) :
    ∃ result, runCase matcher (⟨settings, .rules, .simulated⟩ : App ε) case =
      .done (.ok result, ⟨settings, .rules, .simulated⟩) ∧ Settles matcher case result := by
  have hparse := Api.Question.parse_writeText case.question
  by_cases hrange : case.question.length < 3 ∨ 500 < case.question.length
  · obtain ⟨refusal, hrejects⟩ :
        ∃ refusal, Api.Question.Rejects (Api.Question.writeText case.question) refusal := by
      rcases hrange with hshort | hlong
      · exact ⟨_, .short hparse hshort⟩
      · exact ⟨_, .long hparse hlong⟩
    obtain ⟨body, hrun⟩ := runCase_of_rejects ⟨settings, .rules, .simulated⟩ hpattern hrejects
    refine ⟨_, hrun, rfl, pattern, hpattern, ?_⟩
    rw [statusOf, if_pos hrange]
    rfl
  · obtain ⟨hleast, hmost⟩ := not_or.mp hrange
    have hrun := runCase_of_accepts (ε := ε) hmock hpattern
      ⟨hparse, Nat.not_lt.mp hleast, Nat.not_lt.mp hmost⟩
    refine ⟨_, hrun, rfl, pattern, hpattern, ?_⟩
    rw [statusOf, if_neg hrange]
    cases matcher.isMatch pattern (heuristicSql case.question).text <;> rfl

/-! ## All cases -/

/-- What the cases came to, by name. -/
def Report.statuses (report : Report) : List Text :=
  report.results.map fun result => result.verdict.status

/-- What an evaluation comes to. The first case whose pattern is not compiled ends it with an error
that names the case. If there is none, the report has the results of the cases, in order, and counts
them. -/
inductive Reports (matcher : Matcher π) (cases : List Case) : Except Error Report → Prop
  | uncompiled {before after : List Case} {case : Case} {detail : Text}
      (hcases : cases = before ++ case :: after)
      (hbefore : ∀ c ∈ before, ∃ pattern, matcher.compile true c.pattern = .ok pattern)
      (h : matcher.compile true case.pattern = .error detail) :
      Reports matcher cases
        (.error (.config ("case " ++ case.id ++ ": invalid regex: " ++ detail)))
  | judged {report : Report} (hresults : List.Forall₂ (Settles matcher) cases report.results)
      (htotal : report.total = cases.length)
      (hpassed : report.passed = report.statuses.count ("pass" : Text))
      (hsum : report.passed + report.failed = report.total)
      (hall : report.allPassed = true ↔ ∀ status ∈ report.statuses, status = "pass") :
      Reports matcher cases (.ok report)

/-- What the cases came to is computed from the cases. -/
theorem map_ok_statuses {report : Report}
    (h : List.Forall₂ (Settles matcher) cases report.results) :
    report.statuses.map .ok = cases.map fun case =>
      (matcher.compile true case.pattern).map (statusOf matcher · case.question) := by
  rw [Report.statuses, List.map_map]
  generalize report.results = results at h ⊢
  induction h with
  | nil => rfl
  | cons hsettles _ ih =>
    obtain ⟨pattern, hpattern, hstatus⟩ := hsettles.status_eq
    rw [List.map_cons, List.map_cons, ih, hpattern, Function.comp_apply, hstatus]
    rfl

/-- The numbers of a report are those of its results. -/
theorem reports_of_forall₂ {results : List Result} (h : List.Forall₂ (Settles matcher) cases results) :
    Reports matcher cases (.ok ⟨results⟩) := by
  refine .judged h h.length_eq.symm ?_ (Report.passed_add_failed _) ?_
  · rw [Report.passed, Report.statuses, List.count, List.countP_map]
    refine List.countP_congr fun result _ => ?_
    rw [Function.comp_apply, beq_iff_eq, Verdict.status_eq_pass_iff]
  · rw [Report.allPassed, decide_eq_true_iff, Report.passed, Report.total, List.countP_eq_length,
      Report.statuses, List.forall_mem_map]
    simp only [Verdict.status_eq_pass_iff]

/-- A case whose pattern is compiled leaves the report to the others. -/
theorem Reports.cons {results : Except Error (List Result)} {result : Result}
    (hresult : Settles matcher case result) (h : Reports matcher cases (results.map Report.mk)) :
    Reports matcher (case :: cases) ((results.map (result :: ·)).map Report.mk) := by
  cases results with
  | ok results =>
    have hreport : Reports matcher cases (.ok ⟨results⟩) := h
    cases hreport with
    | judged hresults => exact reports_of_forall₂ (.cons hresult hresults)
  | error e =>
    have herror : Reports matcher cases (.error e) := h
    cases herror with
    | @uncompiled before after other detail hcases hbefore hother =>
      obtain ⟨pattern, hpattern, -⟩ := hresult.status_eq
      have hsplit : case :: cases = (case :: before) ++ other :: after := by
        rw [hcases, List.cons_append]
      exact .uncompiled hsplit (List.forall_mem_cons.mpr ⟨⟨pattern, hpattern⟩, hbefore⟩) hother

/-- Cases in mock mode, one after another. -/
theorem runCases_mockMode (matcher : Matcher π) (hmock : settings.mockMode = true)
    (cases : List Case) :
    ∃ results, runCases matcher (⟨settings, .rules, .simulated⟩ : App ε) cases =
        .done (results, ⟨settings, .rules, .simulated⟩) ∧
      Reports matcher cases (results.map Report.mk) := by
  induction cases with
  | nil => exact ⟨.ok [], rfl, reports_of_forall₂ .nil⟩
  | cons case cases ih =>
    obtain ⟨results, hresults, hreports⟩ := ih
    cases hpattern : matcher.compile true case.pattern with
    | error detail =>
      refine ⟨.error _, ?_, .uncompiled rfl (List.forall_mem_nil _) hpattern⟩
      rw [runCases, runCase, readPattern_of_error hpattern]
      rfl
    | ok pattern =>
      obtain ⟨result, hresult, hsettles⟩ := runCase_mockMode (ε := ε) hmock hpattern
      refine ⟨results.map (result :: ·), ?_, .cons hsettles hreports⟩
      rw [runCases, hresult, Dialogue.bind_done]
      change (runCases matcher _ cases >>= _) = _
      rw [hresults]
      rfl

/-- Cases in mock mode, with any library of patterns. Nothing is asked of the world outside, and
each question is judged as it stands. -/
theorem run_mockMode (matcher : Matcher π) (files : Files) (hmock : settings.mockMode = true) :
    ∃ app : App ε, App.ofSettings files settings = .ok app ∧
      ∀ cases, ∃ result, run matcher app cases = .done (result, app) ∧
        Reports matcher cases result := by
  refine ⟨_, Api.ofSettings_mockMode files hmock, fun cases => ?_⟩
  obtain ⟨results, hresults, hreports⟩ := runCases_mockMode (ε := ε) matcher hmock cases
  refine ⟨_, ?_, hreports⟩
  rw [run, hresults]
  rfl

/-- The text that a pattern without operators stands for. Signs that could be operators follow a
backslash. -/
def literal? : Text → Option Text
  | [] => some []
  | '\\' :: c :: t => if c.isAlphanum then none else (literal? t).map (c :: ·)
  | c :: t =>
    if c.isAlphanum || c = ' ' || c = '_' then (literal? t).map (c :: ·) else none

/-- A library of patterns without operators. -/
def literals : Matcher (Bool × Text) where
  compile ignoreCase t := match literal? t with
    | some part => .ok (ignoreCase, if ignoreCase then part.map Char.toLower else part)
    | none => .error "operators are not supported"
  isMatch pattern t :=
    Text.includes (if pattern.1 then t.map Char.toLower else t) pattern.2

/-- A case that passes, one whose statement is another, and one whose question is too short. -/
theorem run_mockMode_three_cases :
    let cases : List Case :=
      [⟨"count", "Count all users", "select count\\(\\*\\) from default\\.mock_data"⟩,
        ⟨"wrong", "Show the first 5 users", "LIMIT 10"⟩, ⟨"short", "Hi", "count"⟩]
    ({} : Settings).mockMode = true ∧
      ∃ app : App Unit, App.ofSettings (fun _ => .error .missing) {} = .ok app ∧
        ∃ report, run literals app cases = .done (.ok report, app) ∧
          report.statuses = ["pass", "fail", "error"] := by
  intro cases
  obtain ⟨app, happ, hrun⟩ := @run_mockMode Unit _ {} literals (fun _ => .error .missing) rfl
  obtain ⟨result, hresult, hreports⟩ := hrun cases
  have hcompiles : cases.all (fun case => (literals.compile true case.pattern).isOk) = true := by
    decide +kernel
  refine ⟨rfl, app, happ, ?_⟩
  generalize hcases : cases = all at hreports
  cases hreports with
  | uncompiled hsplit _ herror =>
    have hmem : _ ∈ cases := hcases ▸ hsplit ▸ List.mem_append_right _ List.mem_cons_self
    have hok := List.all_eq_true.mp hcompiles _ hmem
    rw [herror] at hok
    cases hok
  | @judged report hresults =>
    subst hcases
    have hok : Function.Injective (Except.ok : Text → Except Text Text) :=
      fun _ _ => Except.ok.inj
    refine ⟨report, hresult, List.map_injective_iff.mpr hok ?_⟩
    rw [map_ok_statuses hresults]
    decide +kernel

end Evals

end AskTable
