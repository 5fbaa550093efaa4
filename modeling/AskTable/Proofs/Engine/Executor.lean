import AskTable.Engine.Executor
import AskTable.Proofs.Dialogue
/-!
# Executions

There are four ways in which a statement can go through a real executor. It is refused without a
call; there is no engine and none can be built; there is none, one is built and runs it; or there is
one that runs it. Which of them it is depends on the verdict of the standard policy, on whether
there is an engine, and on the reply to the call that builds one.

## Main definitions

* `Executor.Execution` - the four ways, with their calls, replies and results
* `Executor.Executes` - these ways, or the answer of the sample

## Main results

* `Executor.Execution.of_trace` - a real executor knows no other way
* `Executor.Executes.of_trace` - no executor does
-/

namespace AskTable.Executor

open Dialogue (Event Trace trace_done_iff trace_done_prod_iff trace_ask_iff trace_bind_iff)

variable {ε : Type}

/-- A statement goes through a real executor, with the engine before and the engine afterwards. -/
inductive Execution (sql : Sql.Statement) :
    Option ε → List (Event (EngineCall ε) EngineCall.Reply) → Except Error ResultSet →
      Option ε → Prop
  /-- the policy refuses it -/
  | refused (engine? : Option ε) {v : Sql.Violation}
      (hcheck : Sql.Policy.standard.check sql.text = .error v) :
      Execution sql engine? [] (.error (.sqlPolicy v.message)) engine?
  /-- there is no engine, and none can be built -/
  | unbuilt (e : Error) (hcheck : Sql.Policy.standard.check sql.text = .ok ()) :
      Execution sql none [⟨.build, .error e⟩] (.error e) none
  /-- an engine is built and runs it -/
  | built (engine : ε) (result : Except Error ResultSet)
      (hcheck : Sql.Policy.standard.check sql.text = .ok ()) :
      Execution sql none [⟨.build, .ok engine⟩, ⟨.run engine sql, result⟩] result (some engine)
  /-- the engine that is there runs it -/
  | ran (engine : ε) (result : Except Error ResultSet)
      (hcheck : Sql.Policy.standard.check sql.text = .ok ()) :
      Execution sql (some engine) [⟨.run engine sql, result⟩] result (some engine)

variable {sql : Sql.Statement} {engine? : Option ε}
  {events : List (Event (EngineCall ε) EngineCall.Reply)} {result : Except Error ResultSet}

/-- What is left of an execution once the engine is there. -/
theorem trace_run_iff {engine : ε} {executor : Executor ε} :
    Trace (do let rows ← Dialogue.call (.run engine sql); return (rows, .real (some engine)) :
        Run ε (Except Error ResultSet × Executor ε)) events (result, executor) ↔
      events = [⟨.run engine sql, result⟩] ∧ executor = .real (some engine) := by
  rw [Dialogue.call, Dialogue.bind_ask, trace_ask_iff]
  simp only [Dialogue.bind_done, Dialogue.pure_eq_done, trace_done_iff, Prod.mk.injEq]
  constructor
  · rintro ⟨reply, rest, rfl, rfl, rfl, rfl⟩
    exact ⟨rfl, rfl⟩
  · rintro ⟨rfl, rfl⟩
    exact ⟨result, [], rfl, rfl, rfl, rfl⟩

/-- A real executor stays real, and knows no way but the four. -/
theorem Execution.of_trace {executor : Executor ε}
    (h : Trace ((Executor.real engine?).execute sql) events (result, executor)) :
    ∃ after, executor = .real after ∧ Execution sql engine? events result after := by
  -- The verdict comes first, then the engine that is there, then the reply to the call for one.
  cases hcheck : Sql.Policy.standard.check sql.text with
  | error v =>
    rw [execute_refused hcheck, trace_done_prod_iff] at h
    obtain ⟨rfl, rfl, rfl⟩ := h
    exact ⟨engine?, rfl, .refused engine? hcheck⟩
  | ok _ =>
    rw [execute, hcheck] at h
    obtain ⟨before, later, obtained, rfl, hobtain, hlater⟩ := trace_bind_iff.mp h
    cases engine? with
    | some engine =>
      obtain ⟨rfl, rfl⟩ := trace_done_iff.mp hobtain
      obtain ⟨rfl, rfl⟩ := trace_run_iff.mp hlater
      exact ⟨some engine, rfl, .ran engine result hcheck⟩
    | none =>
      obtain ⟨reply, rest, rfl, hrest⟩ := trace_ask_iff.mp hobtain
      obtain ⟨rfl, rfl⟩ := trace_done_iff.mp hrest
      cases obtained with
      | error e =>
        obtain ⟨rfl, rfl, rfl⟩ := trace_done_prod_iff.mp hlater
        exact ⟨none, rfl, .unbuilt e hcheck⟩
      | ok engine =>
        obtain ⟨rfl, rfl⟩ := trace_run_iff.mp hlater
        exact ⟨some engine, rfl, .built engine result hcheck⟩

/-! ## The calls of an execution -/

/-- The statement that a call hands to an engine, if it does. -/
def statement? : Event (EngineCall ε) EngineCall.Reply → Option Sql.Statement
  | ⟨.build, _⟩ => none
  | ⟨.run _ sql, _⟩ => some sql

/-- Does the call build an engine? -/
def isBuild : Event (EngineCall ε) EngineCall.Reply → Bool
  | ⟨.build, _⟩ => true
  | ⟨.run _ _, _⟩ => false

namespace Execution

variable {after : Option ε}

/-- Only the statement itself is handed to an engine, once at most, and only if it was accepted. -/
theorem statements_cases (h : Execution sql engine? events result after) :
    events.filterMap statement? = [] ∨
      events.filterMap statement? = [sql] ∧ Sql.Policy.standard.check sql.text = .ok () := by
  cases h with
  | refused _ hcheck => exact Or.inl rfl
  | unbuilt e hcheck => exact Or.inl rfl
  | built engine result hcheck => exact Or.inr ⟨rfl, hcheck⟩
  | ran engine result hcheck => exact Or.inr ⟨rfl, hcheck⟩

/-- Rows of an execution are what an engine gave for the statement. -/
theorem exists_run_mem {rows : ResultSet} (h : Execution sql engine? events (.ok rows) after) :
    ∃ engine, ⟨.run engine sql, .ok rows⟩ ∈ events := by
  cases h with
  | built engine _ _ => exact ⟨engine, by simp⟩
  | ran engine _ _ => exact ⟨engine, by simp⟩

theorem countP_isBuild_le (h : Execution sql engine? events result after) :
    events.countP isBuild ≤ 1 := by
  cases h with
  | refused _ hcheck => exact Nat.zero_le 1
  | unbuilt e hcheck => exact Nat.le_refl 1
  | built engine result hcheck => exact Nat.le_refl 1
  | ran engine result hcheck => exact Nat.zero_le 1

end Execution

/-! ## All executors -/

/-- A statement goes through an executor: the sample answers, or there is an execution. -/
inductive Executes (sql : Sql.Statement) :
    Executor ε → List (Event (EngineCall ε) EngineCall.Reply) → Except Error ResultSet →
      Executor ε → Prop
  | sampled : Executes sql .simulated [] (.ok (Sample.respond sql.text)) .simulated
  | executed {engine? after : Option ε} {events : List (Event (EngineCall ε) EngineCall.Reply)}
      {result : Except Error ResultSet} (h : Execution sql engine? events result after) :
      Executes sql (.real engine?) events result (.real after)

namespace Executes

variable {executor after : Executor ε}

theorem of_trace (h : Trace (executor.execute sql) events (result, after)) :
    Executes sql executor events result after := by
  cases executor with
  | simulated =>
    obtain ⟨rfl, rfl, rfl⟩ := trace_done_prod_iff.mp h
    exact .sampled
  | real engine? =>
    obtain ⟨after, rfl, hexecution⟩ := Execution.of_trace h
    exact .executed hexecution

theorem isSimulated_eq (h : Executes sql executor events result after) :
    after.isSimulated = executor.isSimulated := by
  cases h <;> rfl

end Executes

end AskTable.Executor
