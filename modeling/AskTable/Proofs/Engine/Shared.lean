import AskTable.Proofs.Engine.Executor
import Mathlib.Logic.Function.Basic
/-!
# A shared executor

Several callers share one real executor, and each has one statement to run. Their steps interleave
in any order. A caller whose statement is accepted waits until there is an engine, or until nobody
else builds one. The permit to build is held by one caller at a time; a built engine is stored for
all, and when none could be built the permit is given back and nothing is stored. Between these
steps a caller follows the dialogue of an executor that it does not share.

## Main definitions

* `Executor.Shared` - the engine, the caller that builds one, and how far each caller is
* `Executor.Shared.Step`, `Executor.Shared.Run` - one step of one caller, and steps of callers in
  any order, with the calls that are made
* `Executor.Shared.Inv` - the invariant of a shared executor

## Main results

* `Executor.Shared.Step.inv`, `Executor.Shared.Run.inv` - the invariant holds forever
* `Executor.Shared.Run.isLazy` - one engine is built at most, for an accepted statement, and is kept
-/

namespace AskTable.Executor

open Dialogue (Event)

variable {ι ε : Type}

/-- The dialogue of a call to an executor. -/
abbrev Remainder (ε : Type) : Type := Run ε (Except Error ResultSet × Executor ε)

/-- How far a caller is. -/
inductive Phase (ε : Type) where
  /-- the statement was not looked at yet -/
  | idle
  /-- the statement was accepted, and an engine is needed -/
  | waiting
  /-- this part of the dialogue is left -/
  | active (rest : Remainder ε)

/-- The result of a caller that is done. -/
def Phase.result? : Phase ε → Option (Except Error ResultSet)
  | .active (.done (result, _)) => some result
  | _ => none

/-- A call with its reply, and who has made it. -/
abbrev CallOf (ι ε : Type) : Type := ι × Event (EngineCall ε) EngineCall.Reply

/-- A real executor that callers share. -/
structure Shared (ι ε : Type) where
  engine? : Option ε
  /-- the caller that holds the permit to build an engine -/
  builder : Option ι
  phase : ι → Phase ε

namespace Shared

/-- The start, without an engine. -/
def start (ι ε : Type) : Shared ι ε := ⟨none, none, fun _ => .idle⟩

variable [DecidableEq ι]

/-- The caller goes on to another phase. -/
def advance (s : Shared ι ε) (i : ι) (phase : Phase ε) : Shared ι ε :=
  { s with phase := Function.update s.phase i phase }

/-- One step of one caller, with the call that it makes. -/
inductive Step (sql : ι → Sql.Statement) :
    Shared ι ε → List (CallOf ι ε) → Shared ι ε → Prop
  /-- the executor refuses the statement without a call -/
  | refuse {s : Shared ι ε} {i : ι} {result : Except Error ResultSet × Executor ε}
      (hphase : s.phase i = .idle)
      (hexecute : (Executor.real s.engine?).execute (sql i) = .done result) :
      Step sql s [] (s.advance i (.active (.done result)))
  /-- the executor wants to make a call for the statement -/
  | accept {s : Shared ι ε} {i : ι} {call : EngineCall ε} {next : call.Reply → Remainder ε}
      (hphase : s.phase i = .idle)
      (hexecute : (Executor.real s.engine?).execute (sql i) = .ask call next) :
      Step sql s [] (s.advance i .waiting)
  /-- there is no engine, and nobody else builds one -/
  | take {s : Shared ι ε} {i : ι} (hphase : s.phase i = .waiting) (hengine : s.engine? = none)
      (hbuilder : s.builder = none) :
      Step sql s []
        { s.advance i (.active ((Executor.real none).execute (sql i))) with builder := some i }
  /-- there is an engine -/
  | join {s : Shared ι ε} {i : ι} {engine : ε} (hphase : s.phase i = .waiting)
      (hengine : s.engine? = some engine) :
      Step sql s [] (s.advance i (.active ((Executor.real (some engine)).execute (sql i))))
  /-- an engine is built; it is stored for all, and there is nothing left to build -/
  | built {s : Shared ι ε} {i : ι} {next : Except Error ε → Remainder ε}
      (hphase : s.phase i = .active (.ask .build next)) (engine : ε) :
      Step sql s [(i, ⟨.build, .ok engine⟩)]
        { s.advance i (.active (next (.ok engine))) with
          engine? := some engine, builder := none }
  /-- no engine could be built, and the permit is given back -/
  | failed {s : Shared ι ε} {i : ι} {next : Except Error ε → Remainder ε}
      (hphase : s.phase i = .active (.ask .build next)) (e : Error) :
      Step sql s [(i, ⟨.build, .error e⟩)]
        { s.advance i (.active (next (.error e))) with builder := none }
  /-- an engine runs a statement -/
  | ran {s : Shared ι ε} {i : ι} {engine : ε} {statement : Sql.Statement}
      {next : Except Error ResultSet → Remainder ε}
      (hphase : s.phase i = .active (.ask (.run engine statement) next))
      (result : Except Error ResultSet) :
      Step sql s [(i, ⟨.run engine statement, result⟩)] (s.advance i (.active (next result)))

/-- Steps of callers in any order, with the calls that they make. -/
inductive Run (sql : ι → Sql.Statement) (s : Shared ι ε) :
    List (CallOf ι ε) → Shared ι ε → Prop
  | refl : Run sql s [] s
  | tail {log calls : List (CallOf ι ε)} {s' s'' : Shared ι ε} (h : Run sql s log s')
      (hstep : Step sql s' calls s'') : Run sql s (log ++ calls) s''

/-- The calls of one caller. -/
def callsOf (i : ι) (log : List (CallOf ι ε)) : List (Event (EngineCall ε) EngineCall.Reply) :=
  (log.filter fun call => call.1 = i).map Prod.snd

/-- Has a caller built an engine? -/
def isBuilt : CallOf ι ε → Bool
  | (_, ⟨.build, .ok _⟩) => true
  | _ => false

end Shared

/-! ## The dialogue of an accepted statement -/

variable {sql : Sql.Statement}

theorem execute_some (h : Sql.Policy.standard.check sql.text = .ok ()) (engine : ε) :
    (Executor.real (some engine)).execute sql =
      .ask (.run engine sql) fun result => .done (result, .real (some engine)) := by
  rw [execute, h]
  rfl

theorem execute_none (h : Sql.Policy.standard.check sql.text = .ok ()) :
    (Executor.real (none : Option ε)).execute sql = .ask .build fun
      | .error e => .done (.error e, .real none)
      | .ok engine => (Executor.real (some engine)).execute sql := by
  rw [execute, h]
  refine congrArg (Dialogue.ask EngineCall.build) (funext fun reply => ?_)
  cases reply with
  | error e => rfl
  | ok engine => exact (execute_some h engine).symm

theorem check_of_execute_done {engine? : Option ε}
    {result : Except Error ResultSet × Executor ε}
    (h : (Executor.real engine?).execute sql = .done result) :
    ∃ v, Sql.Policy.standard.check sql.text = .error v ∧
      result = (.error (.sqlPolicy v.message), .real engine?) := by
  cases hcheck : Sql.Policy.standard.check sql.text with
  | error v =>
    rw [execute_refused hcheck] at h
    exact ⟨v, rfl, (Dialogue.done.inj h).symm⟩
  | ok _ =>
    cases engine? with
    | none =>
      rw [execute_none hcheck] at h
      cases h
    | some engine =>
      rw [execute_some hcheck] at h
      cases h

theorem check_of_execute_ask {engine? : Option ε} {call : EngineCall ε}
    {next : call.Reply → Remainder ε} (h : (Executor.real engine?).execute sql = .ask call next) :
    Sql.Policy.standard.check sql.text = .ok () := by
  cases hcheck : Sql.Policy.standard.check sql.text with
  | error v =>
    rw [execute_refused hcheck] at h
    cases h
  | ok _ => rfl

/-! ## How far one caller is -/

/-- How far a caller is with its statement, when this engine is stored and it has made these calls.
Nobody is about to build an engine once one is stored. -/
inductive Progress (sql : Sql.Statement) (engine? : Option ε) :
    Phase ε → List (Event (EngineCall ε) EngineCall.Reply) → Prop
  | idle : Progress sql engine? .idle []
  | waiting (hcheck : Sql.Policy.standard.check sql.text = .ok ()) :
      Progress sql engine? .waiting []
  | building (hcheck : Sql.Policy.standard.check sql.text = .ok ()) (hengine : engine? = none) :
      Progress sql engine? (.active ((Executor.real none).execute sql)) []
  | joined {engine : ε} (hcheck : Sql.Policy.standard.check sql.text = .ok ())
      (hengine : engine? = some engine) :
      Progress sql engine? (.active ((Executor.real (some engine)).execute sql)) []
  | built {engine : ε} (hcheck : Sql.Policy.standard.check sql.text = .ok ())
      (hengine : engine? = some engine) :
      Progress sql engine? (.active ((Executor.real (some engine)).execute sql))
        [⟨.build, .ok engine⟩]
  | done {before after : Option ε} {calls : List (Event (EngineCall ε) EngineCall.Reply)}
      {result : Except Error ResultSet} (h : Execution sql before calls result after)
      (hafter : ∀ engine ∈ after, engine? = some engine) :
      Progress sql engine? (.active (.done (result, .real after))) calls

namespace Progress

variable {engine? : Option ε} {calls : List (Event (EngineCall ε) EngineCall.Reply)}

/-- A caller that is about to build an engine was accepted, has made no call, and there is none. -/
theorem of_build {next : Except Error ε → Remainder ε}
    (h : Progress sql engine? (.active (.ask .build next)) calls) :
    Sql.Policy.standard.check sql.text = .ok () ∧ engine? = none ∧ calls = [] ∧
      (∀ e, next (.error e) = .done (.error e, .real none)) ∧
      ∀ engine, next (.ok engine) = (Executor.real (some engine)).execute sql := by
  -- Only a caller with the permit has this dialogue left. The others come to run a statement.
  generalize hphase : Phase.active (.ask .build next) = phase at h
  cases h with
  | idle => cases hphase
  | waiting hcheck => cases hphase
  | building hcheck hengine =>
    rw [execute_none hcheck] at hphase
    cases hphase
    exact ⟨hcheck, hengine, rfl, fun _ => rfl, fun _ => rfl⟩
  | joined hcheck hengine =>
    rw [execute_some hcheck] at hphase
    cases hphase
  | built hcheck hengine =>
    rw [execute_some hcheck] at hphase
    cases hphase
  | done h hafter => cases hphase

/-- A caller that is about to run a statement was accepted, and runs its own on the engine that is
stored. -/
theorem of_run {engine : ε} {statement : Sql.Statement}
    {next : Except Error ResultSet → Remainder ε}
    (h : Progress sql engine? (.active (.ask (.run engine statement) next)) calls) :
    Sql.Policy.standard.check sql.text = .ok () ∧ engine? = some engine ∧ statement = sql ∧
      (calls = [] ∨ calls = [⟨.build, .ok engine⟩]) ∧
      ∀ result, next result = .done (result, .real (some engine)) := by
  -- This dialogue is left when an engine was there, or has just been built.
  generalize hphase : Phase.active (.ask (.run engine statement) next) = phase at h
  cases h with
  | idle => cases hphase
  | waiting hcheck => cases hphase
  | building hcheck hengine =>
    rw [execute_none hcheck] at hphase
    cases hphase
  | joined hcheck hengine =>
    rw [execute_some hcheck] at hphase
    cases hphase
    exact ⟨hcheck, hengine, rfl, Or.inl rfl, fun _ => rfl⟩
  | built hcheck hengine =>
    rw [execute_some hcheck] at hphase
    cases hphase
    exact ⟨hcheck, hengine, rfl, Or.inr rfl, fun _ => rfl⟩
  | done h hafter => cases hphase

/-- When an engine is stored, callers are as far as they were, unless they are about to build
one. -/
theorem store {phase : Phase ε} (h : Progress sql none phase calls) (engine : ε)
    (hbuild : ∀ next, phase ≠ .active (.ask .build next)) :
    Progress sql (some engine) phase calls := by
  cases h with
  | idle => exact .idle
  | waiting hcheck => exact .waiting hcheck
  | building hcheck hengine =>
    -- Such a caller is about to build one.
    exact absurd (congrArg Phase.active (execute_none hcheck)) (hbuild _)
  | joined hcheck hengine => cases hengine
  | built hcheck hengine => cases hengine
  | done h hafter =>
    refine .done h fun e he => ?_
    cases hafter e he

end Progress

/-! ## The invariant -/

namespace Shared

variable [DecidableEq ι] {sql : ι → Sql.Statement} {s s' : Shared ι ε}
  {log calls : List (CallOf ι ε)} {i : ι}

@[simp] theorem phase_advance_self (s : Shared ι ε) (i : ι) (phase : Phase ε) :
    (s.advance i phase).phase i = phase := by
  simp [advance]

theorem phase_advance_of_ne {j : ι} (h : j ≠ i) (s : Shared ι ε) (phase : Phase ε) :
    (s.advance i phase).phase j = s.phase j := by
  simp [advance, h]

theorem callsOf_append (i : ι) (log calls : List (CallOf ι ε)) :
    callsOf i (log ++ calls) = callsOf i log ++ callsOf i calls := by
  rw [callsOf, List.filter_append, List.map_append]
  rfl

@[simp] theorem callsOf_nil (i : ι) : callsOf i ([] : List (CallOf ι ε)) = [] := rfl

@[simp] theorem callsOf_self (i : ι) (event : Event (EngineCall ε) EngineCall.Reply) :
    callsOf i [(i, event)] = [event] := by
  simp [callsOf]

theorem callsOf_of_ne {j : ι} (h : j ≠ i) (event : Event (EngineCall ε) EngineCall.Reply) :
    callsOf j [(i, event)] = [] := by
  simp [callsOf, Ne.symm h]

/-- What holds of a shared executor after the calls of a log. -/
structure Inv (sql : ι → Sql.Statement) (log : List (CallOf ι ε)) (s : Shared ι ε) : Prop where
  /-- each caller is somewhere on the way of an execution of its own -/
  progress : ∀ i, Progress (sql i) s.engine? (s.phase i) (callsOf i log)
  /-- only the caller with the permit builds -/
  permit : ∀ i next, s.phase i = .active (.ask .build next) → s.builder = some i
  /-- and the caller with the permit does build -/
  builds : ∀ i, s.builder = some i → ∃ next, s.phase i = .active (.ask .build next)
  /-- as many engines were built as are stored -/
  built : log.countP isBuilt = s.engine?.toList.length

theorem inv_start : Inv sql [] (start ι ε) where
  progress := fun _ => .idle
  permit := nofun
  builds := nofun
  built := rfl

theorem Inv.calls_of_idle (hi : Inv sql log s) (hphase : s.phase i = .idle) :
    callsOf i log = [] := by
  have hprogress := hi.progress i
  rw [hphase] at hprogress
  generalize callsOf i log = calls at hprogress
  cases hprogress with
  | idle => rfl

/-- A waiting caller was accepted and has made no call. -/
theorem Inv.of_waiting (hi : Inv sql log s) (hphase : s.phase i = .waiting) :
    Sql.Policy.standard.check (sql i).text = .ok () ∧ callsOf i log = [] := by
  have hprogress := hi.progress i
  rw [hphase] at hprogress
  generalize callsOf i log = calls at hprogress
  cases hprogress with
  | waiting hcheck => exact ⟨hcheck, rfl⟩

/-- A step after which the same engine is stored, and of which only the phase of the caller is
known. -/
theorem Inv.advance (hi : Inv sql log s) {phase : Phase ε} (builder : Option ι)
    (hprogress : Progress (sql i) s.engine? phase (callsOf i (log ++ calls)))
    (hothers : ∀ j, j ≠ i → callsOf j calls = []) (hbuilt : calls.countP isBuilt = 0)
    (hpermit : ∀ j next, (s.advance i phase).phase j = .active (.ask .build next) →
      builder = some j)
    (hbuilds : ∀ j, builder = some j →
      ∃ next, (s.advance i phase).phase j = .active (.ask .build next)) :
    Inv sql (log ++ calls) { s.advance i phase with builder := builder } where
  progress := by
    intro j
    by_cases hj : j = i
    · subst hj
      rw [phase_advance_self]
      exact hprogress
    · rw [phase_advance_of_ne hj, callsOf_append, hothers j hj, List.append_nil]
      exact hi.progress j
  permit := hpermit
  builds := hbuilds
  built := by
    rw [List.countP_append, hbuilt, Nat.add_zero]
    exact hi.built

/-- A step of a caller that neither builds an engine nor is about to build one afterwards. -/
theorem Inv.advance_of_ne (hi : Inv sql log s) {phase : Phase ε}
    (hprogress : Progress (sql i) s.engine? phase (callsOf i (log ++ calls)))
    (hothers : ∀ j, j ≠ i → callsOf j calls = []) (hbuilt : calls.countP isBuilt = 0)
    (hbefore : ∀ next, s.phase i ≠ .active (.ask .build next))
    (hafter : ∀ next, phase ≠ .active (.ask .build next)) :
    Inv sql (log ++ calls) (s.advance i phase) := by
  refine hi.advance s.builder hprogress hothers hbuilt ?_ ?_
  · intro j next hj
    by_cases hne : j = i
    · subst hne
      rw [phase_advance_self] at hj
      exact absurd hj (hafter next)
    · rw [phase_advance_of_ne hne] at hj
      exact hi.permit j next hj
  · intro j hj
    obtain ⟨next, hphase⟩ := hi.builds j hj
    -- The holder of the permit is about to build one, so this is another caller.
    have hne : j ≠ i := by
      rintro rfl
      exact hbefore next hphase
    exact ⟨next, by rw [phase_advance_of_ne hne, hphase]⟩

theorem Inv.take (hi : Inv sql log s) (hphase : s.phase i = .waiting) (hengine : s.engine? = none)
    (hbuilder : s.builder = none) :
    Inv sql (log ++ [])
      { s.advance i (.active ((Executor.real none).execute (sql i))) with builder := some i } := by
  obtain ⟨hcheck, hcalls⟩ := hi.of_waiting hphase
  -- The permit was free, so nobody else is about to build one.
  refine hi.advance (some i) ?_ (fun _ _ => rfl) rfl ?_ ?_
  · rw [List.append_nil, hcalls]
    exact .building hcheck hengine
  · intro j next hj
    by_cases hne : j = i
    · rw [hne]
    · rw [phase_advance_of_ne hne] at hj
      have hpermit := hi.permit j next hj
      rw [hbuilder] at hpermit
      cases hpermit
  · intro j hj
    obtain rfl := Option.some.inj hj
    exact ⟨_, by rw [phase_advance_self, execute_none hcheck]⟩

theorem Inv.fail (hi : Inv sql log s) {next : Except Error ε → Remainder ε}
    (hphase : s.phase i = .active (.ask .build next)) (e : Error) :
    Inv sql (log ++ [(i, ⟨.build, .error e⟩)])
      { s.advance i (.active (next (.error e))) with builder := none } := by
  have hprogress := hi.progress i
  rw [hphase] at hprogress
  -- The caller has the permit, so nobody else is about to build one when it gives it back.
  obtain ⟨hcheck, hengine, hcalls, herror, -⟩ := hprogress.of_build
  have hholder := hi.permit i next hphase
  refine hi.advance none ?_ (fun j hj => callsOf_of_ne hj _) rfl ?_ ?_
  · rw [callsOf_append, hcalls, callsOf_self, herror]
    exact .done (.unbuilt e hcheck) nofun
  · intro j next' hj
    by_cases hne : j = i
    · subst hne
      rw [phase_advance_self, herror] at hj
      cases hj
    · rw [phase_advance_of_ne hne] at hj
      have hpermit := hi.permit j next' hj
      rw [hholder] at hpermit
      exact absurd (Option.some.inj hpermit).symm hne
  · nofun

theorem Inv.store (hi : Inv sql log s) {next : Except Error ε → Remainder ε}
    (hphase : s.phase i = .active (.ask .build next)) (engine : ε) :
    Inv sql (log ++ [(i, ⟨.build, .ok engine⟩)])
      { s.advance i (.active (next (.ok engine))) with
        engine? := some engine, builder := none } := by
  have hprogress := hi.progress i
  rw [hphase] at hprogress
  obtain ⟨hcheck, hengine, hcalls, -, hok⟩ := hprogress.of_build
  have hholder := hi.permit i next hphase
  -- A stored engine would be in the way of others about to build one, but there are none.
  have hothers : ∀ j next', j ≠ i → s.phase j ≠ .active (.ask .build next') := by
    intro j next' hne hj
    have hpermit := hi.permit j next' hj
    rw [hholder] at hpermit
    exact hne (Option.some.inj hpermit).symm
  refine ⟨fun j => ?_, fun j next' hj => ?_, nofun, ?_⟩
  · by_cases hne : j = i
    · subst hne
      change Progress (sql j) (some engine) ((s.advance j _).phase j) _
      rw [phase_advance_self, callsOf_append, hcalls, callsOf_self, hok]
      exact .built hcheck rfl
    · change Progress (sql j) (some engine) ((s.advance i _).phase j) _
      rw [phase_advance_of_ne hne, callsOf_append, callsOf_of_ne hne, List.append_nil]
      have hprogress := hi.progress j
      rw [hengine] at hprogress
      exact hprogress.store engine fun next' => hothers j next' hne
  · change (s.advance i _).phase j = _ at hj
    by_cases hne : j = i
    · subst hne
      rw [phase_advance_self, hok, execute_some hcheck] at hj
      cases hj
    · rw [phase_advance_of_ne hne] at hj
      exact absurd hj (hothers j next' hne)
  · rw [List.countP_append, hi.built, hengine]
    rfl

theorem Inv.run (hi : Inv sql log s) {engine : ε} {statement : Sql.Statement}
    {next : Except Error ResultSet → Remainder ε}
    (hphase : s.phase i = .active (.ask (.run engine statement) next))
    (result : Except Error ResultSet) :
    Inv sql (log ++ [(i, ⟨.run engine statement, result⟩)])
      (s.advance i (.active (next result))) := by
  have hprogress := hi.progress i
  rw [hphase] at hprogress
  obtain ⟨hcheck, hengine, rfl, hcalls, hnext⟩ := hprogress.of_run
  refine hi.advance_of_ne ?_ (fun j hj => callsOf_of_ne hj _) rfl ?_ ?_
  · rw [callsOf_append, callsOf_self, hnext]
    have hafter : ∀ e ∈ some engine, s.engine? = some e := by
      rintro e ⟨⟩
      exact hengine
    rcases hcalls with hcalls | hcalls
    · rw [hcalls]
      exact .done (.ran engine result hcheck) hafter
    · rw [hcalls]
      exact .done (.built engine result hcheck) hafter
  · rw [hphase]
    nofun
  · rw [hnext]
    nofun

/-- The invariant holds after every step. -/
theorem Step.inv (h : Step sql s calls s') (hi : Inv sql log s) : Inv sql (log ++ calls) s' := by
  cases h with
  | refuse hphase hexecute =>
    obtain ⟨v, hcheck, rfl⟩ := check_of_execute_done hexecute
    refine hi.advance_of_ne ?_ (fun _ _ => rfl) rfl (by rw [hphase]; nofun) nofun
    rw [List.append_nil, hi.calls_of_idle hphase]
    exact .done (.refused s.engine? hcheck) fun _ he => he
  | accept hphase hexecute =>
    refine hi.advance_of_ne ?_ (fun _ _ => rfl) rfl (by rw [hphase]; nofun) nofun
    rw [List.append_nil, hi.calls_of_idle hphase]
    exact .waiting (check_of_execute_ask hexecute)
  | take hphase hengine hbuilder => exact hi.take hphase hengine hbuilder
  | join hphase hengine =>
    obtain ⟨hcheck, hcalls⟩ := hi.of_waiting hphase
    refine hi.advance_of_ne ?_ (fun _ _ => rfl) rfl (by rw [hphase]; nofun) ?_
    · rw [List.append_nil, hcalls]
      exact .joined hcheck hengine
    · rw [execute_some hcheck]
      nofun
  | built hphase engine => exact hi.store hphase engine
  | failed hphase e => exact hi.fail hphase e
  | ran hphase result => exact hi.run hphase result

/-- The invariant holds after steps in any order. -/
theorem Run.inv (h : Run sql s calls s') (hi : Inv sql log s) : Inv sql (log ++ calls) s' := by
  induction h with
  | refl =>
    rw [List.append_nil]
    exact hi
  | tail h hstep ih =>
    rw [← List.append_assoc]
    exact hstep.inv ih

/-! ## Consequences -/

/-- A caller whose statement was not handed over yet: it is not looked at, or waits. -/
def IsPending (s : Shared ι ε) (i : ι) : Prop := s.phase i = .idle ∨ s.phase i = .waiting

theorem Inv.calls_of_pending (hi : Inv sql log s) (hpending : s.IsPending i) :
    callsOf i log = [] := by
  rcases hpending with hphase | hphase
  · exact hi.calls_of_idle hphase
  · exact (hi.of_waiting hphase).2

/-- No call is made for a refused statement. -/
theorem Inv.calls_of_refused (hi : Inv sql log s) {v : Sql.Violation}
    (hcheck : Sql.Policy.standard.check (sql i).text = .error v) : callsOf i log = [] := by
  have hprogress := hi.progress i
  generalize callsOf i log = calls at hprogress
  generalize s.phase i = phase at hprogress
  -- All that is said of a caller with a call includes that its statement was accepted.
  have hrefused (h : Sql.Policy.standard.check (sql i).text = .ok ()) : False := by
    rw [h] at hcheck
    cases hcheck
  cases hprogress with
  | idle => rfl
  | waiting h => rfl
  | building h hengine => rfl
  | joined h hengine => rfl
  | built h hengine => exact (hrefused h).elim
  | done h hafter =>
    cases h with
    | refused _ _ => rfl
    | unbuilt e h => exact (hrefused h).elim
    | built engine result h => exact (hrefused h).elim
    | ran engine result h => exact (hrefused h).elim

/-- A stored engine stays, and no other is built. -/
theorem Step.stored (h : Step sql s calls s') (hi : Inv sql log s) {engine : ε}
    (hengine : s.engine? = some engine) :
    s'.engine? = some engine ∧ ∀ call ∈ calls, isBuild call.2 = false := by
  -- A caller is about to build an engine only while none is stored.
  have hbuild {i : ι} {next : Except Error ε → Remainder ε}
      (hphase : s.phase i = .active (.ask .build next)) : False := by
    have hprogress := hi.progress i
    rw [hphase] at hprogress
    obtain ⟨-, hnone, -⟩ := hprogress.of_build
    rw [hengine] at hnone
    cases hnone
  cases h with
  | refuse hphase hexecute => exact ⟨hengine, nofun⟩
  | accept hphase hexecute => exact ⟨hengine, nofun⟩
  | take hphase hnone hbuilder => exact ⟨hengine, nofun⟩
  | join hphase hsome => exact ⟨hengine, nofun⟩
  | built hphase engine => exact (hbuild hphase).elim
  | failed hphase e => exact (hbuild hphase).elim
  | ran hphase result =>
    refine ⟨hengine, fun call hcall => ?_⟩
    rw [List.mem_singleton.mp hcall]
    rfl

theorem Run.stored (h : Run sql s calls s') (hi : Inv sql log s) {engine : ε}
    (hengine : s.engine? = some engine) :
    s'.engine? = some engine ∧ ∀ call ∈ calls, isBuild call.2 = false := by
  induction h with
  | refl => exact ⟨hengine, nofun⟩
  | tail h hstep ih =>
    obtain ⟨hstored, hearlier⟩ := ih
    obtain ⟨hstored, hlast⟩ := hstep.stored (h.inv hi) hstored
    refine ⟨hstored, fun call hcall => ?_⟩
    rcases List.mem_append.mp hcall with hcall | hcall
    · exact hearlier call hcall
    · exact hlast call hcall

/-- An accepted caller makes one call once an engine is stored: that engine runs its statement. -/
theorem Inv.calls_of_result (hi : Inv sql log s) {engine : ε} (hengine : s.engine? = some engine)
    (hbuilds : ∀ event ∈ callsOf i log, isBuild event = false)
    (hcheck : Sql.Policy.standard.check (sql i).text = .ok ()) :
    callsOf i log =
      ((s.phase i).result?.map fun result => ⟨.run engine (sql i), result⟩).toList := by
  have hprogress := hi.progress i
  -- One case for each stage of the caller. Where it has built an engine, that call is in its log.
  generalize callsOf i log = calls at hprogress hbuilds
  generalize s.phase i = phase at hprogress
  cases hprogress with
  | idle => rfl
  | waiting h => rfl
  | building h hnone =>
    rw [hengine] at hnone
    cases hnone
  | joined h hsome =>
    rw [execute_some h]
    rfl
  | built h hsome => cases hbuilds _ List.mem_cons_self
  | done h hafter =>
    cases h with
    | refused _ h =>
      rw [hcheck] at h
      cases h
    | unbuilt e h => cases hbuilds _ List.mem_cons_self
    | built engine result h => cases hbuilds _ List.mem_cons_self
    | ran own result h =>
      obtain rfl := Option.some.inj (hengine.symm.trans (hafter own rfl))
      rfl

theorem mem_callsOf_iff {event : Event (EngineCall ε) EngineCall.Reply} :
    event ∈ callsOf i log ↔ (i, event) ∈ log := by
  simp [callsOf]

/-- An accepted caller comes to wait. -/
theorem exists_run_waiting (hcheck : Sql.Policy.standard.check (sql i).text = .ok ())
    (hpending : s.IsPending i) :
    ∃ s', Run sql s [] s' ∧ s'.phase i = .waiting ∧ s'.engine? = s.engine? ∧
      s'.builder = s.builder := by
  -- The executor looks at the statement of an idle caller. A waiting one is there already.
  rcases hpending with hphase | hphase
  · refine ⟨s.advance i .waiting, .tail .refl ?_, phase_advance_self s i .waiting, rfl, rfl⟩
    cases hengine : s.engine? with
    | none => exact .accept hphase (by rw [hengine, execute_none hcheck])
    | some engine => exact .accept hphase (by rw [hengine, execute_some hcheck])
  · exact ⟨s, .refl, hphase, rfl, rfl⟩

/-- Where nothing is stored and nobody builds, any accepted caller can be the next to build. -/
theorem exists_run_build (hengine : s.engine? = none) (hbuilder : s.builder = none)
    (hcheck : Sql.Policy.standard.check (sql i).text = .ok ()) (hpending : s.IsPending i) :
    ∃ s' next, Run sql s [] s' ∧ s'.phase i = .active (.ask .build next) := by
  obtain ⟨s', hrun, hphase, hengine', hbuilder'⟩ := exists_run_waiting hcheck hpending
  have htake := hrun.tail (.take hphase (hengine'.trans hengine) (hbuilder'.trans hbuilder))
  have hbuild := (phase_advance_self s' i _).trans
    (congrArg Phase.active (execute_none (ε := ε) hcheck))
  exact ⟨_, _, htake, hbuild⟩

/-- Where an engine is stored, any accepted caller can have its statement run by it, whatever comes
of that. -/
theorem exists_run_result {engine : ε} (hengine : s.engine? = some engine)
    (hcheck : Sql.Policy.standard.check (sql i).text = .ok ()) (hpending : s.IsPending i)
    (result : Except Error ResultSet) :
    ∃ s', Run sql s [(i, ⟨.run engine (sql i), result⟩)] s' ∧
      (s'.phase i).result? = some result := by
  obtain ⟨s', hrun, hphase, hengine', -⟩ := exists_run_waiting hcheck hpending
  have hjoin := hrun.tail (.join hphase (hengine'.trans hengine))
  have hactive := (phase_advance_self s' i _).trans
    (congrArg Phase.active (execute_some hcheck engine))
  refine ⟨_, hjoin.tail (.ran hactive result), ?_⟩
  rw [phase_advance_self]
  rfl

/-- Where nothing is stored, the next call of all builds an engine. -/
theorem Run.head_isBuild (h : Run sql s calls s') (hi : Inv sql log s)
    (hengine : s.engine? = none) :
    (calls = [] ∧ s'.engine? = none) ∨ ∃ call ∈ calls.head?, isBuild call.2 = true := by
  induction h with
  | refl => exact Or.inl ⟨rfl, hengine⟩
  | @tail earlier last s' s'' h hstep ih =>
    -- Either nothing was called so far, or the first call of all has been made already.
    rcases ih with ⟨rfl, hnone⟩ | ⟨call, hcall, hbuild⟩
    · rw [List.nil_append]
      cases hstep with
      | refuse hphase hexecute => exact Or.inl ⟨rfl, hnone⟩
      | accept hphase hexecute => exact Or.inl ⟨rfl, hnone⟩
      | take hphase _ hbuilder => exact Or.inl ⟨rfl, hnone⟩
      | join hphase hsome => exact Or.inl ⟨rfl, hnone⟩
      | built hphase engine => exact Or.inr ⟨_, rfl, rfl⟩
      | failed hphase e => exact Or.inr ⟨_, rfl, rfl⟩
      | @ran i engine statement next hphase result =>
        -- Nobody runs a statement before an engine is stored.
        have hprogress := (h.inv hi).progress i
        rw [hphase] at hprogress
        obtain ⟨-, hsome, -⟩ := hprogress.of_run
        rw [hnone] at hsome
        cases hsome
    · refine Or.inr ⟨call, ?_, hbuild⟩
      rw [List.head?_append, Option.mem_def.mp hcall]
      rfl

/-- The calls of a caller that is done are those of an execution of its statement. -/
theorem Inv.execution_of_result (hi : Inv sql log s) {result : Except Error ResultSet}
    (hresult : (s.phase i).result? = some result) :
    ∃ before after, Execution (sql i) before (callsOf i log) result after := by
  have hprogress := hi.progress i
  generalize callsOf i log = calls at hprogress ⊢
  generalize s.phase i = phase at hprogress hresult
  cases hprogress with
  | idle => cases hresult
  | waiting h => cases hresult
  | building h hengine =>
    -- Until it is done, a caller has a call ahead of it and no result.
    rw [execute_none h] at hresult
    cases hresult
  | joined h hengine =>
    rw [execute_some h] at hresult
    cases hresult
  | built h hengine =>
    rw [execute_some h] at hresult
    cases hresult
  | done h hafter =>
    obtain rfl := Option.some.inj hresult
    exact ⟨_, _, h⟩

/-- How an engine is built for callers of which any number are refused, fail to build one, build one
or get errors from it, in any order. -/
structure IsLazy (sql : ι → Sql.Statement) (log : List (CallOf ι ε)) (s : Shared ι ε) : Prop where
  /-- an engine is built once at most -/
  built_le : log.countP isBuilt ≤ 1
  /-- no call is made for a refused statement -/
  refused : ∀ i v, Sql.Policy.standard.check (sql i).text = .error v → ∀ call ∈ log, call.1 ≠ i
  /-- when no engine can be built, only the caller that tried has failed, nothing is stored, the
  next call of all tries again, and any accepted caller can be the one that makes it -/
  failed : ∀ i e s', Step sql s [(i, ⟨.build, .error e⟩)] s' →
    s'.engine? = none ∧ (s'.phase i).result? = some (.error e) ∧
      (∀ j, j ≠ i → s'.phase j = s.phase j) ∧
      (∀ later s'', Run sql s' later s'' → ∀ call ∈ later.head?, isBuild call.2 = true) ∧
      ∀ j, Sql.Policy.standard.check (sql j).text = .ok () → s'.IsPending j →
        ∃ s'' next, Run sql s' [] s'' ∧ s''.phase j = .active (.ask .build next)
  /-- a stored engine stays, none is built any more, and the calls of an accepted caller are one run
  of its statement by that engine as soon as it has a result, and none before -/
  stored : ∀ engine, s.engine? = some engine → ∀ later s', Run sql s later s' →
    s'.engine? = some engine ∧ (∀ call ∈ later, isBuild call.2 = false) ∧
      ∀ i, Sql.Policy.standard.check (sql i).text = .ok () → s.IsPending i →
        callsOf i later =
          ((s'.phase i).result?.map fun result => ⟨.run engine (sql i), result⟩).toList
  /-- and such a caller can get its result, whatever that is -/
  served : ∀ engine, s.engine? = some engine →
    ∀ i, Sql.Policy.standard.check (sql i).text = .ok () → s.IsPending i →
      ∀ result, ∃ s', Run sql s [(i, ⟨.run engine (sql i), result⟩)] s' ∧
        (s'.phase i).result? = some result
  /-- a caller that is done has gone through an execution of its own -/
  executed : ∀ i result, (s.phase i).result? = some result →
    ∃ before after, Execution (sql i) before (callsOf i log) result after

/-- Whatever the statements are, and however the steps of the callers and the replies to them come
in order, an engine is built for callers as is said above. -/
theorem Run.isLazy (h : Run sql (start ι ε) log s) : IsLazy sql log s := by
  have hi : Inv sql log s := h.inv inv_start
  refine ⟨?_, ?_, ?_, ?_, ?_, fun i result hresult => hi.execution_of_result hresult⟩
  -- As many engines were built as are stored.
  · rw [hi.built]
    cases s.engine? with
    | none => exact Nat.zero_le 1
    | some engine => exact Nat.le_refl 1
  · rintro i v hcheck ⟨j, event⟩ hcall rfl
    have hmem := mem_callsOf_iff.mpr hcall
    rw [hi.calls_of_refused hcheck] at hmem
    cases hmem
  -- A step with this call is the failure of a caller that was about to build an engine.
  · intro i e s' hstep
    have hi' := hstep.inv hi
    cases hstep with
    | failed hphase e =>
      have hprogress := hi.progress i
      rw [hphase] at hprogress
      obtain ⟨-, hnone, -, herror, -⟩ := hprogress.of_build
      refine ⟨hnone, ?_, fun j hj => phase_advance_of_ne hj s _, fun later s'' hlater => ?_,
        fun j hcheck hpending => exists_run_build hnone rfl hcheck hpending⟩
      · refine (congrArg Phase.result? (phase_advance_self s i _)).trans ?_
        rw [herror]
        rfl
      · intro call hcall
        rcases hlater.head_isBuild hi' hnone with ⟨rfl, -⟩ | ⟨first, hfirst, hbuild⟩
        · cases hcall
        · rwa [Option.mem_unique hcall hfirst]
  · intro engine hengine later s' hlater
    obtain ⟨hstored, hbuilds⟩ := hlater.stored hi hengine
    refine ⟨hstored, hbuilds, fun i hcheck hpending => ?_⟩
    -- A pending caller has made no call, so its later calls are all that it makes.
    have hcalls : callsOf i (log ++ later) = callsOf i later := by
      rw [callsOf_append, hi.calls_of_pending hpending, List.nil_append]
    rw [← hcalls]
    refine (hlater.inv hi).calls_of_result hstored (fun event hevent => ?_) hcheck
    rw [hcalls] at hevent
    exact hbuilds _ (mem_callsOf_iff.mp hevent)
  · intro engine hengine i hcheck hpending result
    exact exists_run_result hengine hcheck hpending result

/-- Two callers, of which the first cannot build an engine and the second can. -/
theorem isLazy_two_callers :
    ∃ s : Shared Bool Unit,
      Run (fun _ => ⟨"SELECT count(*) FROM default.MOCK_DATA"⟩) (start Bool Unit)
          [(false, ⟨.build, .error (.execution [])⟩), (true, ⟨.build, .ok ()⟩),
            (true, ⟨.run () ⟨"SELECT count(*) FROM default.MOCK_DATA"⟩, .ok []⟩)] s ∧
        (s.phase true).result? = some (.ok []) ∧
        IsLazy (fun _ => ⟨"SELECT count(*) FROM default.MOCK_DATA"⟩)
          [(false, ⟨.build, .error (.execution [])⟩), (true, ⟨.build, .ok ()⟩),
            (true, ⟨.run () ⟨"SELECT count(*) FROM default.MOCK_DATA"⟩, .ok []⟩)] s := by
  have hfirst : Run (fun _ => ⟨"SELECT count(*) FROM default.MOCK_DATA"⟩) (start Bool Unit)
      [(false, ⟨.build, .error (.execution [])⟩)] _ :=
    ((Run.refl.tail (.accept (i := false) rfl rfl)).tail (.take (i := false) rfl rfl rfl)).tail
      (.failed (i := false) rfl (.execution []))
  have hsecond := ((hfirst.tail (.accept (i := true) rfl rfl)).tail
    (.take (i := true) rfl rfl rfl)).tail (.built (i := true) rfl ())
  have hlast := hsecond.tail (.ran (i := true) rfl (.ok []))
  exact ⟨_, hlast, rfl, hlast.isLazy⟩

end Shared

end AskTable.Executor
