import AskTable.Bootstrap
import Mathlib.Data.List.Perm.Subperm
import Mathlib.Data.List.TakeWhile
import Mathlib.Logic.Function.Basic
/-!
# Concurrent preparations

Several runs prepare one table, and their requests interleave in any order. The server serves one
request at a time. A run counts the rows and inserts the five rows in two requests, so another run
may count, and even insert, in between. Each statement finds the rows of the start and five for
every insertion before it; hence every run that counts before the first insertion will insert, and
no other run does.

## Main definitions

* `Bootstrap.Serves` - what the server makes of a statement, and what it replies
* `Bootstrap.Shared` - the table, and what is left of each run
* `Bootstrap.Step`, `Bootstrap.Interleaving` - one request, and requests of runs in any order
* `Bootstrap.earlyCounts` - the number of counts before the first insertion
* `Bootstrap.Inv` - the invariant of interleaved runs

## Main results

* `Bootstrap.Step.inv`, `Bootstrap.Interleaving.inv` - the invariant holds forever
* `Bootstrap.Interleaving.seeds_once_iff` - when the rows are inserted once
* `Bootstrap.not_seeds_once` - two runs that insert ten rows
-/

namespace AskTable.Bootstrap

open Wire (Reply Exchange)

variable {ι : Type}

/-! ## The server -/

/-- The reply tells of no success. -/
def IsFailure (reply : Reply) : Prop := ∃ e, ClickHouse.readReply reply = .error e

/-- The reply tells a number of rows. -/
def Tells (reply : Reply) (rows : Nat) : Prop :=
  ∃ result, ClickHouse.readReply reply >>= ClickHouse.readRows = .ok result ∧
    readCount? result = some rows

/-- What a statement does. A count and an insertion find a number of rows. -/
inductive Effect where
  | created
  | counted (rows : Nat)
  | inserted (rows : Nat)
  /-- nothing is done -/
  | failed
deriving Repr, DecidableEq

namespace Effect

/-- The number of rows that a statement finds. -/
def found? : Effect → Option Nat
  | .counted rows | .inserted rows => some rows
  | .created | .failed => none

def isCounted : Effect → Bool
  | .counted _ => true
  | _ => false

/-- Does a count find no row? -/
def isEmptyCount : Effect → Bool
  | .counted rows => rows = 0
  | _ => false

def isInserted : Effect → Bool
  | .inserted _ => true
  | _ => false

/-- Whether a count finds no row is a matter of the number that it finds. -/
theorem isEmptyCount_eq {effect : Effect} {n : Nat} (h : ∀ rows ∈ effect.found?, rows = n) :
    effect.isEmptyCount = (effect.isCounted && decide (n = 0)) := by
  cases effect with
  | counted rows =>
    rw [← h rows rfl]
    rfl
  | created => rfl
  | inserted rows => rfl
  | failed => rfl

theorem isEmptyCount_of_isInserted {effect : Effect} (h : effect.isInserted = true) :
    effect.isEmptyCount = false := by
  cases effect with
  | inserted rows => rfl
  | created => cases h
  | counted rows => cases h
  | failed => cases h

end Effect

/-- What the server makes of a statement. The table has a number of rows, or it is not there. The
reply to a creation or an insertion may be lost, and then the run does not learn of it. -/
inductive Serves : Option Nat → (sql : Text) → Effect → Reply → Option Nat → Prop
  /-- the table is created unless it is there -/
  | created {table : Option Nat} {reply : Reply} :
      Serves table createSql .created reply (some (table.getD 0))
  /-- the rows are counted -/
  | counted {rows : Nat} {reply : Reply} (h : Tells reply rows) :
      Serves (some rows) countSql (.counted rows) reply (some rows)
  /-- the rows are inserted -/
  | inserted {rows : Nat} {reply : Reply} :
      Serves (some rows) insertSql (.inserted rows) reply (some (rows + seedRows.length))
  /-- nothing is done, and the reply tells so -/
  | failed {table : Option Nat} {sql : Text} {reply : Reply} (h : IsFailure reply) :
      Serves table sql .failed reply table

/-! ## Interleaved runs -/

/-- What is left of a run. -/
abbrev Remainder : Type := Exchange (Except Error Outcome)

/-- The table, and what is left of each run. -/
structure Shared (ι : Type) where
  table : Option Nat
  rest : ι → Remainder

/-- The start of all runs. -/
def start (engine : ι → ClickHouse) (table : Option Nat) : Shared ι :=
  ⟨table, fun i => run (engine i)⟩

/-- A run goes on, and the table is changed. -/
def Shared.advance [DecidableEq ι] (s : Shared ι) (i : ι) (table : Option Nat) (rest : Remainder) :
    Shared ι :=
  ⟨table, Function.update s.rest i rest⟩

/-- One request of one run, with its effect. -/
inductive Step [DecidableEq ι] : Shared ι → ι × Effect → Shared ι → Prop
  | serve {s : Shared ι} {i : ι} {request : Wire.Request} {next : Reply → Remainder}
      {effect : Effect} {reply : Reply} {table : Option Nat} (hrest : s.rest i = .ask request next)
      (hserves : Serves s.table request.body effect reply table) :
      Step s (i, effect) (s.advance i table (next reply))

/-- Requests of runs in any order, with their effects. -/
inductive Interleaving [DecidableEq ι] (s : Shared ι) : List (ι × Effect) → Shared ι → Prop
  | refl : Interleaving s [] s
  | tail {log : List (ι × Effect)} {entry : ι × Effect} {s' s'' : Shared ι}
      (h : Interleaving s log s') (hstep : Step s' entry s'') : Interleaving s (log ++ [entry]) s''

/-- The number of counts before the first insertion. -/
def earlyCounts (log : List (ι × Effect)) : Nat :=
  (log.takeWhile fun entry => !entry.2.isInserted).countP fun entry => entry.2.isCounted

/-- The number of insertions. -/
def insertions (log : List (ι × Effect)) : Nat := log.countP fun entry => entry.2.isInserted

/-! ## One run -/

/-- What is left of a run when the table is there. -/
def counting (engine : ClickHouse) : Remainder := do
  match ← engine.query countSql with
  | .error e => return .error e
  | .ok rows =>
    match readCount? rows with
    | none => return .error (.execution "Could not read row count from ClickHouse")
    | some 0 => return (← engine.command insertSql).map fun _ => .seeded
    | some count => return .ok (.alreadyPopulated count)

/-- What is left of a run that has found no row. -/
def inserting (engine : ClickHouse) : Remainder := do
  return (← engine.command insertSql).map fun _ => .seeded

/-- What is left of a run that has found this number of rows. -/
def afterCount (engine : ClickHouse) : Nat → Remainder
  | 0 => inserting engine
  | rows => .done (.ok (.alreadyPopulated rows))

theorem run_eq (engine : ClickHouse) : run engine =
    .ask (engine.request createSql false) fun reply =>
      match ClickHouse.readReply reply with
      | .error e => .done (.error e)
      | .ok _ => counting engine := by
  simp only [run, ClickHouse.command, Wire.send, Dialogue.bind_ask, Dialogue.bind_done,
    Dialogue.pure_eq_done]
  refine congrArg (Dialogue.ask (engine.request createSql false)) (funext fun reply => ?_)
  cases ClickHouse.readReply reply <;> rfl

theorem counting_eq (engine : ClickHouse) : counting engine =
    .ask (engine.request countSql true) fun reply =>
      match ClickHouse.readReply reply >>= ClickHouse.readRows with
      | .error e => .done (.error e)
      | .ok rows =>
        match readCount? rows with
        | none => .done (.error (.execution "Could not read row count from ClickHouse"))
        | some rows => afterCount engine rows := by
  simp only [counting, ClickHouse.query, Wire.send, Dialogue.bind_ask, Dialogue.bind_done,
    Dialogue.pure_eq_done]
  refine congrArg (Dialogue.ask (engine.request countSql true)) (funext fun reply => ?_)
  cases ClickHouse.readReply reply >>= ClickHouse.readRows with
  | error e => rfl
  | ok rows =>
    simp only
    split <;> simp_all [afterCount, inserting]

theorem inserting_eq (engine : ClickHouse) : inserting engine =
    .ask (engine.request insertSql false) fun reply =>
      .done ((ClickHouse.readReply reply).map fun _ => .seeded) := by
  simp only [inserting, ClickHouse.command, Wire.send, Dialogue.bind_ask, Dialogue.bind_done,
    Dialogue.pure_eq_done]
  refine congrArg (Dialogue.ask (engine.request insertSql false)) (funext fun reply => ?_)
  cases ClickHouse.readReply reply <;> rfl

/-- How far a run is that has had these effects. A run inserts only after it has found no row. -/
inductive Progress (engine : ClickHouse) : Remainder → List Effect → Prop
  | started : Progress engine (run engine) []
  | created : Progress engine (counting engine) [.created]
  | pending : Progress engine (inserting engine) [.created, .counted 0]
  | seeded (rows : Nat) :
      Progress engine (.done (.ok .seeded)) [.created, .counted 0, .inserted rows]
  | populated {rows : Nat} (h : rows ≠ 0) :
      Progress engine (.done (.ok (.alreadyPopulated rows))) [.created, .counted rows]
  | failed (e : Error) {effects : List Effect}
      (h : effects.countP Effect.isInserted ≤ effects.countP Effect.isEmptyCount) :
      Progress engine (.done (.error e)) effects

section Serves

variable {table table' : Option Nat} {sql : Text} {effect : Effect} {reply : Reply}

theorem createSql_ne : createSql ≠ countSql ∧ createSql ≠ insertSql := by decide

theorem countSql_ne : countSql ≠ insertSql := by decide

theorem Serves.of_create (h : Serves table createSql effect reply table') :
    effect = .created ∨ effect = .failed ∧ IsFailure reply := by
  generalize hsql : createSql = sql at h
  cases h with
  | created => exact .inl rfl
  | counted h => exact absurd hsql createSql_ne.1
  | inserted => exact absurd hsql createSql_ne.2
  | failed h => exact .inr ⟨rfl, h⟩

theorem Serves.of_count (h : Serves table countSql effect reply table') :
    (∃ rows, effect = .counted rows ∧ Tells reply rows) ∨ effect = .failed ∧ IsFailure reply := by
  generalize hsql : countSql = sql at h
  cases h with
  | created => exact absurd hsql.symm createSql_ne.1
  | counted h => exact .inl ⟨_, rfl, h⟩
  | inserted => exact absurd hsql countSql_ne
  | failed h => exact .inr ⟨rfl, h⟩

theorem Serves.of_insert (h : Serves table insertSql effect reply table') :
    (∃ rows, effect = .inserted rows) ∨ effect = .failed ∧ IsFailure reply := by
  generalize hsql : insertSql = sql at h
  cases h with
  | created => exact absurd hsql.symm createSql_ne.2
  | counted h => exact absurd hsql.symm countSql_ne
  | inserted => exact .inl ⟨_, rfl⟩
  | failed h => exact .inr ⟨rfl, h⟩

/-- An insertion adds five rows, and nothing else changes their number. -/
theorem Serves.rows (h : Serves table sql effect reply table') :
    table'.getD 0 = table.getD 0 + 5 * [effect].countP Effect.isInserted := by
  cases h <;> rfl

/-- A count and an insertion find the rows that are there. -/
theorem Serves.found (h : Serves table sql effect reply table') :
    ∀ rows ∈ effect.found?, rows = table.getD 0 := by
  cases h with
  | created => nofun
  | counted h => exact fun rows hrows => (Option.some.inj hrows).symm
  | inserted => exact fun rows hrows => (Option.some.inj hrows).symm
  | failed h => nofun

/-- A table that is not there was not there before, and nothing was done. -/
theorem Serves.absent (h : Serves table sql effect reply none) :
    table = none ∧ effect = .failed := by
  cases h with
  | failed h => exact ⟨rfl, rfl⟩

/-- The next request of a run takes it to where its effects say. -/
theorem Progress.serve {engine : ClickHouse} {rest : Remainder} {effects : List Effect}
    {request : Wire.Request} {next : Reply → Remainder} (h : Progress engine rest effects)
    (hrest : rest = .ask request next) (hserves : Serves table request.body effect reply table') :
    Progress engine (next reply) (effects ++ [effect]) := by
  cases h with
  | started =>
    rw [run_eq] at hrest
    cases hrest
    rcases hserves.of_create with rfl | ⟨rfl, e, he⟩
    · -- The table was created, but the run may not learn of it.
      cases hreply : ClickHouse.readReply reply with
      | error e =>
        simp only [hreply]
        exact .failed e (Nat.le_refl 0)
      | ok _ =>
        simp only [hreply]
        exact .created
    · simp only [he]
      exact .failed e (Nat.le_refl 0)
  | created =>
    rw [counting_eq] at hrest
    cases hrest
    rcases hserves.of_count with ⟨rows, rfl, result, hresult, hrows⟩ | ⟨rfl, e, he⟩
    · simp only [hresult, hrows]
      cases rows with
      | zero => exact .pending
      | succ rows => exact .populated (Nat.succ_ne_zero rows)
    · simp only [he]
      exact .failed e (Nat.le_refl 0)
  | pending =>
    rw [inserting_eq] at hrest
    cases hrest
    rcases hserves.of_insert with ⟨rows, rfl⟩ | ⟨rfl, e, he⟩
    · -- A run that fails here has inserted all the same.
      cases hreply : ClickHouse.readReply reply with
      | error e =>
        simp only [hreply]
        exact .failed e (Nat.le_refl 1)
      | ok _ =>
        simp only [hreply]
        exact .seeded rows
    · simp only [he]
      exact .failed e (Nat.zero_le 1)
  | seeded rows => cases hrest
  | populated h => cases hrest
  | failed e h => cases hrest

end Serves

/-- A run inserts at most as often as it has found no row. -/
theorem Progress.countP_le {engine : ClickHouse} {rest : Remainder} {effects : List Effect}
    (h : Progress engine rest effects) :
    effects.countP Effect.isInserted ≤ effects.countP Effect.isEmptyCount := by
  cases h with
  | started => exact Nat.le_refl 0
  | created => exact Nat.le_refl 0
  | pending => exact Nat.zero_le _
  | seeded rows => exact Nat.le_refl 1
  | populated h => exact Nat.zero_le _
  | failed e h => exact h

/-- A run that has succeeded has found the table, and has inserted if it found no row. -/
theorem Progress.of_succeeded {engine : ClickHouse} {outcome : Outcome} {effects : List Effect}
    (h : Progress engine (.done (.ok outcome)) effects) :
    .created ∈ effects ∧
      effects.countP Effect.isEmptyCount ≤ effects.countP Effect.isInserted := by
  generalize hrest : (Dialogue.done (.ok outcome) : Remainder) = rest at h
  cases h with
  | started =>
    rw [run_eq] at hrest
    cases hrest
  | created =>
    rw [counting_eq] at hrest
    cases hrest
  | pending =>
    rw [inserting_eq] at hrest
    cases hrest
  | seeded rows => exact ⟨List.mem_cons_self, Nat.le_refl 1⟩
  | populated h => exact ⟨List.mem_cons_self, by simp [Effect.isEmptyCount, h]⟩
  | failed e h => cases hrest

/-! ## The invariant -/

/-- The effects on the requests of one run. -/
def effectsOf [DecidableEq ι] (i : ι) (log : List (ι × Effect)) : List Effect :=
  (log.filter fun entry => entry.1 = i).map Prod.snd

/-- Each statement finds the rows of the start, and five for every insertion before it. -/
def FindsRows (initial : Nat) (log : List (ι × Effect)) : Prop :=
  ∀ before entry after, log = before ++ entry :: after →
    ∀ rows ∈ entry.2.found?, rows = initial + 5 * insertions before

variable {log : List (ι × Effect)} {entry : ι × Effect}

theorem insertions_append (log : List (ι × Effect)) (entry : ι × Effect) :
    insertions (log ++ [entry]) = insertions log + [entry.2].countP Effect.isInserted := by
  rw [insertions, List.countP_append, List.countP_singleton, List.countP_singleton]
  rfl

theorem insertions_around (h : entry.2.isInserted = true) (before after : List (ι × Effect)) :
    insertions (before ++ entry :: after) = insertions before + (insertions after + 1) := by
  rw [insertions, List.countP_append,
    List.countP_cons_of_pos (p := fun entry : ι × Effect => entry.2.isInserted) h]
  rfl

/-- What the next statement finds is found after all insertions so far. -/
theorem FindsRows.append {initial : Nat} (h : FindsRows initial log)
    (hentry : ∀ rows ∈ entry.2.found?, rows = initial + 5 * insertions log) :
    FindsRows initial (log ++ [entry]) := by
  intro before other after heq
  rcases List.eq_nil_or_concat after with rfl | ⟨after, last, rfl⟩
  · obtain ⟨rfl, hother⟩ := List.append_inj' heq rfl
    cases hother
    exact hentry
  · have hsplit : log ++ [entry] = (before ++ other :: after) ++ [last] := by
      rw [heq, List.concat_eq_append, List.append_assoc, List.cons_append]
    exact h before other after (List.append_inj' hsplit rfl).1

/-- As long as nothing is inserted, every count finds an empty table empty. -/
theorem FindsRows.countP_early {early late : List (ι × Effect)} (h : FindsRows 0 (early ++ late))
    (hearly : insertions early = 0) :
    (early.countP fun entry => entry.2.isEmptyCount) =
      early.countP fun entry => entry.2.isCounted := by
  refine List.countP_congr fun entry hentry => ?_
  obtain ⟨before, after, rfl⟩ := List.append_of_mem hentry
  have hfinds := h before entry (after ++ late) (by simp)
  have hbefore : insertions before = 0 := by
    rw [insertions, List.countP_append] at hearly
    exact Nat.eq_zero_of_add_eq_zero_right hearly
  rw [Effect.isEmptyCount_eq hfinds, hbefore]
  simp

/-- From an insertion on, no count finds the table empty. -/
theorem FindsRows.countP_late {early late : List (ι × Effect)} {first : ι × Effect}
    (h : FindsRows 0 (early ++ first :: late)) (hfirst : first.2.isInserted = true) :
    ((first :: late).countP fun entry => entry.2.isEmptyCount) = 0 := by
  refine List.countP_eq_zero.mpr fun entry hentry => ?_
  rw [Bool.not_eq_true]
  rcases List.mem_cons.mp hentry with rfl | hentry
  · exact Effect.isEmptyCount_of_isInserted hfirst
  · obtain ⟨before, after, rfl⟩ := List.append_of_mem hentry
    have hfinds := h (early ++ first :: before) entry after (by simp)
    have hpos : 0 + 5 * insertions (early ++ first :: before) ≠ 0 := by
      rw [insertions_around hfirst]
      omega
    rw [Effect.isEmptyCount_eq hfinds, decide_eq_false hpos, Bool.and_false]

/-- A table that is empty at the start is found empty by the counts before the first insertion, and
by no others. -/
theorem FindsRows.countP_isEmptyCount (h : FindsRows 0 log) :
    (log.countP fun entry => entry.2.isEmptyCount) = earlyCounts log := by
  have hsplit := List.takeWhile_append_dropWhile (p := fun entry : ι × Effect =>
    !entry.2.isInserted) (l := log)
  have hnone : insertions (log.takeWhile fun entry => !entry.2.isInserted) = 0 := by
    refine List.countP_eq_zero.mpr fun entry hentry => ?_
    have hnot := List.mem_takeWhile_imp hentry
    simpa using hnot
  have hfirst := List.head?_dropWhile_not (fun entry : ι × Effect => !entry.2.isInserted) log
  -- The log is cut in front of the first insertion, if there is one.
  rw [earlyCounts]
  generalize (log.takeWhile fun entry => !entry.2.isInserted) = early at hsplit hnone
  generalize (log.dropWhile fun entry => !entry.2.isInserted) = late at hsplit hfirst
  subst hsplit
  rw [List.countP_append, h.countP_early hnone]
  cases late with
  | nil => rfl
  | cons first late =>
    have hinserted : first.2.isInserted = true := by simpa using hfirst
    rw [h.countP_late hinserted, Nat.add_zero]

/-- Of two insertions one stands before the other. -/
theorem exists_before_of_two_le (h : 2 ≤ insertions log) :
    ∃ before entry after, log = before ++ entry :: after ∧ entry.2.isInserted = true ∧
      1 ≤ insertions before := by
  obtain ⟨entry, hentry, hinserted⟩ := List.countP_pos_iff.mp (Nat.lt_of_lt_of_le Nat.zero_lt_two h)
  obtain ⟨before, after, rfl⟩ := List.append_of_mem hentry
  by_cases hbefore : 1 ≤ insertions before
  · exact ⟨before, entry, after, rfl, hinserted, hbefore⟩
  · rw [insertions_around hinserted] at h
    obtain ⟨next, hnext, hnextInserted⟩ := List.countP_pos_iff.mp
      (show 0 < insertions after by omega)
    obtain ⟨between, last, rfl⟩ := List.append_of_mem hnext
    refine ⟨before ++ entry :: between, next, last, by simp, hnextInserted, ?_⟩
    rw [insertions_around hinserted]
    omega

/-- Rows are inserted into a table that is empty at the start only while it is empty, if they are
inserted once at most. -/
theorem FindsRows.inserted_iff (h : FindsRows 0 log) :
    (∀ i rows, (i, .inserted rows) ∈ log → rows = 0) ↔ insertions log ≤ 1 := by
  constructor
  · intro hempty
    by_contra hmany
    obtain ⟨before, ⟨i, effect⟩, after, rfl, hinserted, hpos⟩ :=
      exists_before_of_two_le (Nat.lt_of_not_le hmany)
    cases effect with
    | inserted rows =>
      have hrows := h before (i, .inserted rows) after rfl rows rfl
      have hzero := hempty i rows (List.mem_append_right _ List.mem_cons_self)
      omega
    | created => cases hinserted
    | counted rows => cases hinserted
    | failed => cases hinserted
  · intro honce i rows hmem
    obtain ⟨before, after, rfl⟩ := List.append_of_mem hmem
    have hrows := h before (i, .inserted rows) after rfl rows rfl
    rw [insertions_around rfl] at honce
    omega

/-- Nothing is inserted into a table that has rows at the start. -/
theorem FindsRows.insertions_eq_zero {initial : Nat} (h : FindsRows initial log)
    (hrows : initial ≠ 0) : (log.countP fun entry => entry.2.isEmptyCount) = 0 := by
  refine List.countP_eq_zero.mpr fun entry hentry => ?_
  obtain ⟨before, after, rfl⟩ := List.append_of_mem hentry
  rw [Effect.isEmptyCount_eq (h before entry after rfl)]
  simp [hrows]

variable [DecidableEq ι] {engine : ι → ClickHouse} {initial : Option Nat} {s s' : Shared ι} {i : ι}

theorem rest_advance_self (s : Shared ι) (i : ι) (table : Option Nat) (rest : Remainder) :
    (s.advance i table rest).rest i = rest :=
  Function.update_self ..

theorem rest_advance_of_ne {j : ι} (h : j ≠ i) (s : Shared ι) (table : Option Nat)
    (rest : Remainder) : (s.advance i table rest).rest j = s.rest j :=
  Function.update_of_ne h ..

theorem effectsOf_append (i : ι) (log : List (ι × Effect)) (entry : ι × Effect) :
    effectsOf i (log ++ [entry]) =
      effectsOf i log ++ if entry.1 = i then [entry.2] else [] := by
  rw [effectsOf, List.filter_append, List.map_append, List.filter_singleton]
  split <;> simp_all [effectsOf]

/-- What holds of interleaved runs. -/
structure Inv (engine : ι → ClickHouse) (initial : Option Nat) (log : List (ι × Effect))
    (s : Shared ι) : Prop where
  /-- each run is where its own effects say -/
  progress : ∀ i, Progress (engine i) (s.rest i) (effectsOf i log)
  rows : s.table.getD 0 = initial.getD 0 + 5 * insertions log
  finds : FindsRows (initial.getD 0) log
  /-- the table is not there only if nothing was done -/
  absent : s.table = none → ∀ entry ∈ log, entry.2 = .failed

theorem inv_start (engine : ι → ClickHouse) (initial : Option Nat) :
    Inv engine initial [] (start engine initial) where
  progress := fun _ => .started
  rows := rfl
  finds := by
    intro before entry after heq
    exact absurd heq.symm (List.append_ne_nil_of_right_ne_nil before (List.cons_ne_nil entry after))
  absent := nofun

/-- The invariant holds after each request. -/
theorem Step.inv (hstep : Step s entry s') (h : Inv engine initial log s) :
    Inv engine initial (log ++ [entry]) s' := by
  obtain ⟨hrest, hserves⟩ := hstep
  rename_i i request next effect reply table
  refine ⟨fun j => ?_, ?_, ?_, fun habsent => ?_⟩
  · rw [effectsOf_append]
    by_cases hj : i = j
    · subst hj
      rw [if_pos rfl, rest_advance_self]
      exact (h.progress i).serve hrest hserves
    · -- The others are as far as they were.
      rw [if_neg hj, List.append_nil, rest_advance_of_ne (Ne.symm hj)]
      exact h.progress j
  · rw [insertions_append, Nat.mul_add, ← Nat.add_assoc, ← h.rows]
    exact hserves.rows
  · refine h.finds.append fun rows hrows => ?_
    rw [hserves.found rows hrows, h.rows]
  · obtain rfl : table = none := habsent
    obtain ⟨htable, heffect⟩ := hserves.absent
    intro other hother
    rcases List.mem_append.mp hother with hother | hother
    · exact h.absent htable other hother
    · rw [List.mem_singleton.mp hother]
      exact heffect

/-- The invariant holds after requests in any order. -/
theorem Interleaving.inv (hruns : Interleaving (start engine initial) log s) :
    Inv engine initial log s := by
  induction hruns with
  | refl => exact inv_start engine initial
  | tail hruns hstep ih => exact hstep.inv ih

/-! ## All runs together -/

theorem count_callers {p : Effect → Bool} (i : ι) (log : List (ι × Effect)) :
    ((log.filter fun entry => p entry.2).map Prod.fst).count i = (effectsOf i log).countP p := by
  rw [List.count, List.countP_map, List.countP_filter, effectsOf, List.countP_map,
    List.countP_filter]
  refine List.countP_congr fun entry _ => ?_
  simp [and_comm]

/-- What holds of the numbers of effects of every run holds of all runs together. -/
theorem countP_le_of_effectsOf {p q : Effect → Bool}
    (h : ∀ i, (effectsOf i log).countP p ≤ (effectsOf i log).countP q) :
    (log.countP fun entry => p entry.2) ≤ log.countP fun entry => q entry.2 := by
  have hcallers : ((log.filter fun entry => p entry.2).map Prod.fst).Subperm
      ((log.filter fun entry => q entry.2).map Prod.fst) := by
    refine List.subperm_ext_iff.mpr fun i _ => ?_
    rw [count_callers, count_callers]
    exact h i
  simpa [List.countP_eq_length_filter] using hcallers.length_le

/-- There are at most as many insertions as counts that have found no row. -/
theorem Inv.insertions_le (h : Inv engine initial log s) :
    insertions log ≤ log.countP fun entry => entry.2.isEmptyCount :=
  countP_le_of_effectsOf fun i => (h.progress i).countP_le

/-- Every run has succeeded. -/
def Succeeded (s : Shared ι) : Prop := ∀ i, ∃ outcome, s.rest i = .done (.ok outcome)

/-- When all runs have succeeded, each that has found no row has inserted. -/
theorem Inv.insertions_eq (h : Inv engine initial log s) (hdone : Succeeded s) :
    insertions log = log.countP fun entry => entry.2.isEmptyCount := by
  refine Nat.le_antisymm h.insertions_le (countP_le_of_effectsOf fun i => ?_)
  obtain ⟨outcome, hrest⟩ := hdone i
  have hprogress := h.progress i
  rw [hrest] at hprogress
  exact hprogress.of_succeeded.2

/-- When a run has succeeded, the table is there. -/
theorem Inv.exists_table [Nonempty ι] (h : Inv engine initial log s) (hdone : Succeeded s) :
    ∃ rows, s.table = some rows := by
  obtain ⟨i⟩ := ‹Nonempty ι›
  obtain ⟨outcome, hrest⟩ := hdone i
  have hprogress := h.progress i
  rw [hrest] at hprogress
  obtain ⟨entry, hentry, heffect⟩ := List.mem_map.mp hprogress.of_succeeded.1
  cases htable : s.table with
  | some rows => exact ⟨rows, rfl⟩
  | none =>
    have hfailed := h.absent htable entry (List.mem_of_mem_filter hentry)
    rw [heffect] at hfailed
    cases hfailed

/-- The rows are inserted once, if one run counts before the first insertion. In every interleaving
of runs that all succeed, there are five rows at the end for each run that counts before the first
insertion, if the table was empty or not there, and the rows of the start otherwise. So the rows are
only inserted into an empty table, and five of them into one that was empty or not there, exactly if
no second run counts before the first insertion. -/
theorem Interleaving.seeds_once_iff [Nonempty ι]
    (hruns : Interleaving (start engine initial) log s) (hdone : Succeeded s) :
    s.table = some (if initial.getD 0 = 0 then 5 * earlyCounts log else initial.getD 0) ∧
      ((∀ i rows, (i, .inserted rows) ∈ log → rows = 0) ∧
          (initial.getD 0 = 0 → s.table = some 5) ↔
        (initial.getD 0 = 0 → earlyCounts log = 1)) := by
  have hinv := hruns.inv
  have hequal := hinv.insertions_eq hdone
  have hrows := hinv.rows
  have hfinds := hinv.finds
  obtain ⟨rows, htable⟩ := hinv.exists_table hdone
  rw [htable, Option.getD_some] at hrows
  rw [htable]
  generalize initial.getD 0 = before at hrows hfinds
  by_cases hzero : before = 0
  · -- The runs that have counted early are those that have inserted.
    subst hzero
    rw [hfinds.countP_isEmptyCount] at hequal
    rw [hfinds.inserted_iff, if_pos rfl, hequal]
    rw [hequal, Nat.zero_add] at hrows
    subst hrows
    refine ⟨rfl, fun h => ?_, fun h => ?_⟩
    · intro _
      have hfive := Option.some.inj (h.2 rfl)
      omega
    · rw [h rfl]
      exact ⟨Nat.le_refl 1, fun _ => rfl⟩
  · rw [hfinds.insertions_eq_zero hzero] at hequal
    rw [hequal, Nat.mul_zero, Nat.add_zero] at hrows
    rw [if_neg hzero, hrows]
    refine ⟨rfl, iff_of_true ⟨?_, fun h => absurd h hzero⟩ fun h => absurd h hzero⟩
    -- There is no insertion in the log.
    intro i rows hmem
    exact absurd rfl (List.countP_eq_zero.mp hequal (i, .inserted rows) hmem)

/-! ## Two runs -/

section Steps

variable {engine : ClickHouse} {rows : Nat}

/-- A run creates the table. -/
theorem step_create (hrest : s.rest i = run engine) :
    Step s (i, .created) (s.advance i (some (s.table.getD 0)) (counting engine)) :=
  .serve (hrest.trans (run_eq engine)) (@Serves.created s.table (.answered 200 (.ofText [])))

/-- A run counts the rows. -/
theorem step_count {reply : Reply} (hrest : s.rest i = counting engine)
    (htable : s.table = some rows) (h : Tells reply rows) :
    Step s (i, .counted rows) (s.advance i (some rows) (afterCount engine rows)) := by
  have hserves := Serves.counted h
  rw [← htable] at hserves ⊢
  have hstep := Step.serve (hrest.trans (counting_eq engine)) hserves
  obtain ⟨result, hresult, hrows⟩ := h
  simpa only [hresult, hrows] using hstep

/-- A run inserts the rows. -/
theorem step_insert (hrest : s.rest i = inserting engine) (htable : s.table = some rows) :
    Step s (i, .inserted rows) (s.advance i (some (rows + 5)) (.done (.ok .seeded))) := by
  have hserves : Serves (some rows) insertSql (.inserted rows) (.answered 200 (.ofText []))
      (some (rows + 5)) := .inserted
  rw [← htable] at hserves
  exact .serve (hrest.trans (inserting_eq engine)) hserves

end Steps

theorem tells_zero : Tells (.answered 200 (.ofText
    "\x7b\"meta\":[\x7b\"name\":\"n\"\x7d],\"data\":[[0]]\x7d")) 0 :=
  ⟨[[("n", .int 0)]], rfl, rfl⟩

theorem tells_five : Tells (.answered 200 (.ofText
    "\x7b\"meta\":[\x7b\"name\":\"n\"\x7d],\"data\":[[5]]\x7d")) 5 :=
  ⟨[[("n", .int 5)]], rfl, rfl⟩

/-- One run after another. -/
theorem seeds_once_in_turn :
    let engine : Bool → ClickHouse := fun _ => ⟨"http://127.0.0.1:8123/", "default", "default", ""⟩
    let log : List (Bool × Effect) := [(true, .created), (true, .counted 0), (true, .inserted 0),
      (false, .created), (false, .counted 5)]
    ∃ s, Interleaving (start engine none) log s ∧ Succeeded s ∧ s.table = some 5 ∧
      ∀ i rows, (i, .inserted rows) ∈ log → rows = 0 := by
  intro engine log
  obtain ⟨s, hruns, hdone⟩ : ∃ s, Interleaving (start engine none) log s ∧ Succeeded s := by
    have hcreated := Interleaving.refl.tail (step_create (s := start engine none) (i := true) rfl)
    have hcounted := hcreated.tail (step_count (i := true) rfl rfl tells_zero)
    have hinserted := hcounted.tail (step_insert (i := true) rfl rfl)
    have hcreated' := hinserted.tail (step_create (i := false) rfl)
    have hcounted' := hcreated'.tail (step_count (i := false) rfl rfl tells_five)
    exact ⟨_, hcounted', Bool.forall_bool.mpr ⟨⟨_, rfl⟩, ⟨_, rfl⟩⟩⟩
  obtain ⟨htable, honce⟩ := hruns.seeds_once_iff hdone
  exact ⟨s, hruns, hdone, htable, (honce.mpr fun _ => rfl).1⟩

/-- Both runs count before one of them inserts. -/
theorem not_seeds_once :
    let engine : Bool → ClickHouse := fun _ => ⟨"http://127.0.0.1:8123/", "default", "default", ""⟩
    let log : List (Bool × Effect) := [(true, .created), (false, .created), (true, .counted 0),
      (false, .counted 0), (true, .inserted 0), (false, .inserted 5)]
    (∃ s, Interleaving (start engine none) log s ∧ Succeeded s ∧ s.table = some 10) ∧
      ¬ ∀ (log : List (Bool × Effect)) (s : Shared Bool), Interleaving (start engine none) log s →
        (∀ i rows, (i, .inserted rows) ∈ log → rows = 0) ∧ (Succeeded s → s.table = some 5) := by
  intro engine log
  obtain ⟨s, hruns, hdone, htable⟩ : ∃ s, Interleaving (start engine none) log s ∧ Succeeded s ∧
      s.table = some 10 := by
    have hcreated := Interleaving.refl.tail (step_create (s := start engine none) (i := true) rfl)
    have hcreated' := hcreated.tail (step_create (i := false) rfl)
    have hcounted := hcreated'.tail (step_count (i := true) rfl rfl tells_zero)
    have hcounted' := hcounted.tail (step_count (i := false) rfl rfl tells_zero)
    have hinserted := hcounted'.tail (step_insert (i := true) rfl rfl)
    have hinserted' := hinserted.tail (step_insert (i := false) rfl rfl)
    exact ⟨_, hinserted', Bool.forall_bool.mpr ⟨⟨_, rfl⟩, ⟨_, rfl⟩⟩, rfl⟩
  refine ⟨⟨s, hruns, hdone, htable⟩, fun h => ?_⟩
  have hfive := (h log s hruns).2 hdone
  rw [htable] at hfive
  exact absurd hfive (by decide)

end AskTable.Bootstrap
