import AskTable.Proofs.Json.Record
import AskTable.Proofs.Text.Numeral
import AskTable.Settings
/-!
# Settings, name by name

Settings are made from the values of sixteen names. A value of blanks only is the same as no value,
and nothing else of an environment is looked at. Three of the names have to have numbers: the first
of them that has not is reported. Where there are settings, each field is the matter of one name.

## Main definitions

* `Environment.Sets`, `Environment.AgreesOn` - values that are not blank
* `Environment.IsFaulty`, `Environment.FirstFault` - values that should be numbers and are not
* `Settings.AgreeExcept` - settings that differ at most in the field of one name

## Main results

* `Settings.ofEnvironment_congr` - only the sixteen names are looked at
* `Settings.ofEnvironment_eq_error_iff` - what is reported, and when
* `Settings.agreeExcept_of_ofEnvironment` - another value of one name changes one field at most
-/

namespace AskTable

open Text (IsNumeral)

namespace Environment

variable {env f g : Environment} {name raw : Text} {bound : Nat} {e : Error}
  {numbers : List (Text × Nat)}

/-! ## Values that are not blank -/

/-- The name is set to a value that is not blank. -/
def Sets (env : Environment) (name raw : Text) : Prop :=
  env name = some raw ∧ ∃ c ∈ raw, Text.isBlank c = false

/-- The environments have the same value for the name, if blanks count as no value. -/
def AgreesOn (f g : Environment) (name : Text) : Prop := ∀ raw, f.Sets name raw ↔ g.Sets name raw

theorem value?_eq_some_iff : env.value? name = some raw ↔ env.Sets name raw := by
  rw [value?, Option.filter_eq_some_iff, Sets, and_congr_right_iff]
  intro _
  simp [Text.isBlankOnly]

theorem AgreesOn.value?_eq (h : f.AgreesOn g name) : f.value? name = g.value? name := by
  apply Option.ext
  intro raw
  rw [value?_eq_some_iff, value?_eq_some_iff]
  exact h raw

/-! ## Values that should be numbers -/

/-- The name is set to a value that is no numeral of a number below the bound, even without its
outer blanks. -/
def IsFaulty (env : Environment) (number : Text × Nat) (raw : Text) : Prop :=
  env.Sets number.1 raw ∧ ∀ n < number.2, ¬ IsNumeral (Text.trim raw) n

/-- The first of the names with a value that is no number below its bound, and what is said of
it. -/
inductive FirstFault (env : Environment) : (numbers : List (Text × Nat)) → Error → Prop
  | here {number : Text × Nat} {raw : Text} {numbers : List (Text × Nat)}
      (h : env.IsFaulty number raw) :
      FirstFault env (number :: numbers)
        (.config (number.1 ++ " must be a non-negative integer, got '" ++ raw ++ "'"))
  | later {number : Text × Nat} {numbers : List (Text × Nat)} {e : Error}
      (hnot : ∀ raw, ¬ env.IsFaulty number raw) (h : FirstFault env numbers e) :
      FirstFault env (number :: numbers) e

theorem number?_eq_error_iff :
    env.number? name bound = .error e ↔ ∃ raw, env.IsFaulty (name, bound) raw ∧
      e = .config (name ++ " must be a non-negative integer, got '" ++ raw ++ "'") := by
  have hnone {raw : Text} : Text.natBelow? bound (Text.trim raw) = none ↔
      ∀ n < bound, ¬ IsNumeral (Text.trim raw) n := by
    rw [Option.eq_none_iff_forall_ne_some]
    refine forall_congr' fun n => ?_
    rw [Ne, Text.natBelow?_eq_some_iff, not_and']
  simp only [IsFaulty, ← value?_eq_some_iff, ← hnone]
  rw [number?]
  cases env.value? name with
  | none => simp
  | some raw =>
    cases hread : Text.natBelow? bound (Text.trim raw) with
    | none => simp [hread, eq_comm]
    | some n => simp [hread]

/-- There is a number, or the value is faulty. -/
theorem exists_number?_iff :
    (∃ n, env.number? name bound = .ok n) ↔ ∀ raw, ¬ env.IsFaulty (name, bound) raw := by
  cases hread : env.number? name bound with
  | ok n =>
    refine iff_of_true ⟨n, rfl⟩ fun raw hfaulty => ?_
    have herror := number?_eq_error_iff.mpr ⟨raw, hfaulty, rfl⟩
    rw [hread] at herror
    cases herror
  | error e =>
    obtain ⟨raw, hfaulty, -⟩ := number?_eq_error_iff.mp hread
    exact iff_of_false (by simp) fun hnot => hnot raw hfaulty

theorem not_firstFault_nil : ¬ env.FirstFault [] e := nofun

/-- Of several numbers the first that cannot be read is reported. -/
theorem firstFault_cons_iff :
    env.FirstFault ((name, bound) :: numbers) e ↔
      env.number? name bound = .error e ∨
        (∃ n, env.number? name bound = .ok n) ∧ env.FirstFault numbers e := by
  rw [number?_eq_error_iff, exists_number?_iff]
  constructor
  · intro h
    cases h with
    | here h => exact Or.inl ⟨_, h, rfl⟩
    | later hnot h => exact Or.inr ⟨hnot, h⟩
  · rintro (⟨raw, h, rfl⟩ | ⟨hnot, h⟩)
    · exact .here h
    · exact .later hnot h

/-- There is a first fault where there is a fault. -/
theorem exists_firstFault_iff :
    (∃ e, env.FirstFault numbers e) ↔ ∃ number ∈ numbers, ∃ raw, env.IsFaulty number raw := by
  constructor
  · rintro ⟨e, h⟩
    induction h with
    | here h => exact ⟨_, List.mem_cons_self, _, h⟩
    | later hnot h ih =>
      obtain ⟨number, hmem, hfaulty⟩ := ih
      exact ⟨number, List.mem_cons_of_mem _ hmem, hfaulty⟩
  · rintro ⟨number, hmem, raw, hfaulty⟩
    induction numbers with
    | nil => cases hmem
    | cons first numbers ih =>
      by_cases hfirst : ∃ raw, env.IsFaulty first raw
      · obtain ⟨raw, hfirst⟩ := hfirst
        exact ⟨_, .here hfirst⟩
      · rcases List.mem_cons.mp hmem with rfl | hmem
        · exact absurd ⟨raw, hfaulty⟩ hfirst
        · obtain ⟨e, he⟩ := ih hmem
          exact ⟨e, .later (not_exists.mp hfirst) he⟩

end Environment

namespace Settings

variable {env f g : Environment} {key : Text} {s s' : Settings} {e : Error}

/-- The names that have to have numbers, with their bounds, in the order in which they are read. -/
def numbers : List (Text × Nat) :=
  [("CLICKHOUSE_PORT", UInt16.size), ("LLM_TIMEOUT_SECS", UInt64.size),
    ("DB_TIMEOUT_SECS", UInt64.size)]

/-- Only the values of the names are looked at, and blanks are no values. -/
theorem ofEnvironment_congr (h : ∀ name ∈ names, f.AgreesOn g name) :
    ofEnvironment f = ofEnvironment g := by
  have hvalues : ∀ name ∈ names, f.value? name = g.value? name :=
    fun name hname => (h name hname).value?_eq
  simp only [names, List.forall_mem_cons, List.not_mem_nil, false_imp_iff, implies_true,
    and_true] at hvalues
  simp only [ofEnvironment, Environment.number?, Environment.flag, hvalues]

/-- Settings are refused for the first number that cannot be read, and for nothing else. -/
theorem ofEnvironment_eq_error_iff : ofEnvironment env = .error e ↔ env.FirstFault numbers e := by
  have hbind {α β : Type} {x : Except Error α} {next : α → Except Error β} :
      x >>= next = .error e ↔ x = .error e ∨ ∃ a, x = .ok a ∧ next a = .error e := by
    cases x <;> simp [bind, Except.bind]
  have hpure {α : Type} {a : α} : (pure a : Except Error α) ≠ .error e := nofun
  simp only [ofEnvironment, numbers, hbind, hpure, Environment.firstFault_cons_iff,
    Environment.not_firstFault_nil, and_false, or_false, exists_false, exists_and_right]

/-- The settings agree in every field except the one that the key defines. -/
structure AgreeExcept (key : Text) (s s' : Settings) : Prop where
  apiKey : key ≠ "OPENAI_API_KEY" → s.apiKey = s'.apiKey
  model : key ≠ "OPENAI_MODEL" → s.model = s'.model
  baseUrl : key ≠ "OPENAI_BASE_URL" → s.baseUrl = s'.baseUrl
  grammarPath : key ≠ "GRAMMAR_PATH" → s.grammarPath = s'.grammarPath
  mockMode : key ≠ "MOCK_MODE" → s.mockMode = s'.mockMode
  host : key ≠ "CLICKHOUSE_HOST" → s.clickHouse.host = s'.clickHouse.host
  portNumber : key ≠ "CLICKHOUSE_PORT" → s.clickHouse.portNumber = s'.clickHouse.portNumber
  user : key ≠ "CLICKHOUSE_USER" → s.clickHouse.user = s'.clickHouse.user
  password : key ≠ "CLICKHOUSE_PASSWORD" → s.clickHouse.password = s'.clickHouse.password
  database : key ≠ "CLICKHOUSE_DATABASE" → s.clickHouse.database = s'.clickHouse.database
  secure : key ≠ "CLICKHOUSE_SECURE" → s.clickHouse.secure = s'.clickHouse.secure
  caCert : key ≠ "CLICKHOUSE_CA_CERT" → s.clickHouse.caCert = s'.clickHouse.caCert
  timeoutSeconds :
    key ≠ "DB_TIMEOUT_SECS" → s.clickHouse.timeoutSeconds = s'.clickHouse.timeoutSeconds
  logLevel : key ≠ "LOG_LEVEL" → s.logLevel = s'.logLevel
  bindAddress : key ≠ "BIND_ADDR" → s.bindAddress = s'.bindAddress
  chatTimeoutSeconds : key ≠ "LLM_TIMEOUT_SECS" → s.chatTimeoutSeconds = s'.chatTimeoutSeconds

/-- Where only the value of one key differs, so does at most the field that it defines. -/
theorem agreeExcept_of_ofEnvironment (hkey : ∀ name, name ≠ key → f name = g name)
    (h : ofEnvironment f = .ok s) (h' : ofEnvironment g = .ok s') : AgreeExcept key s s' := by
  have hvalue (name : Text) (hname : key ≠ name) : f.value? name = g.value? name := by
    rw [Environment.value?, hkey name hname.symm, Environment.value?]
  have hflag (name : Text) (default : Bool) (hname : key ≠ name) :
      f.flag name default = g.flag name default := by
    rw [Environment.flag, hvalue name hname, Environment.flag]
  have hnumber {name : Text} {bound : Nat} {n n' : Option Nat} (hname : key ≠ name)
      (hn : f.number? name bound = .ok n) (hn' : g.number? name bound = .ok n') : n = n' := by
    rw [Environment.number?, hvalue name hname, ← Environment.number?, hn'] at hn
    exact (Except.ok.inj hn).symm
  -- Both are made of three numbers and of what can be had of any value.
  obtain ⟨portNumber, hport, h⟩ := Json.bind_eq_ok_iff.mp h
  obtain ⟨chatTimeout, hchat, h⟩ := Json.bind_eq_ok_iff.mp h
  obtain ⟨databaseTimeout, hdatabase, h⟩ := Json.bind_eq_ok_iff.mp h
  obtain ⟨portNumber', hport', h'⟩ := Json.bind_eq_ok_iff.mp h'
  obtain ⟨chatTimeout', hchat', h'⟩ := Json.bind_eq_ok_iff.mp h'
  obtain ⟨databaseTimeout', hdatabase', h'⟩ := Json.bind_eq_ok_iff.mp h'
  rw [← Except.ok.inj h, ← Except.ok.inj h']
  exact {
    apiKey := fun hname => hvalue _ hname
    model := fun hname => congrArg (Option.getD · _) (hvalue _ hname)
    baseUrl := fun hname => congrArg (Option.getD · _) (hvalue _ hname)
    grammarPath := fun hname => congrArg (Option.getD · _) (hvalue _ hname)
    mockMode := fun hname => hflag _ _ hname
    host := fun hname => hvalue _ hname
    portNumber := fun hname => congrArg (Option.filter _) (hnumber hname hport hport')
    user := fun hname => hvalue _ hname
    password := fun hname => hvalue _ hname
    database := fun hname => hvalue _ hname
    secure := fun hname => hflag _ _ hname
    caCert := fun hname => hvalue _ hname
    timeoutSeconds := fun hname => congrArg (Option.getD · _) (hnumber hname hdatabase hdatabase')
    logLevel := fun hname =>
      congrArg (fun value : Option Text => (value.map Text.lowercase).getD _) (hvalue _ hname)
    bindAddress := fun hname => congrArg (Option.getD · _) (hvalue _ hname)
    chatTimeoutSeconds := fun hname => congrArg (Option.getD · _) (hnumber hname hchat hchat') }

/-- Settings are decided name by name: by the values of the names that are not blank, refused
exactly for a value that should be a number and is not, and with one field for each name. -/
theorem ofEnvironment_by_name (f g : Environment) :
    ((∀ name ∈ names, f.AgreesOn g name) → ofEnvironment f = ofEnvironment g) ∧
      ((∃ e, ofEnvironment f = .error e) ↔ ∃ number ∈ numbers, ∃ raw, f.IsFaulty number raw) ∧
      (∀ e, ofEnvironment f = .error e ↔ f.FirstFault numbers e) ∧
      ∀ key s s', (∀ name, name ≠ key → f name = g name) → ofEnvironment f = .ok s →
        ofEnvironment g = .ok s' → AgreeExcept key s s' := by
  refine ⟨ofEnvironment_congr, ?_, fun e => ofEnvironment_eq_error_iff, fun key s s' =>
    agreeExcept_of_ofEnvironment⟩
  simp only [ofEnvironment_eq_error_iff]
  exact Environment.exists_firstFault_iff

/-- Two environments that differ in the level of the log, which is blank in the first, and one whose
number is too large for its name. -/
theorem ofEnvironment_by_name_log_level :
    let shared : List (Text × Text) := [("MOCK_MODE", " No "), ("CLICKHOUSE_PORT", " +8443\n")]
    let env (level : Text) : Environment := fun name =>
      if name = "LOG_LEVEL" then some level else shared.lookup name
    let large : Environment := fun name =>
      if name = "CLICKHOUSE_PORT" then some "65536" else none
    ofEnvironment (fun name => shared.lookup name) = ofEnvironment (env [' ', '\t']) ∧
      (∃ s s', ofEnvironment (env [' ', '\t']) = .ok s ∧ ofEnvironment (env "DEBUG") = .ok s' ∧
        (s.mockMode, s.clickHouse.portNumber) = (false, some 8443) ∧
        s.logLevel = "info" ∧ s'.logLevel = "debug" ∧ AgreeExcept "LOG_LEVEL" s s') ∧
      (∃ number ∈ numbers, ∃ raw, large.IsFaulty number raw) ∧
      ofEnvironment large =
        .error (.config "CLICKHOUSE_PORT must be a non-negative integer, got '65536'") := by
  intro shared env large
  have hlookup (level name : Text) (hname : name ≠ "LOG_LEVEL") :
      env level name = shared.lookup name := if_neg hname
  have hagrees (name : Text) : Environment.AgreesOn (shared.lookup ·) (env [' ', '\t']) name := by
    intro raw
    by_cases hname : name = "LOG_LEVEL"
    · -- Blanks are no value, and there is none without them.
      subst hname
      refine iff_of_false (fun h => ?_) (fun h => ?_)
      · cases h.1
      · obtain ⟨hvalue, c, hc, hvisible⟩ := h
        obtain rfl : [' ', '\t'] = raw := Option.some.inj hvalue
        have hblank : [' ', '\t'].all Text.isBlank = true := by decide
        rw [List.all_eq_true.mp hblank c hc] at hvisible
        cases hvisible
    · rw [Environment.Sets, Environment.Sets, hlookup _ name hname]
  have hfaulty : large.IsFaulty ("CLICKHOUSE_PORT", UInt16.size) "65536" := by
    refine ⟨⟨rfl, '6', by decide, by decide⟩, fun n hn hnumeral => ?_⟩
    have hread : Text.natBelow? UInt16.size (Text.trim "65536") = some n :=
      Text.natBelow?_eq_some_iff.mpr ⟨hnumeral, hn⟩
    have hnone : Text.natBelow? UInt16.size (Text.trim "65536") = none := by decide
    rw [hnone] at hread
    cases hread
  refine ⟨(ofEnvironment_by_name _ (env [' ', '\t'])).1 fun name _ => hagrees name,
    ⟨_, _, rfl, rfl, rfl, rfl, rfl, ?_⟩,
    ⟨_, List.mem_cons_self, _, hfaulty⟩, ?_⟩
  · refine (ofEnvironment_by_name (env [' ', '\t']) (env "DEBUG")).2.2.2 "LOG_LEVEL" _ _ ?_ rfl rfl
    intro name hname
    rw [hlookup _ name hname, hlookup _ name hname]
  · exact ((ofEnvironment_by_name large large).2.2.1 _).mpr (.here hfaulty)

end Settings

end AskTable
