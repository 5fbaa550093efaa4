import AskTable.Drafting
import AskTable.Engine.ClickHouse
import AskTable.Engine.Executor
/-!
# The application

An application is what stays between requests: the settings, the drafter, and the executor, which
may get its engine while a request is answered. What it needs from outside it asks for by calls;
here is also how these are made over the wire.

## Main definitions

* `App` - settings, drafter and executor
* `App.ofSettings`, `App.sampled` - the applications that settings make
* `App.Call` - a call to the chat model or about an engine
* `App.Run` - a dialogue with these calls
* `App.overWire` - a call as an exchange over the wire
-/

namespace AskTable

/-- What stays between requests. -/
structure App (ε : Type) where
  settings : Settings
  drafter : Drafter
  executor : Executor ε
deriving Repr

namespace App

variable {ε α : Type}

/-- The application that the settings ask for. -/
def ofSettings (files : Files) (settings : Settings) : Except Error (App ε) := do
  let drafter ← Drafter.ofSettings files settings
  return ⟨settings, drafter, Executor.forMode settings.mockMode⟩

/-- The application that answers from the sample, whatever the settings say of that. -/
def sampled (files : Files) (settings : Settings) : Except Error (App ε) := do
  let drafter ← Drafter.ofSettings files settings
  return ⟨settings, drafter, .simulated⟩

/-- A call of an application. -/
inductive Call (ε : Type) where
  /-- to the chat model -/
  | chat (call : ChatCall)
  /-- about an engine -/
  | engine (call : EngineCall ε)

/-- What a call gives. -/
abbrev Call.Reply : Call ε → Type
  | .chat _ => ChatReply
  | .engine call => call.Reply

/-- A dialogue of an application. -/
abbrev Run (ε α : Type) : Type := Dialogue (Call ε) Call.Reply α

/-- A dialogue with the chat model, as one of an application. -/
def withChat (dialogue : Dialogue ChatCall (fun _ => ChatReply) α) : Run ε α :=
  dialogue.interpret fun call => Dialogue.ask (.chat call) .done

/-- A dialogue of an executor, as one of an application. -/
def withEngine (dialogue : Executor.Run ε α) : Run ε α :=
  dialogue.interpret fun call => Dialogue.ask (.engine call) .done

/-- A call as an exchange over the wire. -/
def overWire (files : Files) (settings : Settings) :
    (call : Call ClickHouse) → Wire.Exchange call.Reply
  | .chat call =>
    match ChatClient.ofSettings? settings with
    | some client => client.complete call
    | none => .done (.error (.transport "there is no key"))
  | .engine .build => .done (ClickHouse.connect files settings.clickHouse)
  | .engine (.run engine sql) => engine.query sql.text

end App

end AskTable
