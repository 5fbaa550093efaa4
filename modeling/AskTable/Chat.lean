import AskTable.Json.Schema
import AskTable.Settings
import AskTable.Wire
/-!
# The chat model

A chat model takes a system prompt and a question and gives a text. It is reached by one request.

## Main definitions

* `ChatCall` - a system prompt and a question; the reply is a text or a `ChatError`
* `ChatClient` - how to reach the model
* `ChatClient.request`, `ChatClient.readReply` - the request and what its reply means
* `ChatClient.complete` - the exchange
-/

namespace AskTable

/-- A system prompt and a question. -/
structure ChatCall where
  system : Text
  user : Text
deriving Repr, DecidableEq

/-- What a chat model gives. -/
abbrev ChatReply := Except ChatError Text

/-- How to reach the model. -/
structure ChatClient where
  apiKey : Text
  model : Text
  /-- the address without slashes at its end -/
  baseUrl : Text
deriving Repr, DecidableEq

namespace ChatClient

/-- The client for an address that may end in slashes. -/
def new (apiKey model baseUrl : Text) : ChatClient :=
  ⟨apiKey, model, Text.dropEnd (· = '/') baseUrl⟩

/-- The client of the settings, if they have a key. -/
def ofSettings? (settings : Settings) : Option ChatClient :=
  settings.apiKey.map fun key => new key settings.model settings.baseUrl

/-- One message of a conversation. -/
def message (role content : Text) : Json := .obj [("role", .str role), ("content", .str content)]

/-- The content of the request for a completion. -/
def payload (client : ChatClient) (call : ChatCall) : Json :=
  .obj [
    ("model", .str client.model),
    ("messages", .arr [message "system" call.system, message "user" call.user]),
    ("temperature", .int 1),
    ("max_completion_tokens", .int 1024),
    ("response_format", .obj [("type", .str "text")])]

/-- The request for a completion. -/
def request (client : ChatClient) (call : ChatCall) : Wire.Request where
  method := "POST"
  url := client.baseUrl ++ "/chat/completions"
  query := []
  headers := [("authorization", "Bearer " ++ client.apiKey), ("content-type", "application/json")]
  body := (client.payload call).print

/-- The shape of a completion. -/
def completion : Json.Schema :=
  .record "ChatCompletionResponse" [("choices", .list (.record "ChatChoice" [
    ("message", .record "ChatMessage" [("content", .optional .text)])]))]

/-- The text of a choice; a choice without content has the empty text. -/
def choiceText (choice : Json) : Text :=
  (((choice.member? "message").bind (·.member? "content")).bind Json.text?).getD []

/-- The text of the first choice of a completion. -/
def readCompletion (content : Wire.Content) : ChatReply :=
  match content.json completion with
  | .error detail => .error (.decode detail)
  | .ok value =>
    match value.member? "choices" with
    | some (.arr (choice :: _)) => .ok (choiceText choice)
    | _ => .error (.decode "response contained no choices")

/-- What a reply means. An answer that tells of no success counts with an empty content if this
cannot be read. -/
def readReply : Wire.Reply → ChatReply
  | .unreachable reason => .error (.transport reason)
  | .unreadable status reason =>
    if Wire.isSuccess status then .error (.decode reason) else .error (.http status [])
  | .answered status content =>
    if Wire.isSuccess status then readCompletion content
    else .error (.http status content.text)

/-- Asks the model. -/
def complete (client : ChatClient) (call : ChatCall) : Wire.Exchange ChatReply := do
  return readReply (← Wire.send (client.request call))

end ChatClient

end AskTable
