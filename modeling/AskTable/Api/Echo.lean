import AskTable.Api.Response
import AskTable.Json.Schema
import AskTable.Text.Blank
/-!
# The echo

A text comes back without its outer blanks, with its length.

## Main definitions

* `Api.Echo.answer` - the answer to a body
-/

namespace AskTable.Api.Echo

/-- The least and the greatest length of a text. -/
def lengths : Nat × Nat := (1, 5000)

/-- The shape of a body. The metadata are not used. -/
def shape : Json.Schema :=
  .record "QueryRequest" [("text", .text), ("metadata", .defaulted .object)]

/-- The text of a body. -/
def readText (body : Text) : Except Error Text :=
  match shape.parse body with
  | .ok value => .ok (((value.member? "text").bind Json.text?).getD [])
  | .error e => .error (.json e)

/-- What comes back for a text. -/
def reply (text : Text) : Json :=
  let received := Text.trim text
  .obj [("received", .str received), ("length", .int received.length),
    ("info", .str "Message received successfully")]

/-- The answer to a body. -/
def answer (body : Text) : Except Refusal Json :=
  match readText body with
  | .error e => .error (.ofError e)
  | .ok text =>
    match checkLength "text" text lengths.1 lengths.2 with
    | .error e => .error (.ofError e)
    | .ok () => .ok (reply text)

end AskTable.Api.Echo
