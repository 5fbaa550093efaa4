import AskTable.Error
import AskTable.Json.Schema
/-!
# Responses

A response has a status and a body. When a request is refused, the refusal decides both: the body
says what is wrong.

## Main definitions

* `Api.Response` - a status and a body
* `Api.Refusal` - why a request is refused
* `Api.Refusal.ofError` - the refusal that an error amounts to, unless its circumstances say more

## Main results

* `Api.Refusal.status_mem` - there are six statuses of refusals
-/

namespace AskTable.Api

/-- A status and a body. -/
structure Response where
  status : Nat
  body : Text
deriving Repr, DecidableEq

/-- Why a request is refused. -/
inductive Refusal where
  /-- a field of the body is not acceptable -/
  | validation (field detail : Text)
  | badRequest (detail : Text)
  | notFound
  | methodNotAllowed
  | serviceUnavailable (detail : Text)
  | internal (detail : Text)
deriving Repr, DecidableEq

namespace Refusal

/-- The wording of a refusal. -/
def message : Refusal → Text
  | .validation _ detail | .badRequest detail | .serviceUnavailable detail | .internal detail =>
    detail
  | .notFound => "Not Found"
  | .methodNotAllowed => "Method Not Allowed"

/-- The status of a refusal. -/
def status : Refusal → Nat
  | .validation .. => 422
  | .badRequest _ => 400
  | .notFound => 404
  | .methodNotAllowed => 405
  | .serviceUnavailable _ => 503
  | .internal _ => 500

theorem status_mem (refusal : Refusal) : refusal.status ∈ [400, 404, 405, 422, 500, 503] := by
  cases refusal <;> simp [status]

/-- What the body says of a refusal. Of an unacceptable field it tells the place. -/
def toJson : Refusal → Json
  | .validation field detail =>
    .obj [("detail", .arr [.obj [("loc", .arr [.str "body", .str field]), ("msg", .str detail),
      ("type", .str "value_error")]])]
  | other => .obj [("detail", .str other.message)]

/-- The refusal that an error amounts to. Only what is wrong with the body is the sender's fault. -/
def ofError : Error → Refusal
  | .validation field detail => .validation field detail
  | .json e => .validation "body" ("Invalid JSON body: " ++ e.message)
  | e => .internal e.message

end Refusal

namespace Response

/-- A response whose body is JSON. -/
def json (status : Nat) (value : Json) : Response := ⟨status, value.print⟩

/-- A response without a body. -/
def noContent : Response := ⟨204, []⟩

/-- The response that tells of a refusal. -/
def ofRefusal (refusal : Refusal) : Response := json refusal.status refusal.toJson

/-- The response to a request that was accepted, or refused. -/
def ofResult : Except Refusal Json → Response
  | .ok value => json 200 value
  | .error refusal => ofRefusal refusal

/-- The body as JSON, if it is. -/
def value? (response : Response) : Option Json := (Json.parse response.body).toOption

end Response

end AskTable.Api
