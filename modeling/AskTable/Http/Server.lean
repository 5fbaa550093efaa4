import AskTable.Api.Route
import AskTable.Http.Request
/-!
# Answering connections

Every connection carries one request and gets one response, after which it is closed.

## Main definitions

* `Http.render` - a response as it is sent
* `Http.respond` - the dialogue about the bytes of a connection
* `Http.serve` - the dialogue about several connections in turn
-/

namespace AskTable.Http

open Api (Response)

/-- The reason phrase of a status that responses have. -/
def reasonPhrase : Nat → Text
  | 200 => "OK"
  | 204 => "No Content"
  | 400 => "Bad Request"
  | 404 => "Not Found"
  | 405 => "Method Not Allowed"
  | 422 => "Unprocessable Entity"
  | 500 => "Internal Server Error"
  | 503 => "Service Unavailable"
  | _ => "Unknown"

/-- The header lines that every response has, up to the length of its body. -/
def commonHeaders : List Text :=
  ["Content-Type: application/json",
    "Access-Control-Allow-Origin: *",
    "Access-Control-Allow-Credentials: true",
    "Access-Control-Allow-Methods: GET, POST, PUT, DELETE, OPTIONS",
    "Access-Control-Allow-Headers: *"]

/-- The lines of the head of a response. -/
def headLines (response : Response) : List Text :=
  ["HTTP/1.1 " ++ Text.ofNat response.status ++ " " ++ reasonPhrase response.status]
    ++ commonHeaders
    ++ ["Content-Length: " ++ Text.ofNat (Text.utf8Size response.body), "Connection: close"]

/-- What ends a line of a head. -/
def lineEnd : Text := "\r\n"

/-- A response as it is sent. -/
def render (response : Response) : Text :=
  (headLines response).flatMap (fun line => line ++ lineEnd) ++ lineEnd ++ response.body

/-- The response to bytes that are no request. -/
def badRequest : Response := .ofRefusal (.badRequest "Bad Request")

variable {ε : Type}

/-- The dialogue about the bytes of a connection. Without bytes there is no response. -/
def respond (app : App ε) (bytes : Bytes) : App.Run ε (Option Response × App ε) :=
  if bytes = [] then .done (none, app)
  else match Request.parse? bytes with
    | none => .done (some badRequest, app)
    | some request => do
      let (response, app) ← Api.route app request.method request.path request.body
      return (some response, app)

/-- The dialogue about connections, one after another. Of each as much is read as makes a request,
and what is sent back is given. -/
def serve (app : App ε) : (connections : List Bytes) → App.Run ε (List Text × App ε)
  | [] => .done ([], app)
  | sent :: connections => do
    let (response?, app) ← respond app (gather [] (chunksOf sent))
    let (texts, app) ← serve app connections
    return ((response?.map render).getD [] :: texts, app)

end AskTable.Http
