import AskTable.Text.Utf8
import AskTable.Text.Numeral
import AskTable.Json.Schema
import AskTable.Dialogue
/-!
# Exchanges over the wire

The chat model and the database are reached by requests, each of which gets one reply or none. An
HTTP client sends them, which is no part of this program. It decodes the content of an answer, in
the character set that the answer tells and as JSON, so a content is here what the client makes of
it.

## Main definitions

* `Wire.Request`, `Wire.Reply` - what is sent and what comes back
* `Wire.Content` - what the client makes of the content of an answer
* `Wire.formEncode` - the query of a request as it stands in its target
* `Wire.Exchange` - a dialogue whose calls are requests, with `Wire.send` for one of them
-/

namespace AskTable.Wire

/-- A request. The query is kept apart from the address. -/
structure Request where
  method : Text
  url : Text
  query : List (Text × Text)
  headers : List (Text × Text)
  body : Text
deriving Repr, DecidableEq

/-- The content of an answer, decoded by the client: as a text, and as JSON of a shape. Of a content
that is no JSON of the shape, the client says what is wrong. -/
structure Content where
  text : Text
  json : Json.Schema → Except Text Json

/-- The content that a text makes in UTF-8, without a byte order mark. -/
def Content.ofText (t : Text) : Content where
  text := t
  json schema := (schema.parse t).mapError fun e => "error decoding response body: " ++ e.message

/-- What comes of a request. -/
inductive Reply where
  /-- there is no answer, for a reason -/
  | unreachable (reason : Text)
  /-- there is an answer with a status, but its content cannot be read, for a reason -/
  | unreadable (status : Nat) (reason : Text)
  /-- there is an answer with a status and a content -/
  | answered (status : Nat) (content : Content)

/-- A dialogue whose calls are requests. -/
abbrev Exchange (α : Type) : Type := Dialogue Request (fun _ => Reply) α

/-- One exchange: a request, done with its reply. -/
def send (request : Request) : Exchange Reply := .ask request .done

/-- Does the status tell of success? -/
def isSuccess (status : Nat) : Bool := 200 ≤ status && status < 300

/-- Is the byte written as it is in a form? -/
def isFormByte (b : UInt8) : Bool :=
  let c := Char.ofNat b.toNat
  b < 0x80 && (c.isAlphanum || c = '*' || c = '-' || c = '.' || c = '_')

/-- One byte in a form: a blank becomes a plus sign, and what is not plain is written in
hexadecimal. -/
def formByte (b : UInt8) : Text :=
  if b = 0x20 then "+"
  else if isFormByte b then [Char.ofNat b.toNat]
  else ['%', (Nat.digitChar (b.toNat / 16)).toUpper, (Nat.digitChar (b.toNat % 16)).toUpper]

/-- A text in a form. -/
def formText (t : Text) : Text := (Text.utf8 t).flatMap formByte

/-- Pairs of names and values as a form. -/
def formEncode (pairs : List (Text × Text)) : Text :=
  Text.join "&" (pairs.map fun (name, value) => formText name ++ "=" ++ formText value)

/-- The reason phrase of a status in the messages of this program. -/
def reasonPhrase? : Nat → Option Text
  | 100 => some "Continue"
  | 101 => some "Switching Protocols"
  | 102 => some "Processing"
  | 200 => some "OK"
  | 201 => some "Created"
  | 202 => some "Accepted"
  | 203 => some "Non Authoritative Information"
  | 204 => some "No Content"
  | 205 => some "Reset Content"
  | 206 => some "Partial Content"
  | 207 => some "Multi-Status"
  | 208 => some "Already Reported"
  | 226 => some "IM Used"
  | 300 => some "Multiple Choices"
  | 301 => some "Moved Permanently"
  | 302 => some "Found"
  | 303 => some "See Other"
  | 304 => some "Not Modified"
  | 305 => some "Use Proxy"
  | 307 => some "Temporary Redirect"
  | 308 => some "Permanent Redirect"
  | 400 => some "Bad Request"
  | 401 => some "Unauthorized"
  | 402 => some "Payment Required"
  | 403 => some "Forbidden"
  | 404 => some "Not Found"
  | 405 => some "Method Not Allowed"
  | 406 => some "Not Acceptable"
  | 407 => some "Proxy Authentication Required"
  | 408 => some "Request Timeout"
  | 409 => some "Conflict"
  | 410 => some "Gone"
  | 411 => some "Length Required"
  | 412 => some "Precondition Failed"
  | 413 => some "Payload Too Large"
  | 414 => some "URI Too Long"
  | 415 => some "Unsupported Media Type"
  | 416 => some "Range Not Satisfiable"
  | 417 => some "Expectation Failed"
  | 418 => some "I'm a teapot"
  | 421 => some "Misdirected Request"
  | 422 => some "Unprocessable Entity"
  | 423 => some "Locked"
  | 424 => some "Failed Dependency"
  | 426 => some "Upgrade Required"
  | 428 => some "Precondition Required"
  | 429 => some "Too Many Requests"
  | 431 => some "Request Header Fields Too Large"
  | 451 => some "Unavailable For Legal Reasons"
  | 500 => some "Internal Server Error"
  | 501 => some "Not Implemented"
  | 502 => some "Bad Gateway"
  | 503 => some "Service Unavailable"
  | 504 => some "Gateway Timeout"
  | 505 => some "HTTP Version Not Supported"
  | 506 => some "Variant Also Negotiates"
  | 507 => some "Insufficient Storage"
  | 508 => some "Loop Detected"
  | 510 => some "Not Extended"
  | 511 => some "Network Authentication Required"
  | _ => none

/-- A status with its reason phrase. -/
def statusText (status : Nat) : Text :=
  Text.ofNat status ++ " " ++ (reasonPhrase? status).getD "<unknown status code>"

end AskTable.Wire
