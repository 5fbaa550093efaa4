import AskTable.Api.Echo
import AskTable.Api.Question
/-!
# Routing

A request names a page and a method. Every page has one method; whatever the page, the method
`OPTIONS` gets an empty response.

## Main definitions

* `Api.Page` - what can be asked for
* `Api.Page.ofPath?` - the page that a path names
* `Api.route` - the dialogue about a request
-/

namespace AskTable.Api

/-- What can be asked for. -/
inductive Page where
  | root
  | health
  | echo
  | question
deriving Repr, DecidableEq

namespace Page

/-- The page that a path names. Slashes at its end do not count. -/
def ofPath? (path : Text) : Option Page :=
  let path := Text.dropEnd (· = '/') path
  if path = [] then some .root
  else if path = "/health" then some .health
  else if path = "/query" then some .echo
  else if path = "/nl-query" then some .question
  else none

/-- The method of a page. -/
def method : Page → Text
  | .root | .health => "GET"
  | .echo | .question => "POST"

end Page

variable {ε : Type}

/-- The dialogue about a page. -/
def visit (app : App ε) (body : Text) : Page → App.Run ε (Response × App ε)
  | .root => .done (.json 200 (.obj [("message", .str "Backend running")]), app)
  | .health => .done (.json 200 (.obj [("status", .str "ok")]), app)
  | .echo => .done (.ofResult (Echo.answer body), app)
  | .question => do
    let (result, app) ← Question.answer app body
    return (.ofResult (result.map Answer.toJson), app)

/-- The dialogue about a request; it gives the response and the application afterwards. -/
def route (app : App ε) (method path body : Text) : App.Run ε (Response × App ε) :=
  if method = "OPTIONS" then .done (.noContent, app)
  else match Page.ofPath? path with
    | none => .done (.ofRefusal .notFound, app)
    | some page =>
      if method = page.method then visit app body page
      else .done (.ofRefusal .methodNotAllowed, app)

end AskTable.Api
