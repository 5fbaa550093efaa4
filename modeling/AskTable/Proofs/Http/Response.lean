import AskTable.Proofs.Dialogue
import AskTable.Proofs.Http.Head
import AskTable.Proofs.Json.Grammar
/-!
# Responses on the wire

A response tells by itself where it ends and what it is. Its head is read back by the functions that
read the heads of requests, and announces as many bytes as the body has; so a body may have line
ends, lines like those of a head, and characters of several bytes. Only a request for the options of
a page gets no body. Every other one gets an object, also if it is refused, cannot be read or fails
on the way.

## Main definitions

* `Http.Frames` - a head that announces the body behind it
* `Api.Response.IsReport` - a response with an object and a status that comes with one

## Main results

* `Http.frames_render` - every response is read back
* `Http.reasonPhrase_ne_unknown_iff` - the statuses that have a reason phrase of their own
* `Api.response_of_trace_route` - what is sent for a request
* `Http.exists_response_of_trace` - what is sent for bytes
-/

namespace AskTable

namespace Api

open Dialogue (Trace trace_bind_iff trace_done_prod_iff)

variable {ε : Type} {app next : App ε} {response : Response} {method path body : Text}
  {events : List (Dialogue.Event (App.Call ε) App.Call.Reply)}

/-! ## Bodies -/

/-- A response whose body is an object, with a status that comes with one. -/
inductive Response.IsReport : Response → Prop
  | json {status : Nat} {fields : Fields} (h : status ∈ [200, 400, 404, 405, 422, 500, 503]) :
      IsReport (.json status (.obj fields))

theorem Response.IsReport.status_mem (h : response.IsReport) :
    response.status ∈ [200, 400, 404, 405, 422, 500, 503] := by
  obtain ⟨hstatus⟩ := h
  exact hstatus

theorem Response.IsReport.isObject_body (h : response.IsReport) : Json.IsObject response.body := by
  obtain ⟨-⟩ := h
  exact Json.isObject_print _

/-- The text of an object has its braces at least. -/
theorem Response.IsReport.body_ne_nil (h : response.IsReport) : response.body ≠ [] := by
  intro hnil
  have hobject := h.isObject_body
  rw [hnil] at hobject
  generalize hempty : ([] : Text) = t at hobject
  cases hobject
  cases hempty

theorem exists_fields_refusal (refusal : Refusal) :
    ∃ fields, refusal.toJson = .obj fields := by
  cases refusal <;> exact ⟨_, rfl⟩

theorem isReport_ofRefusal (refusal : Refusal) : (Response.ofRefusal refusal).IsReport := by
  obtain ⟨fields, hfields⟩ := exists_fields_refusal refusal
  rw [Response.ofRefusal, hfields]
  exact .json (List.mem_cons_of_mem 200 refusal.status_mem)

/-- A refusal is told by an object, and so is what is accepted if it is one. -/
theorem isReport_ofResult {result : Except Refusal Json}
    (h : ∀ value, result = .ok value → ∃ fields, value = .obj fields) :
    (Response.ofResult result).IsReport := by
  cases result with
  | error refusal => exact isReport_ofRefusal refusal
  | ok value =>
    obtain ⟨fields, rfl⟩ := h value rfl
    exact .json List.mem_cons_self

/-- The echo is an object. -/
theorem exists_fields_echo {value : Json} (h : Echo.answer body = .ok value) :
    ∃ fields, value = .obj fields := by
  rw [Echo.answer] at h
  split at h
  · cases h
  · split at h
    · cases h
    · exact ⟨_, (Except.ok.inj h).symm⟩

/-- An answer is an object. -/
theorem exists_fields_answer {result : Except Refusal Answer} {value : Json}
    (h : result.map Answer.toJson = .ok value) : ∃ fields, value = .obj fields := by
  cases result with
  | error refusal => cases h
  | ok answer =>
    rw [← Except.ok.inj h, Answer.toJson]
    cases answer.warning <;> exact ⟨_, rfl⟩

theorem isReport_of_trace_visit {page : Page}
    (h : Trace (visit app body page) events (response, next)) : response.IsReport := by
  cases page with
  | root =>
    obtain ⟨-, rfl, -⟩ := trace_done_prod_iff.mp h
    exact .json List.mem_cons_self
  | health =>
    obtain ⟨-, rfl, -⟩ := trace_done_prod_iff.mp h
    exact .json List.mem_cons_self
  | echo =>
    obtain ⟨-, rfl, -⟩ := trace_done_prod_iff.mp h
    exact isReport_ofResult fun _ => exists_fields_echo
  | question =>
    -- Whatever calls are made, the response is that to their result.
    obtain ⟨_, later, ⟨result, _⟩, -, -, hlater⟩ := trace_bind_iff.mp h
    obtain ⟨-, rfl, -⟩ := trace_done_prod_iff.mp hlater
    exact isReport_ofResult fun _ => exists_fields_answer

/-- A request for options gets an empty response, and every other one a report. -/
theorem response_of_trace_route (h : Trace (route app method path body) events (response, next)) :
    (method = "OPTIONS" ∧ response = .noContent) ∨ (method ≠ "OPTIONS" ∧ response.IsReport) := by
  rw [route] at h
  by_cases hoptions : method = "OPTIONS"
  · rw [if_pos hoptions] at h
    obtain ⟨-, hresponse, -⟩ := trace_done_prod_iff.mp h
    exact .inl ⟨hoptions, hresponse⟩
  · rw [if_neg hoptions] at h
    refine .inr ⟨hoptions, ?_⟩
    cases hpage : Page.ofPath? path with
    | none =>
      rw [hpage] at h
      obtain ⟨-, rfl, -⟩ := trace_done_prod_iff.mp h
      exact isReport_ofRefusal .notFound
    | some page =>
      rw [hpage] at h
      change Trace (if method = page.method then _ else _) events (response, next) at h
      split at h
      · exact isReport_of_trace_visit h
      · obtain ⟨-, rfl, -⟩ := trace_done_prod_iff.mp h
        exact isReport_ofRefusal .methodNotAllowed

end Api

namespace Http

open Api (Response)
open Dialogue (Trace trace_bind_iff trace_done_prod_iff)

variable {response : Response}

/-! ## Heads of responses -/

/-- The statuses that have a reason phrase of their own. -/
theorem reasonPhrase_ne_unknown_iff {status : Nat} :
    reasonPhrase status ≠ "Unknown" ↔ status ∈ [200, 204, 400, 404, 405, 422, 500, 503] := by
  constructor
  · intro h
    unfold reasonPhrase at h
    split at h
    -- All statuses with a phrase of their own stand in the list.
    any_goals decide
    exact absurd rfl h
  · simp only [List.mem_cons, List.not_mem_nil, or_false]
    rintro (rfl | rfl | rfl | rfl | rfl | rfl | rfl | rfl) <;> decide

/-- The first line of a head. -/
def statusLine (status : Nat) : Text :=
  "HTTP/1.1 " ++ Text.ofNat status ++ " " ++ reasonPhrase status

/-- The line that announces a length. -/
def lengthLine (n : Nat) : Text := "Content-Length: " ++ Text.ofNat n

theorem headLines_eq (response : Response) :
    headLines response = statusLine response.status :: (commonHeaders ++
      [lengthLine (Text.utf8Size response.body), "Connection: close"]) := rfl

theorem render_eq (response : Response) :
    render response = headText (headLines response) ++ response.body := rfl

theorem notMem_ofNat {c : Char} (hc : c.isDigit = false) (n : Nat) : c ∉ Text.ofNat n := by
  intro hmem
  have hdigit := Nat.isDigit_of_mem_toDigits (by decide) (by decide) hmem
  rw [hc] at hdigit
  cases hdigit

theorem notMem_reasonPhrase {mark : Char} (hmark : mark ∈ ['\r', '\n', ':']) (status : Nat) :
    mark ∉ reasonPhrase status := by
  have hphrase : (reasonPhrase status).all (fun c => !(['\r', '\n', ':'].contains c)) = true := by
    unfold reasonPhrase
    split <;> rfl
  intro hmem
  have hmissed := List.all_eq_true.mp hphrase mark hmem
  rw [List.contains_iff_mem.mpr hmark] at hmissed
  cases hmissed

/-- Neither a line end nor a colon stands in the first line. -/
theorem notMem_statusLine {mark : Char} (hmark : mark ∈ ['\r', '\n', ':']) (status : Nat) :
    mark ∉ statusLine status := by
  have hfixed : mark ∉ ("HTTP/1.1 " : Text) ∧ mark ∉ (" " : Text) ∧ mark.isDigit = false := by
    rw [List.mem_cons, List.mem_cons, List.mem_singleton] at hmark
    rcases hmark with rfl | rfl | rfl
    · decide
    · decide
    · decide
  obtain ⟨hversion, hblank, hdigit⟩ := hfixed
  unfold statusLine
  rw [List.mem_append, List.mem_append, List.mem_append, not_or, not_or, not_or]
  exact ⟨⟨⟨hversion, notMem_ofNat hdigit status⟩, hblank⟩, notMem_reasonPhrase hmark status⟩

theorem isHeadLine_statusLine (status : Nat) : IsHeadLine (statusLine status) where
  ne_nil := by
    unfold statusLine
    simp
  carriageReturn := notMem_statusLine (by decide) status
  lineFeed := notMem_statusLine (by decide) status

theorem isHeadLine_lengthLine (n : Nat) : IsHeadLine (lengthLine n) where
  ne_nil := by
    unfold lengthLine
    simp
  carriageReturn := by
    unfold lengthLine
    rw [List.mem_append, not_or]
    exact ⟨by decide, notMem_ofNat (by decide) n⟩
  lineFeed := by
    unfold lengthLine
    rw [List.mem_append, not_or]
    exact ⟨by decide, notMem_ofNat (by decide) n⟩

/-- Every line of the head of a response stands in it as a line. -/
theorem isHeadLine_of_mem (response : Response) :
    ∀ line ∈ headLines response, IsHeadLine line := by
  have hcommon : ∀ line ∈ commonHeaders, line ≠ [] ∧ '\r' ∉ line ∧ '\n' ∉ line := by decide
  intro line hline
  rw [headLines_eq, List.mem_cons, List.mem_append, List.mem_cons, List.mem_singleton] at hline
  rcases hline with rfl | hline | rfl | rfl
  · exact isHeadLine_statusLine response.status
  · obtain ⟨hne, hreturn, hfeed⟩ := hcommon line hline
    exact ⟨hne, hreturn, hfeed⟩
  · exact isHeadLine_lengthLine _
  · exact ⟨by decide, by decide, by decide⟩

/-- The head of a response announces the number of bytes of its body. -/
theorem contentLength?_headLines (response : Response)
    (hsize : Text.utf8Size response.body < UInt64.size) :
    contentLength? (headText (headLines response)) = some (Text.utf8Size response.body) := by
  have hstatus : announcedLength? (statusLine response.status) = none :=
    announcedLength?_of_notMem (notMem_statusLine (by decide) response.status)
  have hcommon : commonHeaders.findSome? announcedLength? = none := by decide
  have hlength : announcedLength? (lengthLine (Text.utf8Size response.body)) =
      some (Text.utf8Size response.body) := announcedLength?_contentLength hsize
  rw [contentLength?_headText (isHeadLine_of_mem response), headLines_eq, List.findSome?_cons,
    hstatus, List.findSome?_append, hcommon, List.findSome?_cons, hlength, Option.none_or]

/-! ## Responses read back -/

/-- The bytes are a head and a body. The head is the one that is found in them, and it announces the
number of bytes of the body, which fits 64 bits as that of every text in memory. -/
structure Frames (sent : Bytes) (length : Nat) (body : Text) : Prop where
  head : headLength? sent = some length
  rest : sent.drop length = Text.utf8 body
  announced : (Text.utf8 body).length < UInt64.size →
    contentLength? (Text.ofUtf8 (sent.take length)) = some (Text.utf8 body).length

/-- Every response is read back, whatever its body is. -/
theorem frames_render (response : Response) :
    Frames (Text.utf8 (render response)) (Text.utf8 (headText (headLines response))).length
      response.body := by
  rw [render_eq, Text.utf8_append]
  refine ⟨?_, List.drop_left, fun hsize => ?_⟩
  · exact headLength?_headText (List.cons_ne_nil _ _) (isHeadLine_of_mem response) _
  · rw [List.take_left, Text.ofUtf8_utf8]
    rw [Text.length_utf8] at hsize ⊢
    exact contentLength?_headLines response hsize

variable {ε : Type} {app next : App ε} {bytes : Bytes} {response? : Option Response}
  {events : List (Dialogue.Event (App.Call ε) App.Call.Reply)}

/-- What is sent for bytes: nothing but an empty response for a request for options, and a report
for all others. -/
theorem response_of_trace (hbytes : bytes ≠ [])
    (h : Trace (respond app bytes) events (response?, next)) :
    ∃ response, response? = some response ∧
      ((∃ request, Request.parse? bytes = some request ∧ request.method = "OPTIONS") ∧
          response = .noContent ∨
        (¬ ∃ request, Request.parse? bytes = some request ∧ request.method = "OPTIONS") ∧
          response.IsReport) := by
  rw [respond, if_neg hbytes] at h
  cases hparse : Request.parse? bytes with
  | none =>
    rw [hparse] at h
    obtain ⟨-, rfl, -⟩ := trace_done_prod_iff.mp h
    refine ⟨badRequest, rfl, .inr ⟨?_, Api.isReport_ofRefusal _⟩⟩
    rintro ⟨request, hrequest, -⟩
    cases hrequest
  | some request =>
    rw [hparse] at h
    obtain ⟨_, later, ⟨response, _⟩, -, hroute, hlater⟩ := trace_bind_iff.mp h
    obtain ⟨-, rfl, -⟩ := trace_done_prod_iff.mp hlater
    refine ⟨response, rfl, ?_⟩
    rcases Api.response_of_trace_route hroute with ⟨hoptions, hresponse⟩ | ⟨hoptions, hreport⟩
    · exact .inl ⟨⟨request, rfl, hoptions⟩, hresponse⟩
    · refine .inr ⟨?_, hreport⟩
      rintro ⟨other, hother, hmethod⟩
      cases hother
      exact hoptions hmethod

/-- Every answer on the wire tells by itself where it ends and what it is. Whatever the application
is, whatever bytes are sent to it and whatever replies it gets to its calls, there is a response,
and its bytes are read back as a head that announces the body behind it. The status has a reason
phrase of its own. The body is empty for a request for options only, and otherwise it is an
object. -/
theorem exists_response_of_trace (hbytes : bytes ≠ [])
    (h : Trace (respond app bytes) events (response?, next)) :
    ∃ response length, response? = some response ∧
      Frames (Text.utf8 (render response)) length response.body ∧
      response.status ∈ [200, 204, 400, 404, 405, 422, 500, 503] ∧
      reasonPhrase response.status ≠ "Unknown" ∧
      (response.body = [] ↔
        ∃ request, Request.parse? bytes = some request ∧ request.method = "OPTIONS") ∧
      (response.body ≠ [] → Json.IsObject response.body) := by
  obtain ⟨response, hresponse, hcases⟩ := response_of_trace hbytes h
  have hstatus : response.status ∈ [200, 204, 400, 404, 405, 422, 500, 503] := by
    rcases hcases with ⟨-, rfl⟩ | ⟨-, hreport⟩
    · decide
    · have hsubset : [200, 400, 404, 405, 422, 500, 503] ⊆
          [200, 204, 400, 404, 405, 422, 500, 503] := by decide
      exact hsubset hreport.status_mem
  refine ⟨response, _, hresponse, frames_render response, hstatus,
    reasonPhrase_ne_unknown_iff.mpr hstatus, ?_⟩
  rcases hcases with ⟨hoptions, rfl⟩ | ⟨hother, hreport⟩
  · exact ⟨iff_of_true rfl hoptions, fun hne => absurd rfl hne⟩
  · exact ⟨iff_of_false hreport.body_ne_nil hother, fun _ => hreport.isObject_body⟩

/-- A text of two bytes comes back from the echo. -/
theorem exists_response_of_trace_echo :
    let app : App Unit := ⟨{}, .rules, .simulated⟩
    let bytes := Text.utf8 "POST /query HTTP/1.1\r\n\r\n\x7b\"text\": \"é\"\x7d"
    let response : Response := .json 200 (Api.Echo.reply "é")
    bytes ≠ [] ∧ Trace (respond app bytes) [] (some response, app) ∧
      (∃ length, Frames (Text.utf8 (render response)) length response.body) ∧
      (Text.utf8 response.body).length = 67 ∧ Json.IsObject response.body := by
  intro app bytes response
  have hbytes : bytes ≠ [] := by decide
  have hparse : Request.parse? bytes =
      some ⟨"POST", "/query", "\x7b\"text\": \"é\"\x7d"⟩ := by decide
  have hanswer : Api.Echo.answer "\x7b\"text\": \"é\"\x7d" = .ok (Api.Echo.reply "é") := rfl
  have hrespond : respond app bytes = .done (some response, app) := by
    rw [respond, if_neg hbytes, hparse]
    change Dialogue.done (some (Response.ofResult (Api.Echo.answer _)), app) = _
    rw [hanswer]
    rfl
  have htrace : Trace (respond app bytes) [] (some response, app) := by
    rw [hrespond]
    exact .done _
  obtain ⟨_, length, hsome, hframes, -, -, hempty, hobject⟩ :=
    exists_response_of_trace hbytes htrace
  cases hsome
  refine ⟨hbytes, htrace, ⟨length, hframes⟩, by decide, hobject ?_⟩
  rw [Ne, hempty, hparse]
  rintro ⟨request, hrequest, hmethod⟩
  cases hrequest
  exact absurd hmethod (by decide)

end Http

end AskTable
