import AskTable.Api.Route
import AskTable.Proofs.Json.Record
/-!
# Bodies with questions

The page of questions takes a body that is a record with one text, which has to have an acceptable
number of characters. A body that is not so is rejected without any call, and the refusal names the
field that is wrong.

## Main definitions

* `Api.Question.Accepts` - the body holds a question of an acceptable length
* `Api.Question.Rejects` - what is wrong with another body

## Main results

* `Api.Question.accepts_or_rejects` - every body is of one of the two kinds
* `Api.route_of_accepts`, `Api.route_of_rejects` - what becomes of a request
-/

namespace AskTable.Api

variable {ε : Type}

theorem Refusal.status_ne (refusal : Refusal) : refusal.status ≠ 200 := by
  intro h
  have hmem := refusal.status_mem
  rw [h] at hmem
  exact absurd hmem (by decide)

namespace Question

variable {body question : Text}

/-- The body holds a question of an acceptable length. -/
structure Accepts (body question : Text) : Prop where
  parse_eq : shape.parse body = .ok (.obj [("question", .str question)])
  least : 3 ≤ question.length
  most : question.length ≤ 500

/-- The body is rejected: it is no record with a question, or the question is too short or too
long. -/
inductive Rejects (body : Text) : Refusal → Prop
  | undecoded {e : Json.Error} (h : shape.parse body = .error e) :
      Rejects body (.validation "body" ("Invalid JSON body: " ++ e.message))
  | short {question : Text} (h : shape.parse body = .ok (.obj [("question", .str question)]))
      (hlength : question.length < 3) :
      Rejects body (.validation "question" "String should have at least 3 characters")
  | long {question : Text} (h : shape.parse body = .ok (.obj [("question", .str question)]))
      (hlength : 500 < question.length) :
      Rejects body (.validation "question" "String should have at most 500 characters")

/-- What is parsed as a body is a record with one text. -/
theorem exists_question_of_parse {value : Json} (h : shape.parse body = .ok value) :
    ∃ question, value = .obj [("question", .str question)] := by
  obtain ⟨depth, fields, rfl, hrecord⟩ := Json.Schema.exists_isRecord_of_parse (by simp) h
  -- The record has one member, and what it can have was read as a string.
  obtain ⟨field, rest, ⟨hname, hgives⟩, hrest, rfl⟩ := List.forall₂_cons_left_iff.mp hrecord
  obtain rfl := List.forall₂_nil_left_iff.mp hrest
  obtain ⟨name, value⟩ := field
  obtain rfl : name = "question" := hname
  rcases hgives with ⟨t, rest, hread⟩ | habsent | habsent
  · have hread : Json.Schema.text.read depth t = .ok (value, rest) := hread
    obtain ⟨question, rfl⟩ := Json.Schema.exists_str_of_read_text hread
    exact ⟨question, rfl⟩
  · cases habsent
  · cases habsent

theorem accepts_or_rejects (body : Text) :
    (∃ question, Accepts body question) ∨ ∃ refusal, Rejects body refusal := by
  cases hparse : shape.parse body with
  | error e => exact Or.inr ⟨_, .undecoded hparse⟩
  | ok value =>
    obtain ⟨question, rfl⟩ := exists_question_of_parse hparse
    rcases Nat.lt_or_ge question.length 3 with hshort | hleast
    · exact Or.inr ⟨_, .short hparse hshort⟩
    · rcases Nat.lt_or_ge 500 question.length with hlong | hmost
      · exact Or.inr ⟨_, .long hparse hlong⟩
      · exact Or.inl ⟨question, hparse, hleast, hmost⟩

theorem readText_of_parse (h : shape.parse body = .ok (.obj [("question", .str question)])) :
    readText body = .ok question := by
  rw [readText, h]
  rfl

/-- A question of an acceptable length is resolved. -/
theorem Accepts.answer_eq (h : Accepts body question) (app : App ε) :
    answer app body = resolve app question := by
  have hlength : checkLength "question" question lengths.1 lengths.2 = .ok () :=
    checkLength_eq_ok_iff.mpr ⟨h.least, h.most⟩
  simp only [answer, readText_of_parse h.parse_eq, hlength]

namespace Rejects

variable {refusal : Refusal}

theorem status_eq (h : Rejects body refusal) : refusal.status = 422 := by
  cases h <;> rfl

/-- A body that is rejected gets its refusal at once. -/
theorem answer_eq (h : Rejects body refusal) (app : App ε) :
    answer app body = .done (.error refusal, app) := by
  cases h with
  | undecoded h => simp [answer, readText, h, Refusal.ofError]
  | @short question h hlength =>
    have hcheck : checkLength "question" question lengths.1 lengths.2 =
        .error (.validation "question" "String should have at least 3 characters") := by
      exact if_pos hlength
    simp only [answer, readText_of_parse h, hcheck, Refusal.ofError]
  | @long question h hlength =>
    have hcheck : checkLength "question" question lengths.1 lengths.2 =
        .error (.validation "question" "String should have at most 500 characters") := by
      have hleast : ¬ question.length < 3 := by omega
      exact (if_neg hleast).trans (if_pos hlength)
    simp only [answer, readText_of_parse h, hcheck, Refusal.ofError]

end Rejects

end Question

variable {path body question : Text}

/-- What is sent to the page of questions is answered as a body. -/
theorem route_question (hpath : Page.ofPath? path = some .question) (app : App ε) :
    route app "POST" path body = visit app body .question := by
  simp [route, hpath, Page.method]

/-- A request with an acceptable question is answered with what the question gets. -/
theorem route_of_accepts (hpath : Page.ofPath? path = some .question)
    (h : Question.Accepts body question) (app : App ε) :
    route app "POST" path body = do
      let (result, app) ← Question.resolve app question
      return (.ofResult (result.map Answer.toJson), app) := by
  rw [route_question hpath, visit, h.answer_eq]

/-- A request with a body that is rejected gets the refusal, and no call is made for it. -/
theorem route_of_rejects {refusal : Refusal} (hpath : Page.ofPath? path = some .question)
    (h : Question.Rejects body refusal) (app : App ε) :
    route app "POST" path body = .done (.json 422 refusal.toJson, app) := by
  rw [route_question hpath, visit, h.answer_eq, ← h.status_eq]
  rfl

/-- What is wrong with a text for the echo is wrong with a field of its body. -/
theorem Echo.status_ne (body : Text) : (Response.ofResult (Echo.answer body)).status ≠ 400 := by
  rw [Echo.answer, Echo.readText]
  cases Echo.shape.parse body with
  | error e => exact (by decide : 422 ≠ 400)
  | ok value =>
    simp only [checkLength]
    split_ifs
    · exact (by decide : 422 ≠ 400)
    · exact (by decide : 422 ≠ 400)
    · exact (by decide : 200 ≠ 400)

/-- A request has an acceptable question for the page of questions, or it is answered at once, and
then neither with an answer to a question nor with the status of a question that is refused. -/
theorem route_cases (app : App ε) (method path body : Text) :
    (method = "POST" ∧ Page.ofPath? path = some .question ∧
        ∃ question, Question.Accepts body question) ∨
      ∃ response, route app method path body = .done (response, app) ∧
        (Page.ofPath? path = some .question → response.status ≠ 200) ∧ response.status ≠ 400 := by
  by_cases hoptions : method = "OPTIONS"
  · exact Or.inr ⟨_, if_pos hoptions, fun _ => by decide, by decide⟩
  · cases hpage : Page.ofPath? path with
    | none => exact Or.inr ⟨_, by rw [route, if_neg hoptions, hpage], by simp, by decide⟩
    | some page =>
      by_cases hmethod : method = page.method
      · have hvisit : route app method path body = visit app body page := by
          rw [route, if_neg hoptions, hpage]
          exact if_pos hmethod
        cases page with
        | root => exact Or.inr ⟨_, hvisit, by simp, by decide⟩
        | health => exact Or.inr ⟨_, hvisit, by simp, by decide⟩
        | echo => exact Or.inr ⟨_, hvisit, by simp, Echo.status_ne body⟩
        | question =>
          subst hmethod
          rcases Question.accepts_or_rejects body with haccepts | ⟨refusal, hrejects⟩
          · exact Or.inl ⟨rfl, rfl, haccepts⟩
          · have hroute := route_of_rejects hpage hrejects app
            refine Or.inr ⟨_, hroute, fun _ => ?_, ?_⟩
            · exact (by decide : 422 ≠ 200)
            · exact (by decide : 422 ≠ 400)
      · refine Or.inr ⟨.ofRefusal .methodNotAllowed, ?_, fun _ => by decide, by decide⟩
        rw [route, if_neg hoptions, hpage]
        exact if_neg hmethod

end AskTable.Api
