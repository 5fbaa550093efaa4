import AskTable.Json.Fault
/-!
# Errors

## Main definitions

* `ChatError` - why the chat model gave no text, with `ChatError.isQuotaExceeded`
* `FileFault` - why a file could not be read
* `Error` - why a request, a setting or a command failed
* `Error.message`, `ChatError.message`, `FileFault.message` - the wordings
-/

namespace AskTable

/-- Why the chat model gave no text. -/
inductive ChatError where
  /-- it answered with a status that is no success -/
  | http (status : Nat) (body : Text)
  /-- no answer came -/
  | transport (detail : Text)
  /-- the answer could not be understood -/
  | decode (detail : Text)
deriving Repr, DecidableEq

namespace ChatError

/-- The wording of a chat error. -/
def message : ChatError → Text
  | .http status body => "LLM API returned status " ++ Text.ofNat status ++ ": " ++ body
  | .transport detail => "LLM API call failed: " ++ detail
  | .decode detail => "Failed to parse LLM response: " ++ detail

/-- Texts that tell of an exhausted quota. -/
def quotaSigns : List Text := ["insufficient_quota", "You exceeded your current quota", "429"]

/-- Does the error tell of an exhausted quota, by its status or anywhere in its wording? -/
def isQuotaExceeded (e : ChatError) : Bool :=
  match e with
  | .http 429 _ => true
  | _ => Text.includesAny e.message quotaSigns

end ChatError

/-- Why a file could not be read. -/
inductive FileFault where
  | missing
  | notUtf8
  | other (detail : Text)
deriving Repr, DecidableEq

/-- The wording of a file fault. -/
def FileFault.message : FileFault → Text
  | .missing => "No such file or directory (os error 2)"
  | .notUtf8 => "stream did not contain valid UTF-8"
  | .other detail => detail

/-- Why something failed. -/
inductive Error where
  | validation (field detail : Text)
  | quotaExceeded (detail : Text)
  | sqlPolicy (reason : Text)
  | drafting (detail : Text)
  | execution (detail : Text)
  | chat (e : ChatError)
  | config (detail : Text)
  | io (detail : Text)
  | json (e : Json.Error)
deriving Repr

/-- The wording of an error. -/
def Error.message : Error → Text
  | .validation field detail => "Validation error on '" ++ field ++ "': " ++ detail
  | .quotaExceeded detail => "LLM quota exceeded: " ++ detail
  | .sqlPolicy reason => "SQL policy violation: " ++ reason
  | .drafting detail => "Translation error: " ++ detail
  | .execution detail => "Execution error: " ++ detail
  | .chat e => "LLM error: " ++ e.message
  | .config detail => "Configuration error: " ++ detail
  | .io detail => "IO error: " ++ detail
  | .json e => "JSON error: " ++ e.message

/-- Checks that a text has a number of characters between the two bounds. -/
def checkLength (field value : Text) (least most : Nat) : Except Error Unit :=
  if value.length < least then
    .error (.validation field
      ("String should have at least " ++ Text.ofNat least ++ " characters"))
  else if most < value.length then
    .error (.validation field ("String should have at most " ++ Text.ofNat most ++ " characters"))
  else .ok ()

theorem checkLength_eq_ok_iff {field value : Text} {least most : Nat} :
    checkLength field value least most = .ok () ↔ least ≤ value.length ∧ value.length ≤ most := by
  unfold checkLength
  split
  · simp; omega
  · split
    · simp; omega
    · simp; omega

end AskTable
