import AskTable.Sql.Statement
/-!
# The read-only policy

A text is acceptable when, in lower case and without outer blanks, it begins with `select`, has no
semicolon, mentions the table and contains no forbidden keyword. The text is not parsed: the checks
look for parts of it, wherever they stand.

## Main definitions

* `Sql.Policy` - the table and how strict the first check is
* `Sql.Violation` - why a text is refused, in the order of the checks
* `Sql.Policy.check` - the verdict on a text
* `Sql.Policy.sanitize` - cleans a text of outer blanks and closing semicolons and checks it

## Main results

* `Sql.Policy.check_of_sanitize` - what cleaning gives is acceptable
-/

namespace AskTable.Sql

/-- How a statement has to begin. -/
inductive Strictness where
  /-- with `select` -/
  | standard
  /-- with `select` and a plain blank -/
  | strict
deriving DecidableEq, Repr

/-- A policy for one table. -/
structure Policy where
  /-- what the table is recognised by, in lower case -/
  ident : Text
  strictness : Strictness
deriving DecidableEq, Repr

/-- Why a text is refused. -/
inductive Violation where
  | notSelect
  | semicolon
  | otherTable (ident : Text)
  | keyword (word : Text)
deriving DecidableEq, Repr

/-- The wording of a refusal. -/
def Violation.message : Violation → Text
  | .notSelect => "Only SELECT statements allowed"
  | .semicolon => "Semicolons not permitted"
  | .otherTable ident => "Query must reference " ++ Text.uppercase ident
  | .keyword word => "Disallowed keyword present: " ++ word

/-- Keywords that are refused anywhere. -/
def forbiddenKeywords : List Text :=
  ["insert", "alter", "drop", "truncate", "optimize", "attach", "detach", "rename", "grant",
    "revoke"]

/-- Keywords that are refused between plain blanks, or at an end of the text. -/
def spacedKeywords : List Text := ["update", "delete"]

namespace Policy

/-- The policy for a table, whatever the case of its name. -/
def forTable (name : Text) (strictness : Strictness) : Policy := ⟨Text.lowercase name, strictness⟩

/-- The policy that statements are checked by before they are run. -/
def standard : Policy := ⟨tableIdent, .standard⟩

/-- The policy for statements that a model has written. -/
def strict : Policy := ⟨tableIdent, .strict⟩

/-- How a statement has to begin. -/
def opening (policy : Policy) : Text :=
  match policy.strictness with
  | .standard => "select"
  | .strict => "select "

/-- The verdict on a text in lower case, without outer blanks. -/
def checkLowered (policy : Policy) (t : Text) : Except Violation Unit :=
  if !Text.beginsWith t policy.opening then .error .notSelect
  else if Text.includes t ";" then .error .semicolon
  else if !Text.includes t policy.ident then .error (.otherTable policy.ident)
  else match forbiddenKeywords.find? (Text.includes t) with
    | some word => .error (.keyword word)
    | none =>
      let spaced (u : Text) : Text := " " ++ u ++ " "
      match spacedKeywords.find? fun word => Text.includes (spaced t) (spaced word) with
      | some word => .error (.keyword word)
      | none => .ok ()

/-- The verdict on a text. -/
def check (policy : Policy) (t : Text) : Except Violation Unit :=
  policy.checkLowered (Text.lowercase (Text.trim t))

/-- The text without outer blanks and without semicolons, and blanks before them, at its end. -/
def clean (t : Text) : Text := Text.trimEnd (Text.dropEnd (· = ';') (Text.trim t))

/-- The statement that a text contains, if it is acceptable once cleaned. -/
def sanitize (policy : Policy) (t : Text) : Except Violation Statement := do
  policy.check (clean t)
  return ⟨clean t⟩

theorem check_of_sanitize {policy : Policy} {t : Text} {s : Statement}
    (h : policy.sanitize t = .ok s) : s.text = clean t ∧ policy.check s.text = .ok () := by
  unfold sanitize at h
  cases hc : policy.check (clean t) with
  | error v => simp [hc, bind, Except.bind] at h
  | ok u =>
    simp only [hc, bind, Except.bind, pure, Except.pure, Except.ok.injEq] at h
    subst h
    exact ⟨rfl, hc⟩

end Policy

end AskTable.Sql
