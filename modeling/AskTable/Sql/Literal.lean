import AskTable.Text.Basic
/-!
# String literals

A string literal stands between single quotes. A quote or a backslash inside it is written after a
backslash.

## Main definitions

* `Sql.quote` - the literal of a text
* `Sql.readLiteral?` - reads a literal after its opening quote

## Main results

* `Sql.readLiteral?_quote` - a literal is read back exactly, and nothing after it is touched
-/

namespace AskTable.Sql

/-- One character inside a literal. -/
def escape (c : Char) : Text := if c = '\\' || c = '\'' then ['\\', c] else [c]

/-- The literal of a text. -/
def quote (t : Text) : Text := '\'' :: (t.flatMap escape ++ ['\''])

/-- The text of a literal and what follows it, from behind the opening quote. The character after a
backslash is taken as it is; the first other quote ends the literal. -/
def readLiteral? : Text → Option (Text × Text)
  | [] => none
  | '\'' :: rest => some ([], rest)
  | '\\' :: c :: t => (readLiteral? t).map fun (u, rest) => (c :: u, rest)
  | c :: t => (readLiteral? t).map fun (u, rest) => (c :: u, rest)

theorem readLiteral?_escape (c : Char) (t : Text) :
    readLiteral? (escape c ++ t) = (readLiteral? t).map fun (u, rest) => (c :: u, rest) := by
  unfold escape
  by_cases h : c = '\\' ∨ c = '\''
  · have : (decide (c = '\\') || decide (c = '\'')) = true := by simpa using h
    simp [this, readLiteral?]
  · simp only [not_or] at h
    simp only [h.1, h.2, decide_false, Bool.or_self, Bool.false_eq_true, if_false,
      List.singleton_append]
    rw [readLiteral?.eq_4]
    · exact h.2
    · rintro d u rfl; exact absurd rfl h.1

theorem readLiteral?_quote (t rest : Text) :
    readLiteral? ((quote t ++ rest).drop 1) = some (t, rest) := by
  simp only [quote, List.cons_append, List.drop_succ_cons, List.drop_zero, List.append_assoc]
  induction t with
  | nil => rfl
  | cons c t ih => simpa [readLiteral?_escape] using ih

end AskTable.Sql
