import AskTable.Text.Blank
/-!
# The system prompt

The chat model is told how to turn a request into SQL, and which grammar to keep to. Of the grammar
it gets an excerpt: the first characters of its lines, without blank lines and comments.

## Main definitions

* `Prompt.excerpt` - the excerpt of a grammar
* `Prompt.system` - the system prompt for a grammar

## Main results

* `Prompt.length_excerpt_le` - an excerpt has at most `Prompt.excerptLength` characters
-/

namespace AskTable.Prompt

/-- The number of characters that an excerpt may have. -/
def excerptLength : Nat := 2000

/-- Does the line say something: is it neither blank nor a comment, which begins with `#`? -/
def isRuleLine (line : Text) : Bool :=
  let trimmed := Text.trim line
  !trimmed.isEmpty && trimmed.head? != some '#'

/-- The lines of a grammar that say something, joined by line feeds. -/
def ruleText (grammar : Text) : Text :=
  Text.join "\n" ((Text.lines grammar).filter isRuleLine)

/-- The excerpt of a grammar. -/
def excerpt (grammar : Text) : Text := (ruleText grammar).take excerptLength

theorem length_excerpt_le (grammar : Text) : (excerpt grammar).length ≤ excerptLength :=
  List.length_take_le _ _

/-- How to turn a request into SQL. -/
def instruction : Text :=
  "You are a translator that converts natural language analytics requests into STRICT SQL matching "
    ++ "the provided grammar.\nRules:\n1. Output ONLY SQL, no commentary.\n"
    ++ "2. Prefer listing rows (SELECT *) when the user asks to 'find', 'list', 'show' entities.\n"
    ++ "3. Use aggregates only when user explicitly asks for count/sum/avg/min/max.\n"
    ++ "4. Preserve safe simplicity: avoid unnecessary columns.\nSQL:"

/-- What introduces the grammar. -/
def preamble : Text :=
  "\nYou MUST conform to this restricted SQL grammar (subset shown):\n"

/-- What follows the grammar. -/
def constraints : Text :=
  "\nConstraints: only SELECT, table default.MOCK_DATA, no other tables, no DDL, no JOIN."

/-- The system prompt for a grammar. -/
def system (grammar : Text) : Text := instruction ++ preamble ++ excerpt grammar ++ constraints

end AskTable.Prompt
