import AskTable.Text.Basic
import AskTable.Text.VisibleTable
/-!
# Quoting for messages

A text shown inside an error message stands between double quotes. Characters that would not show
by themselves are written as escapes with their code point.

## Main definitions

* `Text.showQuoted` - the text as error messages show it
-/

namespace AskTable.Text

/-- Does the character show by itself? -/
def isVisible (c : Char) : Bool :=
  if c.toNat < 0x80 then 0x20 ≤ c.toNat && c.toNat < 0x7F
  else CodeRange.covers visibleRanges c.toNat

/-- One character inside the quotes. -/
def showChar (c : Char) : Text :=
  if c = '\x00' then "\\0"
  else if c = '\t' then "\\t"
  else if c = '\r' then "\\r"
  else if c = '\n' then "\\n"
  else if c = '"' || c = '\\' then ['\\', c]
  else if isVisible c then [c]
  else "\\u\x7b" ++ Nat.toDigits 16 c.toNat ++ "\x7d"

/-- The text between double quotes, with escapes for what would not show. -/
def showQuoted (t : Text) : Text := "\"" ++ t.flatMap showChar ++ "\""

end AskTable.Text
