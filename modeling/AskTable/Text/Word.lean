import AskTable.Text.Basic
import AskTable.Text.WordTable
/-!
# Word characters

Word characters are letters, marks, decimal digits and connecting punctuation. A word begins or
ends where a word character and another character, or an end of the text, meet.

## Main definitions

* `Text.isWord` - word characters
* `Text.atWordEdge` - the place between two characters is the edge of a word
-/

namespace AskTable.Text

/-- Is the character a word character? -/
def isWord (c : Char) : Bool :=
  if c.toNat < 0x80 then c.isAlphanum || c = '_' else CodeRange.covers wordRanges c.toNat

/-- Is the place after the character `before` (`none` at the start of a text) and ahead of `t` the
edge of a word? -/
def atWordEdge (before : Option Char) (t : Text) : Bool :=
  before.any isWord != t.head?.any isWord

/-- Letters and digits of ASCII are word characters. -/
theorem isWord_of_isAlphanum {c : Char} (h : c.isAlphanum = true) (hc : c.toNat < 0x80) :
    isWord c = true := by
  simp [isWord, hc, h]

end AskTable.Text
