import AskTable.Text.Basic
import AskTable.Text.CodeRange
/-!
# Blank characters

A character is blank when it has the property `White_Space` of the Unicode standard. Blanks
surround texts and separate words.

## Main definitions

* `Text.isBlank` - blank characters
* `Text.trim`, `Text.trimStart`, `Text.trimEnd` - a text without its outer blanks
* `Text.words` - the pieces of a text between runs of blanks
-/

namespace AskTable.Text

/-- The code points with the property `White_Space`. -/
def blankRanges : List CodeRange :=
  [(0x9, 0xD), (0x20, 0x20), (0x85, 0x85), (0xA0, 0xA0), (0x1680, 0x1680), (0x2000, 0x200A),
    (0x2028, 0x2029), (0x202F, 0x202F), (0x205F, 0x205F), (0x3000, 0x3000)]

/-- Is the character blank? -/
def isBlank (c : Char) : Bool := CodeRange.covers blankRanges c.toNat

/-- The text without the blanks at its start. -/
def trimStart (t : Text) : Text := t.dropWhile isBlank

/-- The text without the blanks at its end. -/
def trimEnd (t : Text) : Text := dropEnd isBlank t

/-- The text without the blanks at both ends. -/
def trim (t : Text) : Text := trimEnd (trimStart t)

/-- Is there nothing but blanks? -/
def isBlankOnly (t : Text) : Bool := t.all isBlank

/-- The words of a text: its longest pieces without blanks. -/
def words (t : Text) : List Text := (t.splitOnP isBlank).filter (!·.isEmpty)

end AskTable.Text
