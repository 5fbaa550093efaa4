import AskTable.Text.Visible
import AskTable.Text.Utf8
import AskTable.Json.Printer
/-!
# What can be wrong with a JSON text

An error has a cause and a place. While a text is being read, a place is kept as the number of
bytes that are left after it; at the end it becomes a line and a column, the column being the
number of bytes of that line up to the place.

## Main definitions

* `Json.Cause` - why a text is refused, with its wording `Json.Cause.message`
* `Json.Fault` - a cause and the number of bytes left
* `Json.Error` - a cause with line and column
-/

namespace AskTable.Json

/-- Why a text is refused. The last four causes concern texts that are well formed but do not have
the expected shape. -/
inductive Cause where
  | eofInList
  | eofInObject
  | eofInString
  | eofInValue
  | colonExpected
  | itemEndExpected
  | memberEndExpected
  | identExpected
  | valueExpected
  | badEscape
  | badNumber
  | numberOutOfRange
  | badUnicode
  | controlCharacter
  | keyExpected
  | loneSurrogate
  | unfinishedSurrogate
  | trailingComma
  | trailingCharacters
  | tooDeep
  | wrongType (found : Json) (wanted : Text)
  | wrongLength (length : Nat) (title : Text) (members : Nat)
  | missingMember (name : Text)
  | repeatedMember (name : Text)
deriving Repr, BEq

/-- How a value of the wrong type is named. Of a container only the kind is told. -/
def describe : Json → Text
  | .null => "null"
  | .bool b => "boolean `" ++ (if b then "true" else "false") ++ "`"
  | .int n => "integer `" ++ Text.ofInt n ++ "`"
  | .float x => "floating point `" ++ floatText x ++ "`"
  | .str t => "string " ++ Text.showQuoted t
  | .arr _ => "sequence"
  | .obj _ => "map"

/-- The wording of a cause. -/
def Cause.message : Cause → Text
  | .eofInList => "EOF while parsing a list"
  | .eofInObject => "EOF while parsing an object"
  | .eofInString => "EOF while parsing a string"
  | .eofInValue => "EOF while parsing a value"
  | .colonExpected => "expected `:`"
  | .itemEndExpected => "expected `,` or `]`"
  | .memberEndExpected => "expected `,` or `\x7d`"
  | .identExpected => "expected ident"
  | .valueExpected => "expected value"
  | .badEscape => "invalid escape"
  | .badNumber => "invalid number"
  | .numberOutOfRange => "number out of range"
  | .badUnicode => "invalid unicode code point"
  | .controlCharacter => "control character (\\u0000-\\u001F) found while parsing a string"
  | .keyExpected => "key must be a string"
  | .loneSurrogate => "lone leading surrogate in hex escape"
  | .unfinishedSurrogate => "unexpected end of hex escape"
  | .trailingComma => "trailing comma"
  | .trailingCharacters => "trailing characters"
  | .tooDeep => "recursion limit exceeded"
  | .wrongType found wanted => "invalid type: " ++ describe found ++ ", expected " ++ wanted
  | .wrongLength length title members =>
    "invalid length " ++ Text.ofNat length ++ ", expected struct " ++ title ++ " with "
      ++ Text.ofNat members ++ (if members = 1 then " element" else " elements")
  | .missingMember name => "missing field `" ++ name ++ "`"
  | .repeatedMember name => "duplicate field `" ++ name ++ "`"

/-- A cause at the place after which `left` bytes of the text remain. -/
structure Fault where
  cause : Cause
  left : Nat
deriving Repr, BEq

/-- A cause with its line, counted from 1, and its column. -/
structure Error where
  cause : Cause
  line : Nat
  column : Nat
deriving Repr, BEq

/-- The wording of an error with its place. -/
def Error.message (e : Error) : Text :=
  e.cause.message ++ " at line " ++ Text.ofNat e.line ++ " column " ++ Text.ofNat e.column

/-- The line and the column reached after `offset` more bytes, from the given ones on. -/
def placeFrom (line column : Nat) : Text → (offset : Nat) → Nat × Nat
  | [], offset => (line, column + offset)
  | c :: t, offset =>
    if offset < c.utf8Size then (line, column + offset)
    else if c = '\n' then placeFrom (line + 1) 0 t (offset - 1)
    else placeFrom line (column + c.utf8Size) t (offset - c.utf8Size)

/-- The error that a fault in the given text amounts to. -/
def Fault.locate (fault : Fault) (t : Text) : Error :=
  let (line, column) := placeFrom 1 0 t (Text.utf8Size t - fault.left)
  ⟨fault.cause, line, column⟩

end AskTable.Json
