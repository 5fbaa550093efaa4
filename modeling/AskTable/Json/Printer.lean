import AskTable.Text.Numeral
import AskTable.Binary64.Shortest
import AskTable.Json.Basic
/-!
# Writing JSON

Compact text has no blanks outside strings. Pretty text puts every item and member on a line of its
own, two blanks deeper than its container. In strings only the quote, the backslash and the control
characters are escaped.

## Main definitions

* `Json.print`, `Json.pretty` - the compact and the pretty text of a value
* `Json.floatText` - a floating-point number, always recognisable as one
-/

namespace AskTable.Json

/-- The text of digits `d` times the power `10 ^ k`. Up to sixteen digits before the point and five
zeros after it are written out, with a point in every case; beyond that the number has one digit
before the point and an exponent with its sign. -/
def decimalText (d : Nat) (k : Int) : Text :=
  let digits := Text.ofNat d
  let point : Int := digits.length + k
  if 0 ≤ k ∧ point ≤ 16 then digits ++ List.replicate k.toNat '0' ++ ".0"
  else if 0 < point ∧ point ≤ 16 then
    digits.take point.toNat ++ "." ++ digits.drop point.toNat
  else if -5 < point ∧ point ≤ 0 then "0." ++ List.replicate (-point).toNat '0' ++ digits
  else
    let mantissa := match digits with
      | first :: second :: rest => first :: '.' :: second :: rest
      | _ => digits
    mantissa ++ (if 0 < point then "e+" else "e") ++ Text.ofInt (point - 1)

/-- A floating-point number in the fewest digits that read back. -/
def floatText (x : Binary64) : Text :=
  let (d, k) := x.shortest
  (if x.negative then "-" else "") ++ decimalText d k

/-- The two lowercase hexadecimal digits of a number below 256. -/
def hexPair (n : Nat) : Text := [Nat.digitChar (n / 16), Nat.digitChar (n % 16)]

/-- One character inside a string. -/
def escape (c : Char) : Text :=
  if c = '"' then "\\\""
  else if c = '\\' then "\\\\"
  else if c = '\n' then "\\n"
  else if c = '\r' then "\\r"
  else if c = '\t' then "\\t"
  else if c = '\x08' then "\\b"
  else if c = '\x0c' then "\\f"
  else if c.toNat < 0x20 then "\\u00" ++ hexPair c.toNat
  else [c]

/-- A string between its quotes. -/
def quote (t : Text) : Text := "\"" ++ t.flatMap escape ++ "\""

mutual

/-- The compact text of a value. -/
def print : Json → Text
  | .null => "null"
  | .bool b => if b then "true" else "false"
  | .int n => Text.ofInt n
  | .float x => floatText x
  | .str t => quote t
  | .arr items => "[" ++ printItems items ++ "]"
  | .obj fields => "\x7b" ++ printFields fields ++ "\x7d"

/-- The items of an array, separated by commas. -/
def printItems : List Json → Text
  | [] => []
  | [item] => print item
  | item :: items => print item ++ "," ++ printItems items

/-- The members of an object, separated by commas. -/
def printFields : List (Text × Json) → Text
  | [] => []
  | [(key, value)] => quote key ++ ":" ++ print value
  | (key, value) :: fields => quote key ++ ":" ++ print value ++ "," ++ printFields fields

end

/-- A new line at the given depth. -/
def newLine (depth : Nat) : Text := "\n" ++ List.replicate (2 * depth) ' '

mutual

/-- The pretty text of a value whose container stands at the given depth. -/
def prettyAt (depth : Nat) : Json → Text
  | .arr (item :: items) =>
    "[" ++ prettyItems (depth + 1) (item :: items) ++ newLine depth ++ "]"
  | .obj (field :: fields) =>
    "\x7b" ++ prettyFields (depth + 1) (field :: fields) ++ newLine depth ++ "\x7d"
  | value => print value

/-- The items of an array, each on its line. -/
def prettyItems (depth : Nat) : List Json → Text
  | [] => []
  | [item] => newLine depth ++ prettyAt depth item
  | item :: items => newLine depth ++ prettyAt depth item ++ "," ++ prettyItems depth items

/-- The members of an object, each on its line. -/
def prettyFields (depth : Nat) : List (Text × Json) → Text
  | [] => []
  | [(key, value)] => newLine depth ++ quote key ++ ": " ++ prettyAt depth value
  | (key, value) :: fields =>
    newLine depth ++ quote key ++ ": " ++ prettyAt depth value ++ "," ++ prettyFields depth fields

end

/-- The pretty text of a value. -/
def pretty (value : Json) : Text := prettyAt 0 value

end AskTable.Json
