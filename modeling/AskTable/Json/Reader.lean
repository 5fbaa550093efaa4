import AskTable.Json.Fault
/-!
# Reading JSON

A reader takes the text that is left and gives a value with the text that is left after it, or a
fault. Blanks between tokens are the four of the JSON standard. Arrays and objects may be nested 127
deep. A number with a fraction or an exponent, or outside the integer range, becomes the binary
floating-point number that its leading digits and its power of ten give.

## Main definitions

* `Json.readString`, `Json.readNumber` - the leaves
* `Json.nextItem`, `Json.nextKey` - what comes next in an array or an object
* `Json.readValue` - any value
* `Json.parse` - a whole text
-/

namespace AskTable.Json

/-- A fault at the start of what is left. -/
def faultAt (cause : Cause) (t : Text) : Fault := ⟨cause, Text.utf8Size t⟩

/-- A fault `n` bytes into what is left, or at its end if there are fewer. -/
def faultIn (cause : Cause) (n : Nat) (t : Text) : Fault := ⟨cause, Text.utf8Size t - n⟩

/-- The four characters that may stand between tokens. -/
def isSpace (c : Char) : Bool := c = ' ' || c = '\n' || c = '\t' || c = '\r'

/-- The text without the spaces at its start. -/
def skipSpaces (t : Text) : Text := t.dropWhile isSpace

/-! ## Names and strings -/

/-- Reads the rest of one of the names `null`, `true` and `false`. -/
def readLetters : (letters : Text) → Text → Except Fault Text
  | [], t => .ok t
  | _ :: _, [] => .error (faultAt .eofInValue [])
  | letter :: letters, c :: t =>
    if letter = c then readLetters letters t else .error (faultIn .identExpected 1 (c :: t))

/-- The value of four hexadecimal digits. -/
def hexCode? (a b c d : Char) : Option Nat := do
  let a ← Text.hexDigit? a
  let b ← Text.hexDigit? b
  let c ← Text.hexDigit? c
  let d ← Text.hexDigit? d
  return ((a * 16 + b) * 16 + c) * 16 + d

/-- The fault of an escape that has no four hexadecimal digits: four bytes are looked at. -/
def hexFault (t : Text) : Fault :=
  if Text.utf8Size t < 4 then faultAt .eofInString [] else faultIn .badEscape 4 t

/-- The character that an escape of one letter stands for. -/
def shortEscape? : Char → Option Char
  | '"' => some '"'
  | '\\' => some '\\'
  | '/' => some '/'
  | 'b' => some '\x08'
  | 'f' => some '\x0c'
  | 'n' => some '\n'
  | 'r' => some '\r'
  | 't' => some '\t'
  | _ => none

/-- The fault of a leading surrogate that no second escape follows. -/
def surrogateFault : Text → Fault
  | [] => faultAt .eofInString []
  | ['\\'] => faultAt .eofInString []
  | '\\' :: t => faultIn .unfinishedSurrogate 1 t
  | t => faultIn .unfinishedSurrogate 1 t

/-- Puts a character before what a reader gives. -/
def prepend (c : Char) : Except Fault (Text × Text) → Except Fault (Text × Text)
  | .ok (t, rest) => .ok (c :: t, rest)
  | .error fault => .error fault

/-- Reads a string after its opening quote. -/
def readString : Text → Except Fault (Text × Text)
  | [] => .error (faultAt .eofInString [])
  | '"' :: t => .ok ([], t)
  | '\\' :: 'u' :: a :: b :: c :: d :: t =>
    match hexCode? a b c d with
    | none => .error (hexFault (a :: b :: c :: d :: t))
    | some high =>
      if 0xDC00 ≤ high ∧ high ≤ 0xDFFF then .error (faultAt .loneSurrogate t)
      else if high < 0xD800 ∨ 0xDBFF < high then prepend (Char.ofNat high) (readString t)
      else match t with
        | '\\' :: 'u' :: a :: b :: c :: d :: t =>
          match hexCode? a b c d with
          | none => .error (hexFault (a :: b :: c :: d :: t))
          | some low =>
            if low < 0xDC00 ∨ 0xDFFF < low then .error (faultAt .loneSurrogate t)
            else
              prepend (Char.ofNat ((high - 0xD800) * 0x400 + (low - 0xDC00) + 0x10000))
                (readString t)
        | '\\' :: 'u' :: t => .error (hexFault t)
        | t => .error (surrogateFault t)
  | '\\' :: 'u' :: t => .error (hexFault t)
  | '\\' :: c :: t =>
    match shortEscape? c with
    | some e => prepend e (readString t)
    | none => .error (faultIn .badEscape 1 (c :: t))
  | ['\\'] => .error (faultAt .eofInString [])
  | c :: t =>
    if c.toNat < 0x20 then .error (faultIn .controlCharacter 1 (c :: t))
    else prepend c (readString t)

/-! ## Numbers -/

/-- The digits at the start of a text, and the rest. -/
def takeDigits (t : Text) : Text × Text := (t.takeWhile Char.isDigit, t.dropWhile Char.isDigit)

/-- The value of a digit. -/
def digitValue (c : Char) : Nat := c.toNat - '0'.toNat

/-- Significands are kept below this bound. -/
def significandBound : Nat := UInt64.size

/-- Adds digits before the point to a significand, up to the first one that does not fit. It and all
after it are only counted. -/
def gatherWhole (significand : Nat) : Text → Nat × Nat
  | [] => (significand, 0)
  | c :: digits =>
    let next := significand * 10 + digitValue c
    if next < significandBound then gatherWhole next digits else (significand, digits.length + 1)

/-- Adds digits after the point to a significand, up to the first one that does not fit. The second
result is the number of digits added. -/
def gatherPlaces (significand : Nat) : Text → Nat × Nat
  | [] => (significand, 0)
  | c :: digits =>
    let next := significand * 10 + digitValue c
    if next < significandBound then
      let (significand, places) := gatherPlaces next digits
      (significand, places + 1)
    else (significand, 0)

/-- The number nearest to `10 ^ n`. -/
def tenPower? (n : Nat) : Option Binary64 := Binary64.ofRatio? false (Nat.pow 10 n) 1

/-- A significand below the bound times a power of ten: the significand is rounded, then multiplied
or divided by powers of ten of at most 308, each step rounded. What is too large is `none`. -/
def scaleByTen? (significand : Nat) (exponent : Int) : Option Binary64 := do
  let x ← Binary64.ofRatio? false significand 1
  if significand = 0 then return x
  else if 308 < exponent then none
  else if 0 ≤ exponent then x.mul? (← tenPower? exponent.toNat)
  else if -308 ≤ exponent then x.div? (← tenPower? (-exponent).toNat)
  else if -616 ≤ exponent then
    let y ← x.div? (← tenPower? 308)
    y.div? (← tenPower? (-exponent - 308).toNat)
  else Binary64.ofRatio? false 0 1

/-- A floating-point number from its parts; `t` is the text after it. -/
def floatNumber (negative : Bool) (significand : Nat) (exponent : Int) (t : Text) :
    Except Fault (Json × Text) :=
  match scaleByTen? significand exponent with
  | some x => .ok (.float { x with negative }, t)
  | none => .error (faultAt .numberOutOfRange t)

/-- The digits of an exponent, read until they exceed the bound `2 ^ 31 - 1`. The first result tells
whether they did. -/
def gatherExponent (exponent : Nat) : Text → Bool × Nat × Text
  | [] => (false, exponent, [])
  | c :: t =>
    if c.isDigit then
      let next := exponent * 10 + digitValue c
      if next < Nat.pow 2 31 then gatherExponent next t else (true, next, t)
    else (false, exponent, c :: t)

/-- Reads an exponent after its letter, for the given significand and power of ten. -/
def readExponent (negative : Bool) (significand : Nat) (places : Int) (t : Text) :
    Except Fault (Json × Text) :=
  let (down, t) : Bool × Text := match t with
    | '+' :: t => (false, t)
    | '-' :: t => (true, t)
    | _ => (false, t)
  match t with
  | [] => .error (faultAt .eofInValue [])
  | c :: rest =>
    if c.isDigit then
      let (exceeds, exponent, t) := gatherExponent (digitValue c) rest
      if exceeds then
        if significand ≠ 0 && !down then .error (faultAt .numberOutOfRange t)
        else floatNumber negative 0 0 (takeDigits t).2
      else
        let exponent : Int := if down then places - exponent else places + exponent
        floatNumber negative significand exponent t
    else .error (faultIn .badNumber 1 (c :: rest))

/-- Reads the places after a point. -/
def readPlaces (negative : Bool) (significand : Nat) (dropped : Nat) (t : Text) :
    Except Fault (Json × Text) :=
  let (digits, rest) := takeDigits t
  if digits.isEmpty then
    .error (faultIn (if rest.isEmpty then .eofInValue else .badNumber) 1 rest)
  else
    let (significand, places) := gatherPlaces significand digits
    let exponent : Int := dropped - places
    match rest with
    | 'e' :: t | 'E' :: t => readExponent negative significand exponent t
    | _ => floatNumber negative significand exponent rest

/-- An integer without fraction and exponent. Minus zero, and what is below `-2 ^ 63`, is a
floating-point number. -/
def integerNumber (negative : Bool) (n : Nat) (t : Text) : Except Fault (Json × Text) :=
  if negative then
    if n = 0 ∨ Nat.pow 2 63 < n then floatNumber true n 0 t else .ok (.int (-n), t)
  else .ok (.int n, t)

/-- Reads a number after its sign. -/
def readNumber (negative : Bool) (t : Text) : Except Fault (Json × Text) :=
  let (digits, rest) := takeDigits t
  match digits with
  | [] =>
    match rest with
    | [] => .error (faultAt .eofInValue [])
    | _ => .error (faultIn .badNumber 1 rest)
  | '0' :: c :: digits => .error (faultIn .badNumber 1 (c :: digits ++ rest))
  | _ =>
    let (significand, dropped) := gatherWhole 0 digits
    match rest with
    | '.' :: t => readPlaces negative significand dropped t
    | 'e' :: t | 'E' :: t => readExponent negative significand dropped t
    | _ =>
      if dropped = 0 then integerNumber negative significand rest
      else floatNumber negative significand dropped rest

/-! ## Containers -/

/-- Goes to the next item of an array. The result tells whether there is one; if not, the text that
is left begins with the closing bracket. -/
def nextItem (first : Bool) (t : Text) : Except Fault (Bool × Text) :=
  match skipSpaces t with
  | [] => .error (faultAt .eofInList [])
  | ']' :: t => .ok (false, ']' :: t)
  | c :: t =>
    if first then .ok (true, c :: t)
    else if c = ',' then
      match skipSpaces t with
      | [] => .error (faultAt .eofInValue [])
      | ']' :: t => .error (faultIn .trailingComma 1 (']' :: t))
      | t => .ok (true, t)
    else .error (faultIn .itemEndExpected 1 (c :: t))

/-- Reads an array's closing bracket. -/
def closeArray (t : Text) : Except Fault Text :=
  match skipSpaces t with
  | [] => .error (faultAt .eofInList [])
  | ']' :: t => .ok t
  | ',' :: t =>
    match skipSpaces t with
    | ']' :: t => .error (faultIn .trailingComma 1 (']' :: t))
    | t => .error (faultIn .trailingCharacters 1 t)
  | t => .error (faultIn .trailingCharacters 1 t)

/-- Reads a key after its opening quote. -/
def readKey (t : Text) : Except Fault (Option Text × Text) := do
  let (key, t) ← readString t
  return (some key, t)

/-- Reads the next key of an object. If there is none, the text that is left begins with the closing
brace. -/
def nextKey (first : Bool) (t : Text) : Except Fault (Option Text × Text) :=
  match skipSpaces t with
  | [] => .error (faultAt .eofInObject [])
  | '\x7d' :: t => .ok (none, '\x7d' :: t)
  | c :: t =>
    if first then
      if c = '"' then readKey t else .error (faultIn .keyExpected 1 (c :: t))
    else if c = ',' then
      match skipSpaces t with
      | [] => .error (faultAt .eofInValue [])
      | '"' :: t => readKey t
      | '\x7d' :: t => .error (faultIn .trailingComma 1 ('\x7d' :: t))
      | t => .error (faultIn .keyExpected 1 t)
    else .error (faultIn .memberEndExpected 1 (c :: t))

/-- Reads the colon between a key and its value. -/
def readColon (t : Text) : Except Fault Text :=
  match skipSpaces t with
  | [] => .error (faultAt .eofInObject [])
  | ':' :: t => .ok t
  | t => .error (faultIn .colonExpected 1 t)

/-- Reads the items of an array, and its closing bracket, with a reader for one item. The fuel
bounds the number of items. -/
def readItems (item : Text → Except Fault (Json × Text)) :
    (fuel : Nat) → (first : Bool) → Text → Except Fault (List Json × Text)
  | 0, _, t => .error (faultAt .eofInList t)
  | fuel + 1, first, t => do
    let (more, t) ← nextItem first t
    if more then
      let (value, t) ← item t
      let (items, t) ← readItems item fuel false t
      return (value :: items, t)
    else
      let t ← closeArray t
      return ([], t)

/-- Reads the members of an object, and its closing brace, with a reader for one value. Of two
values at one key the later stands in the place of the earlier. -/
def readMembers (value : Text → Except Fault (Json × Text)) :
    (fuel : Nat) → (first : Bool) → Fields → Text → Except Fault (Fields × Text)
  | 0, _, _, t => .error (faultAt .eofInObject t)
  | fuel + 1, first, fields, t => do
    let (key?, t) ← nextKey first t
    match key? with
    | none => return (fields, t.drop 1)
    | some key =>
      let t ← readColon t
      let (v, t) ← value t
      readMembers value fuel false (fields.insert key v) t

/-! ## Values -/

/-- Reads a value that is neither an array nor an object. -/
def readScalar (t : Text) : Except Fault (Json × Text) :=
  match t with
  | [] => .error (faultAt .eofInValue [])
  | c :: rest =>
    if c = 'n' then do return (.null, ← readLetters "ull" rest)
    else if c = 't' then do return (.bool true, ← readLetters "rue" rest)
    else if c = 'f' then do return (.bool false, ← readLetters "alse" rest)
    else if c = '-' then readNumber true rest
    else if c.isDigit then readNumber false t
    else if c = '"' then do
      let (s, t) ← readString rest
      return (.str s, t)
    else .error (faultIn .valueExpected 1 t)

/-- Reads a value. The depth is one more than the number of containers that may still be opened, one
inside the other. -/
def readValue : (depth : Nat) → Text → Except Fault (Json × Text)
  | 0, t => .error (faultIn .tooDeep 1 t)
  | depth + 1, t =>
    match skipSpaces t with
    | '[' :: rest =>
      if depth = 0 then .error (faultIn .tooDeep 1 ('[' :: rest))
      else do
        let (items, t) ← readItems (readValue depth) (rest.length + 1) true rest
        return (.arr items, t)
    | '\x7b' :: rest =>
      if depth = 0 then .error (faultIn .tooDeep 1 ('\x7b' :: rest))
      else do
        let (fields, t) ← readMembers (readValue depth) (rest.length + 1) true [] rest
        return (.obj fields, t)
    | t => readScalar t

/-- The depth at which a whole text is read. -/
def startDepth : Nat := 128

/-- Checks that only spaces are left. -/
def readEnd (t : Text) : Except Fault Unit :=
  match skipSpaces t with
  | [] => .ok ()
  | t => .error (faultIn .trailingCharacters 1 t)

/-- Reads a whole text with the given reader. -/
def parseWith {α : Type} (read : Text → Except Fault (α × Text)) (t : Text) : Except Error α :=
  let reading : Except Fault α := do
    let (value, rest) ← read t
    readEnd rest
    return value
  reading.mapError (·.locate t)

/-- The value that a text writes. -/
def parse (t : Text) : Except Error Json := parseWith (readValue startDepth) t

end AskTable.Json
