import AskTable.Json.Reader
/-!
# Reading JSON of an expected shape

A schema says which shape a text must have. A record is written as an object, whose members may come
in any order and among unknown ones, or as the array of its members' values. Unknown members are
passed over without being built, which is more lenient than reading them: a surrogate may stand
alone, and nesting has no bound.

A record that is well formed but lacks a member, or has one twice, is faulted after its closing
bracket if that comes next.

## Main definitions

* `Json.Schema` - an expected shape
* `Json.Schema.read` - reads a text of that shape
* `Json.Schema.parse` - reads a whole text; of a record it gives the object with exactly the members
  of the schema, in the schema's order
-/

namespace AskTable.Json

/-- An expected shape. -/
inductive Schema where
  /-- any value -/
  | any
  /-- a string -/
  | text
  /-- an object -/
  | object
  /-- an array of values of one shape -/
  | list (item : Schema)
  /-- `null` or a value; as a member of an object it may be missing -/
  | optional (value : Schema)
  /-- like `optional`, and it may be missing at the end of a record written as an array too -/
  | defaulted (value : Schema)
  /-- a record with its title and its members -/
  | record (title : Text) (members : List (Text × Schema))

namespace Schema

/-- What a value that is not there counts as, when it may be missing from an object. -/
def absent? : Schema → Option Json
  | .optional _ | .defaulted _ => some .null
  | _ => none

/-- What a value that is not there counts as, when it may be missing from an array. -/
def absentItem? : Schema → Option Json
  | .defaulted _ => some .null
  | _ => none

end Schema

/-! ## Passing over a value -/

/-- Passes over a string after its opening quote. -/
def skipString : Text → Except Fault Text
  | [] => .error (faultAt .eofInString [])
  | '"' :: t => .ok t
  | '\\' :: 'u' :: a :: b :: c :: d :: t =>
    match hexCode? a b c d with
    | none => .error (hexFault (a :: b :: c :: d :: t))
    | some _ => skipString t
  | '\\' :: 'u' :: t => .error (hexFault t)
  | '\\' :: c :: t =>
    match shortEscape? c with
    | some _ => skipString t
    | none => .error (faultIn .badEscape 1 (c :: t))
  | ['\\'] => .error (faultAt .eofInString [])
  | c :: t =>
    if c.toNat < 0x20 then .error (faultIn .controlCharacter 1 (c :: t)) else skipString t

/-- Passes over an exponent after its letter. -/
def skipExponent (t : Text) : Except Fault Text :=
  let t := match t with
    | '+' :: t | '-' :: t => t
    | _ => t
  match takeDigits t with
  | ([], rest) => .error (faultIn .badNumber 1 rest)
  | (_, rest) => .ok rest

/-- Passes over a number after its sign. -/
def skipNumber (t : Text) : Except Fault Text :=
  match takeDigits t with
  | ([], rest) => .error (faultIn .badNumber 1 rest)
  | ('0' :: c :: digits, rest) => .error (faultIn .badNumber 1 (c :: digits ++ rest))
  | (_, '.' :: t) =>
    match takeDigits t with
    | ([], rest) => .error (faultIn .badNumber 1 rest)
    | (_, 'e' :: t) | (_, 'E' :: t) => skipExponent t
    | (_, rest) => .ok rest
  | (_, 'e' :: t) | (_, 'E' :: t) => skipExponent t
  | (_, rest) => .ok rest

/-- Passes over a value that is no array and no object. -/
def skipScalar : Text → Except Fault Text
  | [] => .error (faultAt .eofInValue [])
  | c :: t =>
    if c = 'n' then readLetters "ull" t
    else if c = 't' then readLetters "rue" t
    else if c = 'f' then readLetters "alse" t
    else if c = '-' then skipNumber t
    else if c.isDigit then skipNumber (c :: t)
    else if c = '"' then skipString t
    else .error (faultIn .valueExpected 1 (c :: t))

/-- Passes over a key and its colon. -/
def skipKey (t : Text) : Except Fault Text :=
  match skipSpaces t with
  | [] => .error (faultAt .eofInObject [])
  | '"' :: t => do
    let t ← skipString t
    readColon t
  | t => .error (faultIn .keyExpected 1 t)

/-- A container that is open while a value inside it is passed over. -/
inductive Bracket where
  | square
  | curly
deriving Repr, DecidableEq

/-- The closing bracket of a container. -/
def Bracket.closing : Bracket → Char
  | .square => ']'
  | .curly => '\x7d'

/-- Where in a value the passing over has got to. -/
inductive SkipState where
  /-- ahead of a value -/
  | atValue
  /-- behind an opening bracket -/
  | opened
  /-- behind an item of the innermost container -/
  | behindItem
deriving Repr, DecidableEq

/-- Passes over the rest of a value of which the given containers are open, innermost first. The
fuel bounds the number of steps. -/
def skipFrom : (fuel : Nat) → List Bracket → SkipState → Text → Except Fault Text
  | 0, _, _, t => .error (faultAt .eofInValue t)
  | fuel + 1, frames, .atValue, t =>
    match skipSpaces t with
    | '[' :: t => skipFrom fuel (.square :: frames) .opened t
    | '\x7b' :: t => skipFrom fuel (.curly :: frames) .opened t
    | t => do
      let t ← skipScalar t
      skipFrom fuel frames .behindItem t
  | _ + 1, [], _, t => .ok t
  | fuel + 1, frame :: frames, state, t =>
    let t := skipSpaces t
    let goOn (t : Text) : Except Fault Text := do
      let t ← if frame = .curly then skipKey t else .ok t
      skipFrom fuel (frame :: frames) .atValue t
    match t with
    | [] => .error (faultAt (if frame = .curly then .eofInObject else .eofInList) [])
    | c :: rest =>
      if c = frame.closing then skipFrom fuel frames .behindItem rest
      else if state = .opened then goOn t
      else if c = ',' then goOn rest
      else .error
        (faultIn (if frame = .curly then .memberEndExpected else .itemEndExpected) 1 t)

/-- Passes over a value. -/
def skipValue (t : Text) : Except Fault Text := skipFrom (2 * t.length + 2) [] .atValue t

/-! ## Reading by a schema -/

/-- The fault of a value that is not of the wanted type. A scalar is read first, and may be faulty
itself; of a container only the opening bracket is looked at. -/
def mismatch (wanted : Text) (t : Text) : Fault :=
  match t with
  | '[' :: _ => faultAt (.wrongType (.arr []) wanted) t
  | '\x7b' :: _ => faultAt (.wrongType (.obj []) wanted) t
  | _ =>
    match readScalar t with
    | .ok (found, rest) => faultAt (.wrongType found wanted) rest
    | .error fault => fault

/-- Opens a container: checks that the depth allows it. -/
def openContainer (depth : Nat) (t : Text) : Except Fault Nat :=
  if depth ≤ 1 then .error (faultIn .tooDeep 1 t) else .ok (depth - 1)

/-- A member of a record: its name, what it counts as when it is missing from an object or from an
array, and a reader for its value. -/
structure Member where
  name : Text
  absent? : Option Json
  absentItem? : Option Json
  read : Text → Except Fault (Json × Text)

/-- What is left after a record's closing brace, if that comes next. -/
def afterBrace (t : Text) : Text :=
  match skipSpaces t with
  | '\x7d' :: t => t
  | t => t

/-- The object that the members found make, in the order of the record. The first member that is
missing and may not be is named. -/
def assemble (found : Fields) : List Member → Except Text Fields
  | [] => .ok []
  | member :: members =>
    match (found.get? member.name).or member.absent? with
    | none => .error member.name
    | some value => (assemble found members).map ((member.name, value) :: ·)

/-- Reads the members of a record written as an object, and its closing brace. The fuel bounds their
number. -/
def readFields (members : List Member) :
    (fuel : Nat) → (first : Bool) → (found : Fields) → Text → Except Fault (Fields × Text)
  | 0, _, _, t => .error (faultAt .eofInObject t)
  | fuel + 1, first, found, t => do
    let (key?, t) ← nextKey first t
    match key? with
    | none =>
      match assemble found members with
      | .ok fields => return (fields, t.drop 1)
      | .error name => throw (faultAt (.missingMember name) (t.drop 1))
    | some key =>
      match members.find? (·.name = key) with
      | none =>
        let t ← readColon t
        let t ← skipValue t
        readFields members fuel false found t
      | some member =>
        if (found.get? key).isSome then throw (faultAt (.repeatedMember key) (afterBrace t))
        else
          let t ← readColon t
          let (value, t) ← member.read t
          readFields members fuel false (found ++ [(key, value)]) t

/-- Reads the values of a record written as an array, up to the last one. The title and the number
of all members are for the fault; `index` counts the values before. -/
def readTuple (title : Text) (total : Nat) :
    (index : Nat) → List Member → Text → Except Fault (Fields × Text)
  | _, [], t => .ok ([], t)
  | index, member :: members, t => do
    let (more, t) ← nextItem (index = 0) t
    if more then
      let (value, t) ← member.read t
      let (fields, t) ← readTuple title total (index + 1) members t
      return ((member.name, value) :: fields, t)
    else match member.absentItem? with
      | none => throw (faultAt (.wrongLength index title total) (t.drop 1))
      | some value =>
        let (fields, t) ← readTuple title total (index + 1) members t
        return ((member.name, value) :: fields, t)

/-- Reads a record in either form. -/
def readRecord (title : Text) (members : List Member) (t : Text) : Except Fault (Json × Text) :=
  match t with
  | '[' :: rest => do
    let (fields, t) ← readTuple title members.length 0 members rest
    let t ← closeArray t
    return (.obj fields, t)
  | '\x7b' :: rest => do
    let (fields, t) ← readFields members (rest.length + 1) true [] rest
    return (.obj fields, t)
  | t => .error (mismatch ("struct " ++ title) t)

namespace Schema

mutual

/-- Reads a value of the given shape. -/
def read : (schema : Schema) → (depth : Nat) → Text → Except Fault (Json × Text)
  | .any, depth, t => readValue depth t
  | .text, _, t =>
    match skipSpaces t with
    | [] => .error (faultAt .eofInValue [])
    | '"' :: t => do
      let (s, t) ← readString t
      return (.str s, t)
    | t => .error (mismatch "a string" t)
  | .object, depth, t =>
    match skipSpaces t with
    | [] => .error (faultAt .eofInValue [])
    | '\x7b' :: t => readValue depth ('\x7b' :: t)
    | t => .error (mismatch "a map" t)
  | .list item, depth, t =>
    match skipSpaces t with
    | [] => .error (faultAt .eofInValue [])
    | '[' :: t => do
      let depth ← openContainer depth ('[' :: t)
      let (items, t) ← readItems (read item depth) (t.length + 1) true t
      return (.arr items, t)
    | t => .error (mismatch "a sequence" t)
  | .optional value, depth, t | .defaulted value, depth, t =>
    match skipSpaces t with
    | 'n' :: t => do
      let t ← readLetters "ull" t
      return (.null, t)
    | t => read value depth t
  | .record title members, depth, t =>
    match skipSpaces t with
    | [] => .error (faultAt .eofInValue [])
    | c :: t => do
      let depth ←
        if c = '[' || c = '\x7b' then openContainer depth (c :: t) else .ok depth
      readRecord title (readers members depth) (c :: t)

/-- The members of a record with their readers. -/
def readers : List (Text × Schema) → (depth : Nat) → List Member
  | [], _ => []
  | (name, schema) :: members, depth =>
    ⟨name, schema.absent?, schema.absentItem?, read schema depth⟩ :: readers members depth

end

/-- The value that a text of the given shape writes. -/
def parse (schema : Schema) (t : Text) : Except Error Json :=
  parseWith (schema.read startDepth) t

end Schema

end AskTable.Json
