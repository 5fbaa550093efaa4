import AskTable.Files
import AskTable.Settings
import AskTable.Text.Word
/-!
# Environment files

Names that the environment does not know may get their values from a file of definitions, one to a
line. A value may be quoted, and outside single quotes it may mention other values. The first line
that cannot be read ends the file.

## Main definitions

* `EnvFile.readLine` - what a line defines
* `EnvFile.extend` - the environment with the definitions of a text added
* `EnvFile.load` - the environment with the file `.env` added, if it is there

## Main results

* `EnvFile.extend_of_some` - what the environment knows stays as it is
-/

namespace AskTable.EnvFile

/-! ## Values -/

/-- A value that is mentioned inside another, while its name is read. -/
inductive Mention where
  | none
  /-- letters and digits after a dollar sign -/
  | bare (name : Text)
  /-- anything between braces after a dollar sign -/
  | braced (name : Text)
deriving Repr, DecidableEq

/-- How far a value has been read. -/
structure Reading where
  inSingle : Bool := false
  inDouble : Bool := false
  escaped : Bool := false
  /-- only blanks and a comment may follow -/
  ended : Bool := false
  /-- a comment has begun -/
  inComment : Bool := false
  mention : Mention := .none
  output : Text := []
deriving Repr

namespace Reading

/-- Adds characters to the value. -/
def put (reading : Reading) (t : Text) : Reading := { reading with output := reading.output ++ t }

/-- The character that an escape stands for. -/
def escape? : Char → Option Char
  | '\\' => some '\\'
  | '\'' => some '\''
  | '"' => some '"'
  | '$' => some '$'
  | ' ' => some ' '
  | 'n' => some '\n'
  | _ => none

/-- Puts in the value of a name, which is empty if the name is unknown. -/
def mentionValue (env : Environment) (reading : Reading) (name : Text) : Reading :=
  { reading.put ((env name).getD []) with mention := .none }

/-- Takes a character outside of escapes, single quotes and mentions. -/
def takePlain (reading : Reading) (c : Char) : Reading :=
  if c = '$' then { reading with mention := .bare [] }
  else if reading.inDouble then
    if c = '"' then { reading with inDouble := false }
    else if c = '\\' then { reading with escaped := true }
    else reading.put [c]
  else if c = '\'' then { reading with inSingle := true }
  else if c = '"' then { reading with inDouble := true }
  else if c = '\\' then { reading with escaped := true }
  else if c = ' ' || c = '\t' then { reading with ended := true }
  else reading.put [c]

/-- Takes a character while the name of a mention is read. The character that ends a bare name
belongs to the value, whatever it is, unless it begins another mention. -/
def takeMention (env : Environment) (reading : Reading) (c : Char) : Mention → Reading
  | .none => takePlain reading c
  | .bare name =>
    if Text.isWord c && c ≠ '_' then { reading with mention := .bare (name ++ [c]) }
    else if c = '\x7b' && name.isEmpty then { reading with mention := .braced [] }
    else
      let reading := mentionValue env reading name
      if c = '$' then { reading with mention := .bare [] } else reading.put [c]
  | .braced name =>
    if c = '\x7d' then mentionValue env reading name
    else { reading with mention := .braced (name ++ [c]) }

/-- Takes the next character of a value. -/
def take? (env : Environment) (reading : Reading) (c : Char) : Option Reading :=
  if reading.inComment then some reading
  else if reading.ended then
    if c = ' ' || c = '\t' then some reading
    else if c = '#' then some { reading with inComment := true }
    else none
  else if reading.escaped then
    (escape? c).map fun d => { reading.put [d] with escaped := false }
  else if reading.inSingle then
    some (if c = '\'' then { reading with inSingle := false } else reading.put [c])
  else some (takeMention env reading c reading.mention)

/-- The value, when no quote and no brace is open. -/
def finish? (env : Environment) (reading : Reading) : Option Text :=
  if reading.inSingle || reading.inDouble then none
  else match reading.mention with
    | .none => some reading.output
    | .bare name => some (mentionValue env reading name).output
    | .braced _ => none

end Reading

/-- The value that a text writes. -/
def readValue? (env : Environment) (t : Text) : Option Text :=
  (t.foldlM (Reading.take? env) {}).bind (Reading.finish? env)

/-! ## Lines -/

/-- What a line of a file holds. -/
inductive Line where
  /-- nothing but blanks or a comment -/
  | empty
  | definition (name value : Text)
  | unreadable
deriving Repr, DecidableEq

/-- A name at the start of a text, with what follows it and its blanks. -/
def readName? (t : Text) : Option (Text × Text) :=
  match t with
  | [] => none
  | c :: _ =>
    if c.isAlpha || c = '_' then
      let inName (d : Char) : Bool := d.isAlphanum || d = '_' || d = '.'
      some (t.takeWhile inName, Text.trimStart (t.dropWhile inName))
    else none

/-- The value of a definition after its name. -/
def readDefinition (env : Environment) (name : Text) : Text → Line
  | '=' :: t =>
    let t := Text.trimStart t
    if t.isEmpty || t.head? = some '#' then .definition name []
    else match readValue? env t with
      | some value => .definition name value
      | none => .unreadable
  | _ => .unreadable

/-- What a line holds. The word `export` may stand before a name, and can be a name itself. -/
def readLine (env : Environment) (line : Text) : Line :=
  let t := Text.trim line
  if t.isEmpty || t.head? = some '#' then .empty
  else match readName? t with
    | none => .unreadable
    | some (name, rest) =>
      if name = "export" && rest.head? ≠ some '=' then
        match readName? rest with
        | none => .unreadable
        | some (name, rest) => readDefinition env name rest
      else readDefinition env name rest

/-! ## Files -/

/-- The environment with one more definition, which counts if the name is unknown. -/
def define (env : Environment) (name value : Text) : Environment := fun asked =>
  (env asked).or (if asked = name then some value else none)

/-- The environment with the definitions of some lines added, up to one that cannot be read. -/
def extendLines (env : Environment) : List Text → Environment
  | [] => env
  | line :: lines =>
    match readLine env line with
    | .empty => extendLines env lines
    | .definition name value => extendLines (define env name value) lines
    | .unreadable => env

/-- The environment with the definitions of a text added. -/
def extend (env : Environment) (t : Text) : Environment := extendLines env (Text.lines t)

theorem extendLines_of_some {env : Environment} {name value : Text} (h : env name = some value)
    (lines : List Text) : extendLines env lines name = some value := by
  induction lines generalizing env with
  | nil => exact h
  | cons line lines ih =>
    cases hl : readLine env line with
    | empty => simpa [extendLines, hl] using ih h
    | definition n v =>
      have hd : define env n v name = some value := by simp [define, h]
      simpa [extendLines, hl] using ih hd
    | unreadable => simpa [extendLines, hl] using h

theorem extend_of_some {env : Environment} {name value : Text} (h : env name = some value)
    (t : Text) : extend env t name = some value := extendLines_of_some h _

/-- The path of the file of definitions. -/
def path : Text := ".env"

/-- The names that a text may mention: what stands between signs. -/
def mentionable (t : Text) : List Text :=
  t.splitOnP (!Char.isAlphanum ·) ++ t.splitOnP fun c => !(c.isAlphanum || c = '_' || c = '.')

/-- The environment with the definitions of the file `.env` added, if this can be read. -/
def load (files : Files) (env : Environment) : Environment :=
  match files.readText path with
  | .ok t => extend env t
  | .error _ => env

end AskTable.EnvFile
