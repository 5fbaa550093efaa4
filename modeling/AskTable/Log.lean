import AskTable.Text.Blank
import AskTable.Text.LetterCase
import AskTable.Text.Numeral
import AskTable.Text.Word
/-!
# Log entries and filters

A filter is a list of directives, each of which says for the sources whose names begin in some way
how much detail is wanted. The directive with the longest such beginning decides.

## Main definitions

* `Log.Level`, `Log.Entry` - an entry of the log
* `Log.Directive` - what is wanted of some sources
* `Log.readFilter?` - the filter that a text writes
* `Log.Filter.admits` - an entry is wanted
-/

namespace AskTable.Log

/-- How serious an entry is. -/
inductive Level where
  | error
  | warn
  | info
deriving Repr, DecidableEq

/-- The amount of detail at which entries of a level appear. -/
def Level.detail : Level → Nat
  | .error => 1
  | .warn => 2
  | .info => 3

/-- The name of a level. -/
def Level.name : Level → Text
  | .error => "ERROR"
  | .warn => "WARN"
  | .info => "INFO"

/-- An entry: a message with named values. -/
structure Entry where
  level : Level
  message : Text
  values : List (Text × Text) := []
deriving Repr, DecidableEq

/-- The wording of an entry. -/
def Entry.text (entry : Entry) : Text :=
  entry.level.name ++ " " ++ entry.message
    ++ entry.values.flatMap fun (name, value) => ' ' :: (name ++ '=' :: value)

/-- For sources whose names begin with `source`, the wanted amount of detail. -/
structure Directive where
  source : Text
  detail : Nat
deriving Repr, DecidableEq

/-- A list of directives. -/
abbrev Filter := List Directive

/-- All detail. -/
def mostDetail : Nat := 5

/-- The amounts of detail by name. -/
def detailNames : List (Text × Nat) :=
  [("off", 0), ("error", 1), ("warn", 2), ("info", 3), ("debug", 4), ("trace", mostDetail)]

/-- The amount of detail that a name or a number stands for. -/
def readDetail? (t : Text) : Option Nat :=
  (Text.natBelow? (mostDetail + 1) t).or
    ((detailNames.find? fun (name, _) => Text.equalsIgnoringCase t name).map (·.2))

/-- The amount of detail after the sign of equality; nothing stands for all detail. -/
def readGivenDetail? (t : Text) : Option Nat :=
  if t.isEmpty then some mostDetail else readDetail? t

/-- What a directive says. -/
inductive Reading where
  /-- something of all entries of some sources -/
  | directive (directive : Directive)
  /-- something of entries inside certain activities only -/
  | narrow
  | unreadable
deriving Repr, DecidableEq

/-- A directive that names an activity, and perhaps a value in it, after its bracket. -/
def readNarrow (t : Text) : Reading :=
  let ending (t : Text) : Reading :=
    match t with
    | [] => .narrow
    | '=' :: t => if (readGivenDetail? t).isSome then .narrow else .unreadable
    | _ => .unreadable
  match t.dropWhile fun c => c ≠ ']' && c ≠ '\x7b' with
  | ']' :: rest => ending rest
  | '\x7b' :: rest =>
    match Text.cutAt? '\x7d' rest with
    | some (_ :: _, ']' :: rest) => ending rest
    | _ => .unreadable
  | _ => .unreadable

/-- Can the character begin a directive? -/
def beginsDirective (c : Char) : Bool := c = '-' || c = ':' || c = '[' || Text.isWord c

/-- What a part of a filter says: a name, which stands for an amount of detail or else for sources
of which all is wanted, or sources and an amount. Places are counted without outer blanks, and what
is at these places is taken with them. -/
def readDirective (t : Text) : Reading :=
  let body := Text.trim t
  if !(body.head?.any beginsDirective) then .unreadable
  else
    let name := body.takeWhile fun c => c ≠ '=' && c ≠ '['
    let source := t.take name.length
    match body.drop name.length with
    | '[' :: rest => readNarrow rest
    | '=' :: _ =>
      match readGivenDetail? (t.drop (name.length + 1)) with
      | some detail => .directive ⟨source, detail⟩
      | none => .unreadable
    | _ =>
      match readDetail? t with
      | some detail => .directive ⟨[], detail⟩
      | none => .directive ⟨t, mostDetail⟩

/-- The parts of a filter, without empty ones. -/
def parts (t : Text) : List Text := (t.splitOnP (· = ',')).filter (!·.isEmpty)

/-- The filter that wants some detail of all sources. -/
def uniform (detail : Nat) : Filter := [⟨[], detail⟩]

/-- The directives of readings, if all can be read. -/
def directives? : List Reading → Option Filter
  | [] => some []
  | .directive d :: readings => (directives? readings).map (d :: ·)
  | .narrow :: readings => directives? readings
  | .unreadable :: _ => none

/-- The filter that a text writes. Without any part, errors are wanted. -/
def readFilter? (t : Text) : Option Filter :=
  if (parts t).isEmpty then some (uniform Level.error.detail)
  else directives? ((parts t).map readDirective)

/-- The filter that counts when a text writes none. -/
def defaultFilter : Filter := uniform Level.info.detail

namespace Filter

/-- Of two directives the one with the longer source; of equally long ones the second. -/
def stronger (best : Option Directive) (d : Directive) : Option Directive :=
  match best with
  | some b => if b.source.length ≤ d.source.length then some d else some b
  | none => some d

/-- The directive that decides about a source. -/
def decisive? (filter : Filter) (source : Text) : Option Directive :=
  (filter.filter fun d => Text.beginsWith source d.source).foldl stronger none

/-- Is an entry of a source wanted? -/
def admits (filter : Filter) (source : Text) (entry : Entry) : Bool :=
  (filter.decisive? source).any fun d => entry.level.detail ≤ d.detail

end Filter

end AskTable.Log
