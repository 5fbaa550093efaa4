import AskTable.Text.Basic
import AskTable.Binary64.Basic
/-!
# JSON values

Objects keep their members in the order of first insertion, and a key occurs once. Numbers are
integers where they are written as such and lie between `-2 ^ 63` and `2 ^ 64 - 1`; all others are
binary floating point.

## Main definitions

* `Json` - a value
* `Fields` - the members of an object, in order
* `Fields.insert`, `Fields.get?` - updating and looking up a member

## Main results

* `Fields.get?_insert_self` - an inserted member is found
* `Fields.keys_insert_of_mem` - a key that is there already keeps its place
* `Fields.ofList_eq_self` - members with distinct keys are inserted in their order
-/

namespace AskTable

/-- A JSON value. -/
inductive Json where
  | null
  | bool (b : Bool)
  | int (n : Int)
  | float (x : Binary64)
  | str (t : Text)
  | arr (items : List Json)
  | obj (fields : List (Text × Json))
deriving Repr, BEq, Inhabited

/-- The members of an object, in order. -/
abbrev Fields := List (Text × Json)

namespace Fields

/-- The value at a key. -/
def get? (fields : Fields) (key : Text) : Option Json := fields.lookup key

/-- The keys in order. -/
def keys (fields : Fields) : List Text := fields.map (·.1)

/-- Puts a value at a key: in the place of the value that is there, else at the end. -/
def insert : Fields → Text → Json → Fields
  | [], key, value => [(key, value)]
  | (k, v) :: fields, key, value =>
    if k = key then (k, value) :: fields else (k, v) :: insert fields key value

/-- The members of the list, inserted one after another. -/
def ofList (members : List (Text × Json)) : Fields :=
  members.foldl (fun fields (key, value) => fields.insert key value) []

theorem insert_of_notMem {fields : Fields} {key : Text} (h : key ∉ fields.map (·.1))
    (value : Json) : fields.insert key value = fields ++ [(key, value)] := by
  induction fields with
  | nil => rfl
  | cons m fields ih =>
    obtain ⟨k, v⟩ := m
    simp only [List.map_cons, List.mem_cons, not_or] at h
    simp [insert, Ne.symm h.1, ih h.2]

/-- Members with distinct keys stay as they are. -/
theorem ofList_eq_self {members : List (Text × Json)} (h : (members.map (·.1)).Nodup) :
    ofList members = members := by
  suffices ∀ done : Fields, ((done ++ members).map (·.1)).Nodup →
      members.foldl (fun fields (key, value) => fields.insert key value) done = done ++ members by
    simpa [ofList] using this [] (by simpa using h)
  clear h
  induction members with
  | nil => simp
  | cons m members ih =>
    intro done hd
    obtain ⟨key, value⟩ := m
    have hkey : key ∉ done.map (·.1) := by
      intro hmem
      simp only [List.map_append, List.map_cons, List.nodup_append] at hd
      exact hd.2.2 key hmem key (by simp) rfl
    simp only [List.foldl_cons, insert_of_notMem hkey]
    rw [ih _ (by simpa using hd)]
    simp

theorem get?_insert_self (fields : Fields) (key : Text) (value : Json) :
    (fields.insert key value).get? key = some value := by
  induction fields with
  | nil => simp [insert, get?]
  | cons m fields ih =>
    obtain ⟨k, v⟩ := m
    by_cases h : k = key
    · simp [insert, get?, h]
    · have hk : (key == k) = false := by simpa using Ne.symm h
      simpa [insert, get?, h, List.lookup_cons, hk] using ih

theorem keys_insert_of_mem {fields : Fields} {key : Text} (h : key ∈ fields.keys) (value : Json) :
    (fields.insert key value).keys = fields.keys := by
  induction fields with
  | nil => simp [keys] at h
  | cons m fields ih =>
    obtain ⟨k, v⟩ := m
    by_cases hk : k = key
    · simp [insert, keys, hk]
    · have hmem : key ∈ keys fields := by
        simp only [keys, List.map_cons, List.mem_cons] at h
        exact h.resolve_left (Ne.symm hk)
      have := ih hmem
      simp_all [insert, keys]

end Fields

namespace Json

/-- The member of an object at a key. -/
def member? : Json → Text → Option Json
  | .obj fields, key => Fields.get? fields key
  | _, _ => none

/-- The text of a string value. -/
def text? : Json → Option Text
  | .str t => some t
  | _ => none

/-- The truth value of a Boolean. -/
def bool? : Json → Option Bool
  | .bool b => some b
  | _ => none

/-- The number of a value that is a nonnegative integer. -/
def nat? : Json → Option Nat
  | .int (.ofNat n) => some n
  | _ => none

/-- Is the value an array? -/
def isArray : Json → Bool
  | .arr _ => true
  | _ => false

/-- A number that may be too large to represent; such a one is written as `null`. -/
def ofBinary64? : Option Binary64 → Json
  | some x => .float x
  | none => .null

end Json

end AskTable
