import AskTable.Proofs.Json.Number
/-!
# The grammar of JSON

What the printer writes is JSON. The grammar below is that of JSON texts without blanks between
their tokens, and every value is written as a text of it, however deep it is. The reader is not
mentioned, since it refuses what is nested too deep.

## Main definitions

* `Json.IsString` - the text of a string
* `Json.IsValue`, `Json.IsObject` - the texts of values and objects

## Main results

* `Json.isString_quote` - every text is written as a string
* `Json.isValue_print`, `Json.isObject_print` - every value is written as a value, and every object
  as an object
-/

namespace AskTable.Json

/-! ## Strings -/

/-- What stands for one character in a string: the character itself, unless it is a quote, a
backslash or a control character, or a backslash with what it escapes. -/
inductive IsCharacter : Text → Prop
  | plain {c : Char} (hcontrol : 0x20 ≤ c.toNat) (hquote : c ≠ '"') (hbackslash : c ≠ '\\') :
      IsCharacter [c]
  | escape {c : Char} (hc : c ∈ ['"', '\\', '/', 'b', 'f', 'n', 'r', 't']) : IsCharacter ['\\', c]
  | code {digits : Text} (hlength : digits.length = 4)
      (hdigits : ∀ c ∈ digits, (Text.hexDigit? c).isSome = true) :
      IsCharacter ('\\' :: 'u' :: digits)

/-- A string: characters between quotes. -/
inductive IsString : Text → Prop
  | mk {characters : List Text} (h : ∀ c ∈ characters, IsCharacter c) :
      IsString ('"' :: (characters.flatten ++ ['"']))

theorem hexDigit?_digitChar : ∀ n < 16, Text.hexDigit? (Nat.digitChar n) = some n := by
  decide +kernel

theorem isSome_hexDigit?_of_mem_hexPair {n : Nat} (hn : n < 256) :
    ∀ d ∈ hexPair n, (Text.hexDigit? d).isSome = true := by
  intro d hd
  rw [hexPair, List.mem_cons, List.mem_singleton] at hd
  rcases hd with rfl | rfl
  · rw [hexDigit?_digitChar _ (by omega), Option.isSome_some]
  · rw [hexDigit?_digitChar _ (by omega), Option.isSome_some]

theorem isCharacter_escape (c : Char) : IsCharacter (Json.escape c) := by
  rw [Json.escape]
  split_ifs with hquote hbackslash
  · exact .escape (by decide)
  · exact .escape (by decide)
  · exact .escape (by decide)
  · exact .escape (by decide)
  · exact .escape (by decide)
  · exact .escape (by decide)
  · exact .escape (by decide)
  · -- A control character without a letter of its own has the code below 256.
    rename_i hcontrol
    refine IsCharacter.code rfl ?_
    rintro d hd
    rcases List.mem_cons.mp hd with rfl | hd
    · rfl
    rcases List.mem_cons.mp hd with rfl | hd
    · rfl
    · exact isSome_hexDigit?_of_mem_hexPair (by omega) d hd
  · exact .plain (Nat.le_of_not_lt ‹_›) hquote hbackslash

theorem isString_quote (t : Text) : IsString (quote t) := by
  have hcharacters : ∀ c ∈ t.map Json.escape, IsCharacter c :=
    List.forall_mem_map.mpr fun c _ => isCharacter_escape c
  rw [quote, List.flatMap_def]
  exact .mk hcharacters

/-! ## Values -/

mutual

/-- The text of a value. -/
inductive IsValue : Text → Prop
  | null : IsValue "null"
  | true : IsValue "true"
  | false : IsValue "false"
  | number {t : Text} (h : IsNumber t) : IsValue t
  | string {t : Text} (h : IsString t) : IsValue t
  | array {items : List Text} (h : ∀ item ∈ items, IsValue item) :
      IsValue ("[" ++ Text.join "," items ++ "]")
  | object {t : Text} (h : IsObject t) : IsValue t

/-- The text of an object: members between braces, each a string and a value. -/
inductive IsObject : Text → Prop
  | mk {members : List (Text × Text)} (hkeys : ∀ m ∈ members, IsString m.1)
      (hvalues : ∀ m ∈ members, IsValue m.2) :
      IsObject ("\x7b" ++ Text.join "," (members.map fun m => m.1 ++ ":" ++ m.2) ++ "\x7d")

end

theorem join_cons_cons (separator first second : Text) (rest : List Text) :
    Text.join separator (first :: second :: rest) =
      first ++ (separator ++ Text.join separator (second :: rest)) := by
  rw [Text.join, List.intercalate_cons_cons, List.append_assoc]
  rfl

/-- Behind the first text, each one has the comma before it. -/
theorem join_cons (first : Text) (rest : List Text) :
    Text.join "," (first :: rest) = first ++ rest.flatMap fun t => ',' :: t := by
  induction rest generalizing first with
  | nil => simp [Text.join]
  | cons next rest ih =>
    rw [join_cons_cons, ih]
    rfl

theorem length_le_flatMap_cons {α : Type} (c : Char) (f : α → Text) (l : List α) :
    l.length ≤ (l.flatMap fun a => c :: f a).length := by
  induction l with
  | nil => exact Nat.le_refl 0
  | cons a l ih =>
    rw [List.flatMap_cons, List.length_append, List.length_cons, List.length_cons]
    omega

theorem printItems_eq_join (items : List Json) :
    printItems items = Text.join "," (items.map print) := by
  induction items with
  | nil => rfl
  | cons item items ih =>
    cases items with
    | nil => simp [printItems, Text.join]
    | cons next items =>
      rw [printItems, ih]
      · simp only [List.map_cons, join_cons_cons, List.append_assoc]
      · exact List.cons_ne_nil next items

/-- The members of an object as they are written. -/
theorem printFields_eq_join (fields : Fields) :
    printFields fields = Text.join "," ((fields.map fun field =>
      (quote field.1, print field.2)).map fun m => m.1 ++ ":" ++ m.2) := by
  induction fields with
  | nil => rfl
  | cons field fields ih =>
    obtain ⟨key, value⟩ := field
    cases fields with
    | nil => simp [printFields, Text.join]
    | cons next fields =>
      rw [printFields, ih]
      · simp only [List.map_cons, join_cons_cons, List.append_assoc]
      · exact List.cons_ne_nil next fields

mutual

/-- Every value is written as the text of a value. -/
theorem isValue_print : (value : Json) → IsValue value.print
  | .null => .null
  | .bool true => .true
  | .bool false => .false
  | .int n => .number (isNumber_ofInt n)
  | .float x => .number (isNumber_floatText x)
  | .str t => .string (isString_quote t)
  | .arr items => by
    rw [print, printItems_eq_join]
    exact .array (List.forall_mem_map.mpr (isValue_items items))
  | .obj fields => .object (isObject_print fields)

theorem isValue_items : (items : List Json) → ∀ item ∈ items, IsValue item.print
  | [] => List.forall_mem_nil _
  | item :: items => List.forall_mem_cons.mpr ⟨isValue_print item, isValue_items items⟩

theorem isValue_fields : (fields : Fields) → ∀ field ∈ fields, IsValue field.2.print
  | [] => List.forall_mem_nil _
  | (_, value) :: fields => List.forall_mem_cons.mpr ⟨isValue_print value, isValue_fields fields⟩

/-- Every object is written as the text of an object. -/
theorem isObject_print (fields : Fields) : IsObject (print (.obj fields)) := by
  rw [print, printFields_eq_join]
  refine .mk (List.forall_mem_map.mpr ?_) (List.forall_mem_map.mpr (isValue_fields fields))
  exact fun field _ => isString_quote field.1

end

end AskTable.Json
