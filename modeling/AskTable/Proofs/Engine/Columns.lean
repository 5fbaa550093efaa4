import AskTable.Engine.ClickHouse
import AskTable.Proofs.Json.Record
import Mathlib.Data.List.Induction
import Mathlib.Data.Set.List
import Mathlib.Tactic.SplitIfs
/-!
# Columns of a result

A result names its columns and lists the values of each row. A row of the result set has its values
under the names of their columns. Where no two columns have one name, nothing is lost and the order
is that of the columns. A row cannot have two values under one name: of two columns of one name, it
has the value of the last, at the place of the first.

## Main definitions

* `ClickHouse.compact` - a result of given columns and values
* `ClickHouse.IsRow` - a row of the result set for the values of a row

## Main results

* `Fields.keys_ofList` - the keys, in the order in which they come first
* `Fields.get?_ofList`, `Fields.get?_ofList_eq_some_iff` - the value that comes last under its key
* `ClickHouse.exists_compact_of_parse` - what is decoded is a result
* `ClickHouse.query_isRow` - the rows that are given for a result
-/

namespace AskTable

variable {result : Json} {t rest key key' sql : Text} {names : List Text} {values : List Json}
  {data : List (List Json)}

/-! ## Members inserted one after another -/

namespace Fields

variable {fields : Fields} {members : List (Text × Json)} {value : Json}

theorem ofList_append_singleton (members : List (Text × Json)) (key : Text) (value : Json) :
    ofList (members ++ [(key, value)]) = (ofList members).insert key value := by
  rw [ofList, List.foldl_append]
  rfl

theorem get?_insert_of_ne (h : key' ≠ key) (value : Json) :
    (fields.insert key value).get? key' = fields.get? key' := by
  have hkey : (key' == key) = false := by simpa using h
  induction fields with
  | nil => simp [insert, get?, List.lookup_cons, hkey]
  | cons member fields ih =>
    obtain ⟨k, v⟩ := member
    rw [insert]
    split_ifs with hk
    · subst hk
      simp [get?, List.lookup_cons, hkey]
    · rw [get?, List.lookup_cons, get?, List.lookup_cons]
      cases key' == k
      · exact ih
      · rfl

/-- A key that is not there yet comes behind the others. -/
theorem keys_insert (fields : Fields) (key : Text) (value : Json) :
    (fields.insert key value).keys =
      if key ∈ fields.keys then fields.keys else fields.keys ++ [key] := by
  split_ifs with h
  · exact keys_insert_of_mem h value
  · rw [insert_of_notMem h, keys, List.map_append]
    rfl

/-- Each key is at the place at which it comes first. -/
theorem keys_ofList (members : List (Text × Json)) :
    (ofList members).keys = (members.map Prod.fst).eraseDups := by
  induction members using List.reverseRecOn with
  | nil => rfl
  | append_singleton members member ih =>
    obtain ⟨key, value⟩ := member
    rw [ofList_append_singleton, keys_insert, ih, List.map_append, List.eraseDups_append]
    by_cases hmem : key ∈ members.map Prod.fst
    · rw [if_pos (List.mem_eraseDups.mpr hmem)]
      simp [List.removeAll, hmem]
    · rw [if_neg (mt List.mem_eraseDups.mp hmem)]
      simp [List.removeAll, hmem, List.eraseDups_cons]

/-- Under each key is the value that comes last. -/
theorem get?_ofList {i : Nat} (hi : members[i]? = some (key, value))
    (hlast : ∀ j > i, (members.map Prod.fst)[j]? ≠ some key) :
    (ofList members).get? key = some value := by
  -- From the right, since the members before are inserted first.
  induction members using List.reverseRecOn with
  | nil => cases hi
  | append_singleton members member ih =>
    obtain ⟨key', value'⟩ := member
    rw [ofList_append_singleton]
    have hlength : i < (members ++ [(key', value')]).length := (List.getElem?_eq_some_iff.mp hi).1
    rw [List.length_append, List.length_singleton] at hlength
    rcases Nat.lt_succ_iff_lt_or_eq.mp hlength with hlt | rfl
    · -- The last member has another key, so it is the members before that decide.
      have hne : key ≠ key' := by
        rintro rfl
        exact hlast members.length hlt (by simp)
      rw [get?_insert_of_ne hne]
      refine ih (by rwa [List.getElem?_append_left hlt] at hi) fun j hj hkey => hlast j hj ?_
      rw [List.map_append, List.getElem?_append_left (List.getElem?_eq_some_iff.mp hkey).1, hkey]
    · rw [List.getElem?_concat_length] at hi
      obtain ⟨rfl, rfl⟩ := Prod.mk.inj (Option.some.inj hi)
      exact get?_insert_self _ _ _

/-- The value under a key is that of the last member with the key. -/
theorem get?_ofList_eq_some_iff : (ofList members).get? key = some value ↔
    ∃ before after, members = before ++ (key, value) :: after ∧ key ∉ after.map Prod.fst := by
  constructor
  · intro h
    induction members using List.reverseRecOn with
    | nil => cases h
    | append_singleton members member ih =>
      obtain ⟨key', value'⟩ := member
      rw [ofList_append_singleton] at h
      by_cases hkey : key = key'
      · subst hkey
        rw [get?_insert_self] at h
        obtain rfl := Option.some.inj h
        exact ⟨members, [], rfl, List.not_mem_nil⟩
      · rw [get?_insert_of_ne hkey] at h
        obtain ⟨before, after, rfl, hafter⟩ := ih h
        refine ⟨before, after ++ [(key', value')], by simp, ?_⟩
        rw [List.map_append, List.mem_append, not_or]
        exact ⟨hafter, by simpa using hkey⟩
  · rintro ⟨before, after, rfl, hafter⟩
    refine get?_ofList (i := before.length) (by simp) fun j hj hkey => hafter ?_
    rw [List.map_append, List.map_cons, List.getElem?_append_right (by simp; omega),
      List.length_map] at hkey
    obtain ⟨k, hk⟩ : ∃ k, j - before.length = k + 1 := ⟨j - before.length - 1, by omega⟩
    rw [hk, List.getElem?_cons_succ] at hkey
    exact List.mem_of_getElem? hkey

end Fields

namespace ClickHouse

/-! ## Rows -/

/-- The row has the values under the names of their columns. If names repeat, it has each name once,
at the place at which it comes first and with the value of the last column of the name. -/
structure IsRow (names : List Text) (values : List Json) (row : Fields) : Prop where
  keys_eq : row.keys = names.eraseDups
  get?_eq : ∀ (i : Nat) (name : Text), names[i]? = some name → (∀ j > i, names[j]? ≠ some name) →
    row.get? name = values[i]?
  eq_zip : names.Nodup → row = names.zip values

theorem isRow_zipRow (h : values.length = names.length) :
    IsRow names values (zipRow names values) := by
  have hnames : (names.zip values).map Prod.fst = names := List.map_fst_zip (Nat.le_of_eq h.symm)
  refine ⟨?_, fun i name hname hlast => ?_, fun hnodup => ?_⟩
  · rw [zipRow, Fields.keys_ofList, hnames]
  · obtain ⟨hi, -⟩ := List.getElem?_eq_some_iff.mp hname
    obtain ⟨value, hvalue⟩ : ∃ value, values[i]? = some value :=
      ⟨_, List.getElem?_eq_getElem (h ▸ hi)⟩
    rw [hvalue]
    refine Fields.get?_ofList (List.getElem?_zip_eq_some.mpr ⟨hname, hvalue⟩) ?_
    rwa [hnames]
  · exact Fields.ofList_eq_self (hnames.symm ▸ hnodup)

/-! ## Results -/

/-- A result of columns with the given names, with the given values in its rows. -/
def compact (names : List Text) (data : List (List Json)) : Json :=
  .obj [("meta", .arr (names.map fun name => .obj [("name", .str name)])),
    ("data", .arr (data.map .arr))]

/-- What is read for a column has a name and nothing else. -/
theorem exists_of_read_column {depth : Nat} {value : Json}
    (h : Json.Schema.read (.record "CompactColumn" [("name", .text)]) depth t = .ok (value, rest)) :
    ∃ name, value = .obj [("name", .str name)] := by
  obtain ⟨depth, fields, rfl, hfields⟩ := Json.Schema.exists_isRecord_of_read (by decide) h
  obtain ⟨field, _, ⟨hname, hgives⟩, hnil, rfl⟩ := List.forall₂_cons_left_iff.mp hfields
  obtain rfl := List.forall₂_nil_left_iff.mp hnil
  obtain ⟨t, rest, hread⟩ := hgives.resolve_right (by rintro (h | h) <;> cases h)
  change Json.Schema.read .text depth t = _ at hread
  obtain ⟨name, hvalue⟩ := Json.Schema.exists_str_of_read_text hread
  obtain ⟨key, value⟩ := field
  obtain rfl : key = "name" := hname
  obtain rfl : value = .str name := hvalue
  exact ⟨name, rfl⟩

/-- What is read for the values of a row is an array. -/
theorem exists_of_read_row {depth : Nat} {value : Json}
    (h : Json.Schema.read (.list .any) depth t = .ok (value, rest)) :
    ∃ values, value = .arr values := by
  obtain ⟨items, rfl, -⟩ := Json.Schema.exists_arr_of_read_list h
  exact ⟨items, rfl⟩

/-- What is read for a list is made of what its items are made of. -/
theorem exists_map_of_read_list {α : Type} {item : Json.Schema} {make : α → Json} {depth : Nat}
    {value : Json} (hitem : ∀ {depth t rest value}, item.read depth t = .ok (value, rest) →
      ∃ a, value = make a)
    (h : Json.Schema.read (.list item) depth t = .ok (value, rest)) :
    ∃ made : List α, value = .arr (made.map make) := by
  obtain ⟨items, rfl, hitems⟩ := Json.Schema.exists_arr_of_read_list h
  have hmem : ∀ value ∈ items, value ∈ Set.range make := by
    intro value hvalue
    obtain ⟨depth, t, rest, hread⟩ := hitems value hvalue
    obtain ⟨a, rfl⟩ := hitem hread
    exact ⟨a, rfl⟩
  obtain ⟨made, rfl⟩ : items ∈ Set.range (List.map make) := by
    rw [Set.range_list_map]
    exact hmem
  exact ⟨made, rfl⟩

/-- What is decoded is a result. -/
theorem exists_compact_of_parse (h : resultShape.parse t = .ok result) :
    ∃ names data, result = compact names data := by
  obtain ⟨depth, fields, rfl, hfields⟩ := Json.Schema.exists_isRecord_of_parse (by decide) h
  obtain ⟨⟨key, columns⟩, _, ⟨hkey, hcolumns⟩, hrest, rfl⟩ :=
    List.forall₂_cons_left_iff.mp hfields
  obtain ⟨⟨key', rows⟩, _, ⟨hkey', hrows⟩, hnil, rfl⟩ := List.forall₂_cons_left_iff.mp hrest
  obtain rfl := List.forall₂_nil_left_iff.mp hnil
  obtain rfl : key = "meta" := hkey
  obtain rfl : key' = "data" := hkey'
  -- Neither of the two may be missing.
  obtain ⟨_, _, hcolumns⟩ := hcolumns.resolve_right (by rintro (h | h) <;> cases h)
  obtain ⟨_, _, hrows⟩ := hrows.resolve_right (by rintro (h | h) <;> cases h)
  obtain ⟨names, rfl⟩ := exists_map_of_read_list exists_of_read_column hcolumns
  obtain ⟨data, rfl⟩ := exists_map_of_read_list exists_of_read_row hrows
  exact ⟨names, data, rfl⟩

theorem columnNames_compact (names : List Text) (data : List (List Json)) :
    columnNames (compact names data) = names := by
  have hmeta : (compact names data).member? "meta" =
      some (.arr (names.map fun name => .obj [("name", .str name)])) := rfl
  rw [columnNames, hmeta, itemsOf, List.map_map]
  exact List.map_id names

theorem zipRows_compact (names : List Text) (data : List (List Json)) :
    zipRows (compact names data) = data.map (zipRow names) := by
  have hdata : (compact names data).member? "data" = some (.arr (data.map .arr)) := rfl
  rw [zipRows, columnNames_compact, hdata, itemsOf, List.map_map]
  rfl

theorem readRows_of_parse (h : resultShape.parse t = .ok (compact names data)) :
    readRows t = .ok (data.map (zipRow names)) := by
  rw [readRows, h, ← zipRows_compact]

/-- A statement whose reply is decoded gives one row for each row of the reply, in order. -/
theorem play_query (engine : ClickHouse) (sql : Text) {status : Nat} {content : Wire.Content}
    (hstatus : Wire.isSuccess status = true)
    (hdecodes : resultShape.parse content.text = .ok (compact names data)) :
    (engine.query sql).play (fun _ => .answered status content) =
      ([engine.request sql true], .ok (data.map (zipRow names))) := by
  have hreply : readReply (.answered status content) = .ok content.text :=
    if_pos hstatus
  have hresult : readReply (.answered status content) >>= readRows =
      .ok (data.map (zipRow names)) :=
    Json.bind_eq_ok_iff.mpr ⟨_, hreply, readRows_of_parse hdecodes⟩
  exact congrArg (Prod.mk [engine.request sql true]) hresult

/-- What is decoded is a result. If it has as many values in each row as columns, each row of the
result set, in the same order, has its values under the names of their columns. -/
theorem query_isRow (engine : ClickHouse) (sql : Text) {status : Nat} {content : Wire.Content}
    (hstatus : Wire.isSuccess status = true)
    (hdecodes : resultShape.parse content.text = .ok result) :
    (∃ names data, result = compact names data) ∧
      ∀ names data, result = compact names data →
        (∀ values ∈ data, values.length = names.length) →
          ∃ rows, (engine.query sql).play (fun _ => .answered status content) =
              ([engine.request sql true], .ok rows) ∧
            List.Forall₂ (IsRow names) data rows := by
  refine ⟨exists_compact_of_parse hdecodes, ?_⟩
  rintro names data rfl hlength
  refine ⟨_, play_query engine sql hstatus hdecodes, ?_⟩
  rw [List.forall₂_map_right_iff, List.forall₂_same]
  exact fun values hvalues => isRow_zipRow (hlength values hvalues)

/-- Two columns and two rows. Types of columns are passed over. -/
theorem query_isRow_two_columns :
    let engine : ClickHouse := ⟨"http://127.0.0.1:8123/", "default", "default", ""⟩
    let content : Wire.Content := .ofText
      ("\x7b\"meta\":[\x7b\"name\":\"country\",\"type\":\"String\"\x7d," ++
        "\x7b\"name\":\"cnt\"\x7d],\"data\":[[\"US\",2],[\"DE\",1]]\x7d")
    let names : List Text := ["country", "cnt"]
    let data : List (List Json) := [[.str "US", .int 2], [.str "DE", .int 1]]
    Wire.isSuccess 200 = true ∧
      resultShape.parse content.text = .ok (compact names data) ∧
      ∃ rows, (engine.query "SELECT 1").play (fun _ => .answered 200 content) =
          ([engine.request "SELECT 1" true], .ok rows) ∧
        List.Forall₂ (IsRow names) data rows := by
  intro engine content names data
  have hdecodes : resultShape.parse content.text = .ok (compact names data) := rfl
  have hlength : ∀ values ∈ data, values.length = names.length := by simp [data, names]
  exact ⟨rfl, hdecodes, (query_isRow engine _ rfl hdecodes).2 names data rfl hlength⟩

/-- Of two columns of one name, the row has only the last. -/
theorem not_forall_query_zip :
    ¬ ∀ (engine : ClickHouse) (sql : Text) (status : Nat) (content : Wire.Content) (names : List Text)
      (data : List (List Json)), Wire.isSuccess status = true →
        resultShape.parse content.text = .ok (compact names data) →
          (∀ values ∈ data, values.length = names.length) →
            (engine.query sql).play (fun _ => .answered status content) =
              ([engine.request sql true], .ok (data.map (names.zip ·))) := by
  intro h
  let content : Wire.Content := .ofText
    "\x7b\"meta\":[\x7b\"name\":\"n\"\x7d,\x7b\"name\":\"n\"\x7d],\"data\":[[1,2]]\x7d"
  have hdecodes : resultShape.parse content.text =
      .ok (compact ["n", "n"] [[.int 1, .int 2]]) := rfl
  have hzip := h ⟨"http://127.0.0.1:8123/", "default", "default", ""⟩ "SELECT 1" 200 content
    ["n", "n"] [[.int 1, .int 2]] rfl hdecodes (by simp)
  rw [play_query _ _ rfl hdecodes] at hzip
  have hrows := Except.ok.inj (Prod.mk.inj hzip).2
  have hlengths := congrArg (List.map List.length) hrows
  exact absurd hlengths (by decide)

end ClickHouse

end AskTable
