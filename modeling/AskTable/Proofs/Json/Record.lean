import AskTable.Json.Schema
import Mathlib.Data.List.Forall2
/-!
# What reading a record or a list gives

A record is written as an object or as an array. Either way, what is read has exactly the members of
the record, in its order: each value was read for its member, or stands for a member that may be
missing. What is unknown in the text leaves no trace. A list is written as an array of its items.

## Main definitions

* `Json.Member.Gives` - a value that a member can have
* `Json.IsRecord` - the members of a record with their values

## Main results

* `Json.exists_isRecord_of_readRecord` - what is read for a record is a record
* `Json.Schema.exists_isRecord_of_parse` - a text that is parsed as a record gives one
* `Json.Schema.exists_arr_of_read_list` - what is read for a list is an array
-/

namespace AskTable.Json

/-- A computation in two steps has a result where both steps have one. -/
theorem bind_eq_ok_iff {ε α β : Type} {x : Except ε α} {f : α → Except ε β} {b : β} :
    x >>= f = .ok b ↔ ∃ a, x = .ok a ∧ f a = .ok b := by
  cases x <;> simp [bind, Except.bind]

theorem mapError_eq_ok_iff {ε ε' α : Type} {x : Except ε α} {f : ε → ε'} {a : α} :
    x.mapError f = .ok a ↔ x = .ok a := by
  cases x <;> simp [Except.mapError]

theorem throw_ne_ok {ε α : Type} {e : ε} {a : α} : (throw e : Except ε α) ≠ .ok a :=
  nofun

/-- The member can have the value: it is read for the member, or the member may be missing and the
value stands for that. -/
def Member.Gives (member : Member) (value : Json) : Prop :=
  (∃ t rest, member.read t = .ok (value, rest)) ∨
    member.absent? = some value ∨ member.absentItem? = some value

/-- The fields are the members of a record with their values, in order. -/
def IsRecord (members : List Member) (fields : Fields) : Prop :=
  List.Forall₂ (fun member field => field.1 = member.name ∧ member.Gives field.2) members fields

variable {members : List Member} {fields found : Fields} {t rest title : Text}

/-- An array gives a record, if it is read as one. -/
theorem isRecord_of_readTuple {total index : Nat}
    (h : readTuple title total index members t = .ok (fields, rest)) : IsRecord members fields := by
  induction members generalizing index t rest fields with
  | nil =>
    obtain ⟨rfl, -⟩ := Prod.mk.inj (Except.ok.inj h)
    exact .nil
  | cons member members ih =>
    obtain ⟨⟨more, t⟩, -, h⟩ := bind_eq_ok_iff.mp h
    cases more with
    | true =>
      obtain ⟨⟨value, t⟩, hread, h⟩ := bind_eq_ok_iff.mp h
      obtain ⟨⟨others, t⟩, hothers, h⟩ := bind_eq_ok_iff.mp h
      obtain ⟨rfl, -⟩ := Prod.mk.inj (Except.ok.inj h)
      exact .cons ⟨rfl, Or.inl ⟨_, _, hread⟩⟩ (ih hothers)
    | false =>
      -- The array has ended, so the member has to be one that may be missing.
      cases hitem : member.absentItem? with
      | none =>
        rw [hitem] at h
        exact absurd h throw_ne_ok
      | some value =>
        simp only [hitem] at h
        obtain ⟨⟨others, t⟩, hothers, h⟩ := bind_eq_ok_iff.mp h
        obtain ⟨rfl, -⟩ := Prod.mk.inj (Except.ok.inj h)
        exact .cons ⟨rfl, Or.inr (Or.inr hitem)⟩ (ih hothers)

/-- Of members with distinct names each is found by its name. -/
theorem find?_name_eq_some (hnames : (members.map Member.name).Nodup) :
    ∀ member ∈ members, members.find? (·.name = member.name) = some member := by
  induction members with
  | nil => exact List.forall_mem_nil _
  | cons head members ih =>
    rw [List.map_cons, List.nodup_cons] at hnames
    rw [List.forall_mem_cons]
    refine ⟨by simp, fun member hmember => ?_⟩
    have hne : head.name ≠ member.name :=
      fun heq => hnames.1 (heq ▸ List.mem_map_of_mem hmember)
    rw [List.find?_cons_of_neg (by simpa using hne), ih hnames.2 member hmember]

/-- What was found in an object so far was read for members. -/
def IsFound (members : List Member) (found : Fields) : Prop :=
  ∀ field ∈ found, ∃ member, members.find? (·.name = field.1) = some member ∧
    ∃ t rest, member.read t = .ok (field.2, rest)

/-- What was found makes a record, if nothing that it needs is missing. -/
theorem isRecord_of_assemble {all : List Member} (hfound : IsFound all found)
    (hmembers : ∀ member ∈ members, all.find? (·.name = member.name) = some member)
    (h : assemble found members = .ok fields) : IsRecord members fields := by
  induction members generalizing fields with
  | nil =>
    obtain rfl := Except.ok.inj h
    exact .nil
  | cons member members ih =>
    rw [List.forall_mem_cons] at hmembers
    rw [assemble] at h
    cases hvalue : (found.get? member.name).or member.absent? with
    | none => simp [hvalue] at h
    | some value =>
      simp only [hvalue] at h
      cases hothers : assemble found members with
      | error name => simp [hothers, Except.map] at h
      | ok others =>
        rw [hothers] at h
        obtain rfl := Except.ok.inj h
        refine .cons ⟨rfl, ?_⟩ (ih hmembers.2 hothers)
        rcases Option.or_eq_some_iff.mp hvalue with hget | ⟨-, habsent⟩
        · obtain ⟨before, after, rfl, -⟩ := List.lookup_eq_some_iff.mp hget
          obtain ⟨other, hother, hread⟩ := hfound (member.name, value) (by simp)
          -- The value was found under the name of the member, so it was read for the member.
          rw [hmembers.1] at hother
          rw [Option.some.inj hother]
          exact Or.inl hread
        · exact Or.inr (Or.inl habsent)

/-- An object gives a record, if it is read as one. -/
theorem isRecord_of_readFields {fuel : Nat} {first : Bool}
    (hmembers : ∀ member ∈ members, members.find? (·.name = member.name) = some member)
    (hfound : IsFound members found)
    (h : readFields members fuel first found t = .ok (fields, rest)) : IsRecord members fields := by
  induction fuel generalizing first found t with
  | zero => cases h
  | succ fuel ih =>
    obtain ⟨⟨key?, t⟩, -, h⟩ := bind_eq_ok_iff.mp h
    cases key? with
    | none =>
      cases hall : assemble found members with
      | error name =>
        simp only [hall] at h
        exact absurd h throw_ne_ok
      | ok assembled =>
        simp only [hall] at h
        obtain ⟨rfl, -⟩ := Prod.mk.inj (Except.ok.inj h)
        exact isRecord_of_assemble hfound hmembers hall
    | some key =>
      cases hfind : members.find? (·.name = key) with
      | none =>
        simp only [hfind] at h
        obtain ⟨t, -, h⟩ := bind_eq_ok_iff.mp h
        obtain ⟨t, -, h⟩ := bind_eq_ok_iff.mp h
        exact ih hfound h
      | some member =>
        simp only [hfind] at h
        split at h
        · exact absurd h throw_ne_ok
        · obtain ⟨t, -, h⟩ := bind_eq_ok_iff.mp h
          obtain ⟨⟨value, t⟩, hread, h⟩ := bind_eq_ok_iff.mp h
          refine ih ?_ h
          intro field hfield
          rcases List.mem_append.mp hfield with hfield | hfield
          · exact hfound field hfield
          · rw [List.mem_singleton.mp hfield]
            exact ⟨member, hfind, _, _, hread⟩

/-- What is read for a record is an object with the members of the record. -/
theorem exists_isRecord_of_readRecord {value : Json}
    (hmembers : ∀ member ∈ members, members.find? (·.name = member.name) = some member)
    (h : readRecord title members t = .ok (value, rest)) :
    ∃ fields, value = .obj fields ∧ IsRecord members fields := by
  unfold readRecord at h
  split at h
  · obtain ⟨⟨fields, t⟩, htuple, h⟩ := bind_eq_ok_iff.mp h
    obtain ⟨t, -, h⟩ := bind_eq_ok_iff.mp h
    obtain ⟨rfl, -⟩ := Prod.mk.inj (Except.ok.inj h)
    exact ⟨fields, rfl, isRecord_of_readTuple htuple⟩
  · obtain ⟨⟨fields, t⟩, hfields, h⟩ := bind_eq_ok_iff.mp h
    obtain ⟨rfl, -⟩ := Prod.mk.inj (Except.ok.inj h)
    exact ⟨fields, rfl, isRecord_of_readFields hmembers (List.forall_mem_nil _) hfields⟩
  · cases h

namespace Schema

/-- What is parsed by a schema was read by it. -/
theorem exists_read_of_parse {schema : Schema} {value : Json} (h : schema.parse t = .ok value) :
    ∃ rest, schema.read startDepth t = .ok (value, rest) := by
  rw [parse, parseWith] at h
  obtain ⟨⟨found, rest⟩, hread, h⟩ := bind_eq_ok_iff.mp (mapError_eq_ok_iff.mp h)
  obtain ⟨-, -, h⟩ := bind_eq_ok_iff.mp h
  obtain rfl := Except.ok.inj h
  exact ⟨rest, hread⟩

/-- What is read for a text is a string. -/
theorem exists_str_of_read_text {depth : Nat} {value : Json}
    (h : read .text depth t = .ok (value, rest)) : ∃ s, value = .str s := by
  unfold read at h
  split at h
  · cases h
  · obtain ⟨⟨s, t⟩, -, h⟩ := bind_eq_ok_iff.mp h
    obtain ⟨rfl, -⟩ := Prod.mk.inj (Except.ok.inj h)
    exact ⟨s, rfl⟩
  · cases h

theorem map_name_readers (shapes : List (Text × Schema)) (depth : Nat) :
    (readers shapes depth).map Member.name = shapes.map Prod.fst := by
  induction shapes with
  | nil => rfl
  | cons shape shapes ih => rw [readers, List.map_cons, ih, List.map_cons]

/-- A text that is read as a record gives the members of the record, read at one depth. -/
theorem exists_isRecord_of_read {shapes : List (Text × Schema)} {depth : Nat} {value : Json}
    (hnames : (shapes.map Prod.fst).Nodup)
    (h : read (.record title shapes) depth t = .ok (value, rest)) :
    ∃ depth fields, value = .obj fields ∧ IsRecord (readers shapes depth) fields := by
  unfold read at h
  split at h
  · cases h
  · have hdepth (depth : Nat) :
        ∀ member ∈ readers shapes depth, (readers shapes depth).find? (·.name = member.name) =
          some member := by
      apply find?_name_eq_some
      rwa [map_name_readers]
    -- Whether a container is opened or not, what follows is read for the record.
    simp only at h
    split at h
    · obtain ⟨depth, -, h⟩ := bind_eq_ok_iff.mp h
      exact ⟨depth, exists_isRecord_of_readRecord (hdepth depth) h⟩
    · exact ⟨depth, exists_isRecord_of_readRecord (hdepth depth) h⟩

/-- A text that is parsed as a record gives the members of the record, read at one depth. -/
theorem exists_isRecord_of_parse {shapes : List (Text × Schema)} {value : Json}
    (hnames : (shapes.map Prod.fst).Nodup) (h : (record title shapes).parse t = .ok value) :
    ∃ depth fields, value = .obj fields ∧ IsRecord (readers shapes depth) fields := by
  obtain ⟨rest, h⟩ := exists_read_of_parse h
  exact exists_isRecord_of_read hnames h

end Schema

/-! ## Lists -/

/-- What is read for the items of a list is read by the reader of an item. -/
theorem forall_of_readItems {item : Text → Except Fault (Json × Text)} {fuel : Nat} {first : Bool}
    {items : List Json} (h : readItems item fuel first t = .ok (items, rest)) :
    ∀ value ∈ items, ∃ t rest, item t = .ok (value, rest) := by
  induction fuel generalizing first t rest items with
  | zero => cases h
  | succ fuel ih =>
    obtain ⟨⟨more, t⟩, -, h⟩ := bind_eq_ok_iff.mp h
    cases more with
    | true =>
      obtain ⟨⟨value, t⟩, hread, h⟩ := bind_eq_ok_iff.mp h
      obtain ⟨⟨others, t⟩, hothers, h⟩ := bind_eq_ok_iff.mp h
      obtain ⟨rfl, -⟩ := Prod.mk.inj (Except.ok.inj h)
      exact List.forall_mem_cons.mpr ⟨⟨_, _, hread⟩, ih hothers⟩
    | false =>
      obtain ⟨t, -, h⟩ := bind_eq_ok_iff.mp h
      obtain ⟨rfl, -⟩ := Prod.mk.inj (Except.ok.inj h)
      exact List.forall_mem_nil _

/-- What is read for a list is an array of what is read for items. -/
theorem Schema.exists_arr_of_read_list {item : Schema} {depth : Nat} {value : Json}
    (h : read (.list item) depth t = .ok (value, rest)) :
    ∃ items, value = .arr items ∧
      ∀ value ∈ items, ∃ depth t rest, read item depth t = .ok (value, rest) := by
  unfold read at h
  split at h
  · cases h
  · obtain ⟨depth, -, h⟩ := bind_eq_ok_iff.mp h
    obtain ⟨⟨items, t⟩, hitems, h⟩ := bind_eq_ok_iff.mp h
    obtain ⟨rfl, -⟩ := Prod.mk.inj (Except.ok.inj h)
    exact ⟨items, rfl, fun value hvalue => ⟨depth, forall_of_readItems hitems value hvalue⟩⟩
  · cases h

end AskTable.Json
