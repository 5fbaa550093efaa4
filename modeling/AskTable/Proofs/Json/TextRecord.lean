import AskTable.Proofs.Json.Spelling
import Mathlib.Data.List.Nodup
/-!
# Records of texts as they may be written

A record of texts is written as an object with a string for each of its members. The members may
come in any order, with spaces around every token, and keys and values in any spelling. The reader
takes every such object for the record, with the members in the order of the record, so the way in
which it was written leaves no trace.

## Main definitions

* `Json.SpellsMember`, `Json.SpellsObject` - the ways to write a member and an object of texts

## Main results

* `Json.SpellsObject.of_append` - spaces behind an object do not matter
* `Json.readFields_furtherMembers` - the members of an object are read, one after another
* `Json.readRecord_join` - an object is read as a record, whatever the order of its members
* `Json.SpellsObject.parse_record` - every way to write a record of texts is read
* `Json.spellsObject_print` - the printer writes a record of texts in one of these ways
* `Json.Schema.parse_print_record` - a record with one text is parsed as one
-/

namespace AskTable.Json

variable {a b c t rest key value : Text} {found : Fields}

/-! ## Members -/

theorem SpellsString.read_text {s : Text} (h : SpellsString value s) (ha : IsSpaces a) (depth : Nat)
    (rest : Text) : Schema.read .text depth (a ++ (value ++ rest)) = .ok (.str s, rest) := by
  obtain ⟨body, hbody, hread⟩ := h.exists_append_eq rest
  rw [Schema.read, skipSpaces_append ha, hbody]
  exact bind_eq_ok_iff.mpr ⟨_, hread, rfl⟩

/-- The ways to write a member: a key, a colon and a value, with spaces around each of them. -/
inductive SpellsMember : Text → Text × Text → Prop
  | mk {a b c d key value name text : Text} (ha : IsSpaces a) (hb : IsSpaces b) (hc : IsSpaces c)
      (hd : IsSpaces d) (hkey : SpellsString key name) (hvalue : SpellsString value text) :
      SpellsMember (a ++ (key ++ (b ++ ':' :: (c ++ (value ++ d))))) (name, text)

/-- The ways to write an object of texts: members between braces, and spaces around it. -/
inductive SpellsObject : Text → List (Text × Text) → Prop
  | mk {a b : Text} {texts : List Text} {members : List (Text × Text)} (ha : IsSpaces a)
      (hb : IsSpaces b) (hmembers : List.Forall₂ SpellsMember texts members) :
      SpellsObject (a ++ '\x7b' :: (Text.join "," texts ++ '\x7d' :: b)) members

/-- A written object stays one without spaces at its end. -/
theorem SpellsObject.of_append {members : List (Text × Text)} (h : SpellsObject (t ++ rest) members)
    (hrest : IsSpaces rest) : SpellsObject t members := by
  generalize hwhole : t ++ rest = whole at h
  cases h with
  | @mk a b texts _ ha hb hmembers =>
    have hcut : t ++ rest = (a ++ '\x7b' :: Text.join "," texts) ++ ['\x7d'] ++ b := by
      rw [hwhole]
      simp
    rcases List.append_eq_append_iff.mp hcut with ⟨c, hfront, hback⟩ | ⟨c, hfront, hback⟩
    · rcases List.eq_nil_or_concat c with rfl | ⟨c, last, rfl⟩
      · have hobject := SpellsObject.mk ha isSpaces_nil hmembers
        rw [List.append_nil] at hfront
        rw [← hfront]
        simpa using hobject
      · -- The closing brace is no space, so it was not at the end.
        rw [List.concat_eq_append, ← List.append_assoc] at hfront
        obtain rfl : '\x7d' = last := (List.cons.inj (List.append_inj' hfront rfl).2).1
        exact absurd (hrest '\x7d' (by rw [hback]; simp)) (by decide)
    · rw [hback] at hb
      have hobject := SpellsObject.mk ha (fun d hd => hb d (List.mem_append_left rest hd)) hmembers
      rw [hfront]
      simpa using hobject

/-- A member of a record that is a text. -/
def textMember (depth : Nat) (name : Text) : Member := ⟨name, none, none, Schema.read .text depth⟩

/-- The values of members that are texts. -/
def textFields (members : List (Text × Text)) : Fields :=
  members.map fun member => (member.1, .str member.2)

variable {names : List Text} {members ordered : List (Text × Text)} {texts : List Text}
  {depth fuel : Nat} {fields : Fields}

theorem readers_text (names : List Text) (depth : Nat) :
    Schema.readers (names.map fun name => (name, .text)) depth = names.map (textMember depth) := by
  induction names with
  | nil => rfl
  | cons name names ih =>
    rw [List.map_cons, Schema.readers, ih]
    rfl

theorem find?_textMember (h : key ∈ names) :
    (names.map (textMember depth)).find? (·.name = key) = some (textMember depth key) := by
  rw [List.find?_map]
  change (names.find? (· = key)).map _ = _
  cases hfind : names.find? (· = key) with
  | none => exact absurd (decide_eq_true rfl) (List.find?_eq_none.mp hfind key h)
  | some name =>
    obtain rfl : name = key := by simpa using List.find?_some hfind
    rfl

theorem get?_eq_none (h : key ∉ found.map (·.1)) : found.get? key = none := by
  rw [Fields.get?, List.lookup_eq_none_iff]
  intro field hfield
  rw [bne_iff_ne]
  rintro rfl
  exact h (List.mem_map_of_mem hfield)

/-- Of members with distinct keys each is found. -/
theorem get?_of_mem {v : Json} (hkeys : (found.map (·.1)).Nodup) (h : (key, v) ∈ found) :
    found.get? key = some v := by
  obtain ⟨before, after, rfl⟩ := List.append_of_mem h
  refine List.lookup_eq_some_iff.mpr ⟨before, after, rfl, fun field hfield => ?_⟩
  rw [bne_iff_ne]
  rintro rfl
  rw [List.map_append, List.nodup_append] at hkeys
  exact hkeys.2.2 field.1 (List.mem_map_of_mem hfield) field.1 List.mem_cons_self rfl

/-- A member that comes next, and is not there yet, is read behind the others. -/
theorem readFields_member {first : Bool} {k v : Text} (hkey : k ∈ names)
    (hnew : found.get? k = none) (hb : IsSpaces b) (hc : IsSpaces c)
    (hvalue : SpellsString value v)
    (hnext : nextKey first t = .ok (some k, b ++ ':' :: (c ++ (value ++ rest)))) :
    readFields (names.map (textMember depth)) (fuel + 1) first found t =
      readFields (names.map (textMember depth)) fuel false (found ++ [(k, .str v)]) rest := by
  have hread : (textMember depth k).read (c ++ (value ++ rest)) = .ok (.str v, rest) :=
    hvalue.read_text hc depth rest
  rw [readFields]
  simp only [hnext, find?_textMember hkey, hnew, readColon_append hb, hread, bind, Except.bind,
    Option.isSome_none, Bool.false_eq_true, if_false]

/-- The members of an object, each behind a comma. -/
def furtherMembers (texts : List Text) : Text := texts.flatMap fun t => ',' :: t

/-- Members behind commas are read, one after another, and then the closing brace. -/
theorem readFields_furtherMembers (h : List.Forall₂ SpellsMember texts members)
    (hnames : ∀ member ∈ members, member.1 ∈ names)
    (hkeys : ((found ++ textFields members).map (·.1)).Nodup)
    (hall : assemble (found ++ textFields members) (names.map (textMember depth)) = .ok fields)
    (hfuel : texts.length < fuel) (ha : IsSpaces a) (rest : Text) :
    readFields (names.map (textMember depth)) fuel false found
      (a ++ (furtherMembers texts ++ '\x7d' :: rest)) = .ok (fields, rest) := by
  -- What was found grows by one member at each step, and no key is found twice.
  induction h generalizing fuel found a with
  | nil =>
    obtain ⟨fuel, rfl⟩ : ∃ k, fuel = k + 1 := ⟨fuel - 1, by omega⟩
    rw [textFields, List.map_nil, List.append_nil] at hall
    change readFields _ _ _ _ (a ++ '\x7d' :: rest) = _
    rw [readFields, nextKey_end ha]
    simp only [bind, Except.bind, hall]
    rfl
  | @cons text member texts members hmember hmembers ih =>
    obtain ⟨fuel, rfl⟩ : ∃ k, fuel = k + 1 := ⟨fuel - 1, by omega⟩
    obtain ⟨hname, hothers⟩ := List.forall_mem_cons.mp hnames
    have hfound : found ++ textFields (member :: members) =
        found ++ [(member.1, .str member.2)] ++ textFields members := by
      rw [List.append_assoc]
      rfl
    have hnew : found.get? member.1 = none := by
      refine get?_eq_none fun hmem => ?_
      rw [hfound, List.append_assoc, List.map_append, List.nodup_append] at hkeys
      exact hkeys.2.2 member.1 hmem member.1 List.mem_cons_self rfl
    rw [hfound] at hkeys hall
    cases hmember with
    | @mk b c d e key value name text hb hc hd he hkey hvalue =>
      have htext : a ++ (furtherMembers ((b ++ (key ++ (c ++ ':' :: (d ++ (value ++ e))))) ::
            texts) ++ '\x7d' :: rest) =
          a ++ ',' :: (b ++ (key ++ (c ++ ':' :: (d ++ (value ++
            (e ++ (furtherMembers texts ++ '\x7d' :: rest))))))) := by
        simp [furtherMembers]
      rw [htext, readFields_member hname hnew hc hd hvalue (hkey.nextKey_false ha hb _)]
      exact ih hothers hkeys hall (by simpa using hfuel) he

/-- The members of an object are read, and its closing brace. -/
theorem readFields_join (h : List.Forall₂ SpellsMember texts members)
    (hnames : ∀ member ∈ members, member.1 ∈ names)
    (hkeys : ((textFields members).map (·.1)).Nodup)
    (hall : assemble (textFields members) (names.map (textMember depth)) = .ok fields)
    (hfuel : texts.length < fuel) (rest : Text) :
    readFields (names.map (textMember depth)) fuel true []
      (Text.join "," texts ++ '\x7d' :: rest) = .ok (fields, rest) := by
  obtain ⟨fuel, rfl⟩ : ∃ k, fuel = k + 1 := ⟨fuel - 1, by omega⟩
  cases h with
  | nil =>
    change readFields _ _ _ _ ('\x7d' :: rest) = _
    have hend : nextKey true ('\x7d' :: rest) = .ok (none, '\x7d' :: rest) := rfl
    rw [textFields, List.map_nil] at hall
    rw [readFields, hend]
    simp only [bind, Except.bind, hall]
    rfl
  | @cons text member texts members hmember hmembers =>
    -- The first member has no comma before it, so it is read apart from the others.
    obtain ⟨hname, hothers⟩ := List.forall_mem_cons.mp hnames
    cases hmember with
    | @mk a b c d key value name text ha hb hc hd hkey hvalue =>
      have htext : Text.join "," ((a ++ (key ++ (b ++ ':' :: (c ++ (value ++ d))))) :: texts) ++
            '\x7d' :: rest =
          a ++ (key ++ (b ++ ':' :: (c ++ (value ++
            (d ++ (furtherMembers texts ++ '\x7d' :: rest)))))) := by
        rw [join_cons]
        simp only [furtherMembers, List.append_assoc, List.cons_append]
      rw [htext, readFields_member hname rfl hb hc hvalue (hkey.nextKey_true ha _)]
      exact readFields_furtherMembers hmembers hothers hkeys hall (by simpa using hfuel) hd rest

/-- What was found for the members is put into their order. -/
theorem assemble_textMember (h : ∀ member ∈ ordered, found.get? member.1 = some (.str member.2)) :
    assemble found ((ordered.map (·.1)).map (textMember depth)) = .ok (textFields ordered) := by
  induction ordered with
  | nil => rfl
  | cons member ordered ih =>
    obtain ⟨hmember, hothers⟩ := List.forall_mem_cons.mp h
    have hget : found.get? (textMember depth member.1).name = some (.str member.2) := hmember
    rw [List.map_cons, List.map_cons, assemble, hget]
    simp only [Option.some_or, ih hothers]
    rfl

theorem length_le_join (texts : List Text) : texts.length ≤ (Text.join "," texts).length + 1 := by
  cases texts with
  | nil => exact Nat.zero_le _
  | cons t texts =>
    have hothers := length_le_flatMap_cons ',' id texts
    rw [join_cons, List.length_append, List.length_cons]
    exact Nat.succ_le_succ (Nat.le_trans hothers (Nat.le_add_left _ _))

/-- An object of texts is read as a record of them, with the members in the order of the record. -/
theorem readRecord_join (h : List.Forall₂ SpellsMember texts members)
    (hperm : members.Perm ordered) (hkeys : (ordered.map (·.1)).Nodup) (title rest : Text) :
    readRecord title (Schema.readers (ordered.map fun member => (member.1, .text)) depth)
      ('\x7b' :: (Text.join "," texts ++ '\x7d' :: rest)) =
        .ok (.obj (textFields ordered), rest) := by
  have hreaders : Schema.readers (ordered.map fun member => (member.1, .text)) depth =
      (ordered.map (·.1)).map (textMember depth) := by
    rw [← readers_text, List.map_map]
    rfl
  have hnames : ∀ member ∈ members, member.1 ∈ ordered.map (·.1) := fun member hmember =>
    List.mem_map_of_mem (hperm.mem_iff.mp hmember)
  have hfound : ((textFields members).map (·.1)).Nodup := by
    rw [textFields, List.map_map]
    exact (hperm.map (·.1)).nodup_iff.mpr hkeys
  -- The members are found in the order of the text, and put into that of the record at the end.
  have hall : assemble (textFields members) ((ordered.map (·.1)).map (textMember depth)) =
      .ok (textFields ordered) :=
    assemble_textMember fun member hmember =>
      get?_of_mem hfound (List.mem_map.mpr ⟨member, hperm.mem_iff.mpr hmember, rfl⟩)
  have hlength := length_le_join texts
  rw [hreaders]
  refine bind_eq_ok_iff.mpr ⟨_, readFields_join h hnames hfound hall ?_ rest, rfl⟩
  rw [List.length_append, List.length_cons]
  omega

/-- Every way to write a record of texts is read, with the members in the order of the record. -/
theorem SpellsObject.parse_record (h : SpellsObject t members) (hperm : members.Perm ordered)
    (hkeys : (ordered.map (·.1)).Nodup) (title : Text) :
    (Schema.record title (ordered.map fun member => (member.1, .text))).parse t =
      .ok (.obj (textFields ordered)) := by
  cases h with
  | @mk a b texts _ ha hb hmembers =>
    have hread : (Schema.record title (ordered.map fun member => (member.1, .text))).read startDepth
        (a ++ '\x7b' :: (Text.join "," texts ++ '\x7d' :: b)) =
          .ok (.obj (textFields ordered), b) := by
      rw [Schema.read, skipSpaces_append ha]
      exact readRecord_join hmembers hperm hkeys title b
    rw [Schema.parse, parseWith, hread]
    change Except.mapError _ (readEnd b >>= _) = _
    rw [readEnd, skipSpaces_eq_nil hb]
    rfl

/-- A key and a value as they are printed are one of the ways to write a member. -/
theorem spellsMember_quote (member : Text × Text) :
    SpellsMember (quote member.1 ++ ':' :: quote member.2) member := by
  have hmember := SpellsMember.mk isSpaces_nil isSpaces_nil isSpaces_nil isSpaces_nil
    (spellsString_quote member.1) (spellsString_quote member.2)
  simpa using hmember

/-- The text of an object of texts is one of the ways to write it. -/
theorem spellsObject_print (members : List (Text × Text)) :
    SpellsObject (print (.obj (textFields members))) members := by
  have hmembers : List.Forall₂ SpellsMember
      (members.map fun member => quote member.1 ++ ':' :: quote member.2) members :=
    List.forall₂_map_left_iff.mpr (List.forall₂_same.mpr fun member _ => spellsMember_quote member)
  have hprint : print (.obj (textFields members)) = [] ++ '\x7b' ::
      (Text.join "," (members.map fun member => quote member.1 ++ ':' :: quote member.2) ++
        ['\x7d']) := by
    rw [print, printFields_eq_join, textFields, List.map_map, List.map_map]
    simp [Function.comp_def, print]
  rw [hprint]
  exact .mk isSpaces_nil isSpaces_nil hmembers

/-- A record with one text is parsed as one. -/
theorem Schema.parse_print_record (title name t : Text) :
    (Schema.record title [(name, .text)]).parse (print (.obj [(name, .str t)])) =
      .ok (.obj [(name, .str t)]) :=
  (spellsObject_print [(name, t)]).parse_record (.refl [(name, t)])
    (List.nodup_singleton name) title

end AskTable.Json
