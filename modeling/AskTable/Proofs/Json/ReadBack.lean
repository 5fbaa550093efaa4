import AskTable.Proofs.Json.Spelling
import AskTable.Proofs.Text.Search
/-!
# Values as they are read back

What is written compactly is read back, whatever stands behind it that may stand behind a value. A
string is read back, since it is spelled in one of the ways that are read. A number is read back
from its digits, if it is an integer of 64 bits. Arrays and objects are read back if their parts
are, one level deeper; of an object the keys have to be distinct.

## Main definitions

* `Json.IsEnd` - what may stand behind a value
* `Json.ReadsBack` - a value is read back at a given depth

## Main results

* `Json.readString_flatMap_escape` - every string is read back
* `Json.readsBack_int`, `Json.readsBack_float` - numbers are read back
* `Json.readsBack_arr`, `Json.readsBack_obj` - arrays and objects are read back
* `Json.ReadsBack.parse_print` - the text of such a value is parsed as the value
-/

namespace AskTable.Json

variable {t rest digits : Text} {depth n : Nat}

/-! ## Strings -/

/-- Every string is read back, whatever follows. -/
theorem readString_flatMap_escape (t rest : Text) :
    readString (t.flatMap escape ++ '"' :: rest) = .ok (t, rest) :=
  (spells_flatMap_escape t).readString_append rest

theorem quote_append (t rest : Text) :
    quote t ++ rest = '"' :: (t.flatMap escape ++ '"' :: rest) := by
  rw [quote, List.append_assoc, List.append_assoc]
  rfl

/-! ## Numbers -/

/-- What may stand behind a value: nothing, a comma or a closing bracket. -/
def IsEnd (rest : Text) : Prop := ∀ c ∈ rest.head?, c ∈ [',', ']', '\x7d']

theorem isEnd_nil : IsEnd [] := nofun

theorem isEnd_cons {c : Char} (h : c ∈ [',', ']', '\x7d']) (t : Text) : IsEnd (c :: t) := by
  intro d hd
  rwa [← Option.some.inj hd]

theorem IsEnd.isDigit_eq_false (h : IsEnd rest) : ∀ c ∈ rest.head?, c.isDigit = false := by
  have hends : ([',', ']', '\x7d'] : List Char).all (!·.isDigit) = true := by decide
  intro c hc
  simpa using List.all_eq_true.mp hends c (h c hc)

theorem takeDigits_append (hdigits : ∀ c ∈ digits, c.isDigit = true)
    (hrest : ∀ c ∈ rest.head?, c.isDigit = false) :
    takeDigits (digits ++ rest) = (digits, rest) :=
  Prod.ext (Text.span_append hdigits hrest).1 (Text.span_append hdigits hrest).2

/-- More digits make no smaller number. -/
theorem le_ofDigitChars (digits : Text) (n : Nat) : n ≤ Nat.ofDigitChars 10 digits n := by
  induction digits generalizing n with
  | nil => exact Nat.le_refl n
  | cons c digits ih =>
    rw [Nat.ofDigitChars_cons]
    have := ih (10 * n + (c.toNat - '0'.toNat))
    omega

/-- Digits before a point are gathered to their number, if it fits. -/
theorem gatherWhole_eq (h : Nat.ofDigitChars 10 digits n < significandBound) :
    gatherWhole n digits = (Nat.ofDigitChars 10 digits n, 0) := by
  induction digits generalizing n with
  | nil => rfl
  | cons c digits ih =>
    rw [Nat.ofDigitChars_cons] at h ⊢
    have hnext : n * 10 + digitValue c = 10 * n + (c.toNat - '0'.toNat) := by
      rw [digitValue, Nat.mul_comm]
    have hfits := (le_ofDigitChars digits _).trans_lt h
    simp only [gatherWhole, hnext, if_pos hfits, ih h]

/-- Digits behind a point are gathered to a number, and counted, if it fits. -/
theorem gatherPlaces_eq (h : Nat.ofDigitChars 10 digits n < significandBound) :
    gatherPlaces n digits = (Nat.ofDigitChars 10 digits n, digits.length) := by
  induction digits generalizing n with
  | nil => rfl
  | cons c digits ih =>
    rw [Nat.ofDigitChars_cons] at h ⊢
    have hnext : n * 10 + digitValue c = 10 * n + (c.toNat - '0'.toNat) := by
      rw [digitValue, Nat.mul_comm]
    have hfits := (le_ofDigitChars digits _).trans_lt h
    simp only [gatherPlaces, hnext, if_pos hfits, ih h, List.length_cons]

/-- Digits without a point are read as an integer, if it fits. -/
theorem readNumber_append (negative : Bool) (hwhole : IsWhole digits)
    (hn : Nat.ofDigitChars 10 digits 0 < significandBound) (hrest : IsEnd rest) :
    readNumber negative (digits ++ rest) =
      integerNumber negative (Nat.ofDigitChars 10 digits 0) rest := by
  rw [readNumber, takeDigits_append hwhole.isDigit hrest.isDigit_eq_false]
  simp only
  split
  · exact absurd rfl hwhole.ne_nil
  · exact absurd (hwhole.leading rfl) (by simp)
  · rw [gatherWhole_eq hn]
    simp only
    split
    · exact absurd (hrest '.' rfl) (by decide)
    · exact absurd (hrest 'e' rfl) (by decide)
    · exact absurd (hrest 'E' rfl) (by decide)
    · exact if_pos trivial

/-- Digits with a point are read as a floating-point number, if they fit. -/
theorem readNumber_point_append {places : Text} (negative : Bool) (hwhole : IsWhole digits)
    (hplaces : IsDigits places)
    (hn : Nat.ofDigitChars 10 (digits ++ places) 0 < significandBound) (hrest : IsEnd rest) :
    readNumber negative (digits ++ '.' :: (places ++ rest)) =
      floatNumber negative (Nat.ofDigitChars 10 (digits ++ places) 0) (-places.length) rest := by
  rw [Nat.ofDigitChars_append] at hn ⊢
  have hfits := (le_ofDigitChars places _).trans_lt hn
  have hread : readPlaces negative (Nat.ofDigitChars 10 digits 0) 0 (places ++ rest) =
      floatNumber negative (Nat.ofDigitChars 10 places (Nat.ofDigitChars 10 digits 0))
        (-places.length) rest := by
    -- Neither a digit nor an exponent stands behind the places, since a value ends there.
    have hempty : places.isEmpty = false := List.isEmpty_eq_false_iff.mpr hplaces.ne_nil
    rw [readPlaces, takeDigits_append hplaces.isDigit hrest.isDigit_eq_false]
    simp only [hempty, gatherPlaces_eq hn, Bool.false_eq_true, if_false]
    split
    · exact absurd (hrest 'e' rfl) (by decide)
    · exact absurd (hrest 'E' rfl) (by decide)
    · rw [Int.natCast_zero, Int.zero_sub]
  rw [readNumber, takeDigits_append hwhole.isDigit (by simp)]
  simp only
  split
  · exact absurd rfl hwhole.ne_nil
  · exact absurd (hwhole.leading rfl) (by simp)
  · rw [gatherWhole_eq hfits]
    exact hread

/-! ## Scalars -/

/-- The value is read back at this depth, whatever stands behind it that may. -/
def ReadsBack (depth : Nat) (value : Json) : Prop :=
  ∀ rest, IsEnd rest → readValue depth (value.print ++ rest) = .ok (value, rest)

theorem skipSpaces_cons {c : Char} (h : isSpace c = false) (t : Text) :
    skipSpaces (c :: t) = c :: t :=
  List.dropWhile_cons_of_neg (by simp [h])

/-- What does not begin like an array or an object is read as neither. -/
theorem readValue_cons {c : Char} (hspace : isSpace c = false) (hsquare : c ≠ '[')
    (hcurly : c ≠ '\x7b') (t : Text) : readValue (depth + 1) (c :: t) = readScalar (c :: t) := by
  rw [readValue, skipSpaces_cons hspace]
  split
  · exact absurd (List.cons.inj ‹_›).1 hsquare
  · exact absurd (List.cons.inj ‹_›).1 hcurly
  · rfl

theorem ne_of_isDigit {c d : Char} (hc : c.isDigit = true) (hd : d.isDigit = false) : c ≠ d := by
  rintro rfl
  rw [hc] at hd
  cases hd

theorem isSpace_eq_false_of_isDigit {c : Char} (hc : c.isDigit = true) : isSpace c = false := by
  simp [isSpace, ne_of_isDigit hc]

/-- What begins with a digit is read as a number. -/
theorem readValue_digits (h : IsDigits digits) (t : Text) :
    readValue (depth + 1) (digits ++ t) = readNumber false (digits ++ t) := by
  obtain ⟨c, digits, rfl⟩ := List.exists_cons_of_ne_nil h.ne_nil
  have hc : c.isDigit = true := h.isDigit c List.mem_cons_self
  rw [List.cons_append, readValue_cons (isSpace_eq_false_of_isDigit hc) (ne_of_isDigit hc rfl)
    (ne_of_isDigit hc rfl), readScalar, if_neg (ne_of_isDigit hc rfl),
    if_neg (ne_of_isDigit hc rfl), if_neg (ne_of_isDigit hc rfl), if_neg (ne_of_isDigit hc rfl),
    if_pos hc]

theorem readsBack_bool (b : Bool) : ReadsBack (depth + 1) (.bool b) := by
  intro rest _
  cases b <;> rfl

theorem readsBack_str (t : Text) : ReadsBack (depth + 1) (.str t) := by
  intro rest _
  rw [print, quote_append, readValue_cons rfl (by decide) (by decide)]
  change (readString _ >>= fun read => pure (Json.str read.1, read.2)) = _
  rw [readString_flatMap_escape]
  rfl

/-- Integers of 64 bits, with a sign or without one, are read back. -/
theorem readsBack_int {n : Int} (hlow : -(Nat.pow 2 63 : Nat) ≤ n)
    (hhigh : n < (significandBound : Nat)) : ReadsBack (depth + 1) (.int n) := by
  intro rest hrest
  cases n with
  | ofNat n =>
    have hvalue : Nat.ofDigitChars 10 (Text.ofNat n) 0 = n := Nat.ofDigitChars_ten_toDigits
    have hfits : n < significandBound := Int.ofNat_lt.mp hhigh
    change readValue _ (Text.ofNat n ++ rest) = _
    rw [readValue_digits (isDigits_ofNat n),
      readNumber_append false (isWhole_ofNat n) (by rwa [hvalue]) hrest, hvalue]
    rfl
  | negSucc n =>
    have hvalue : Nat.ofDigitChars 10 (Text.ofNat (n + 1)) 0 = n + 1 :=
      Nat.ofDigitChars_ten_toDigits
    have hinteger : ¬ (n + 1 = 0 ∨ Nat.pow 2 63 < n + 1) := by omega
    have hfits : n + 1 < significandBound := by
      have hbound : Nat.pow 2 63 < significandBound := by decide
      omega
    change readValue _ ('-' :: (Text.ofNat (n + 1) ++ rest)) = _
    rw [readValue_cons rfl (by decide) (by decide)]
    change readNumber true _ = _
    rw [readNumber_append true (isWhole_ofNat (n + 1)) (by rwa [hvalue]) hrest, hvalue]
    exact if_neg hinteger

/-- A floating-point number is read back, if the digits that it is written in give it. -/
theorem readsBack_float {x : Binary64} {places : Text}
    (hprint : floatText x = digits ++ '.' :: places) (hwhole : IsWhole digits)
    (hplaces : IsDigits places)
    (hfits : Nat.ofDigitChars 10 (digits ++ places) 0 < significandBound)
    (hscale : scaleByTen? (Nat.ofDigitChars 10 (digits ++ places) 0) (-places.length) = some x)
    (hpositive : x.negative = false) : ReadsBack (depth + 1) (.float x) := by
  intro rest hrest
  rw [print, hprint, List.append_assoc, List.cons_append, readValue_digits hwhole.toIsDigits,
    readNumber_point_append false hwhole hplaces hfits hrest, floatNumber, hscale, ← hpositive]

/-! ## Arrays and objects -/

/-- A value begins neither with a space nor with a closing bracket. -/
theorem exists_print_eq_cons (value : Json) :
    ∃ c t, value.print = c :: t ∧ isSpace c = false ∧ c ≠ ']' := by
  have hdigits {digits : Text} (h : IsDigits digits) (t : Text) :
      ∃ c rest, digits ++ t = c :: rest ∧ isSpace c = false ∧ c ≠ ']' := by
    obtain ⟨c, digits, rfl⟩ := List.exists_cons_of_ne_nil h.ne_nil
    have hc : c.isDigit = true := h.isDigit c List.mem_cons_self
    exact ⟨c, digits ++ t, rfl, isSpace_eq_false_of_isDigit hc, ne_of_isDigit hc rfl⟩
  have hnumber {t : Text} (h : IsNumber t) :
      ∃ c rest, t = c :: rest ∧ isSpace c = false ∧ c ≠ ']' := by
    cases h with
    | positive h =>
      obtain ⟨hwhole, -, -⟩ := h
      rw [List.append_assoc]
      exact hdigits hwhole.toIsDigits _
    | negative h => exact ⟨'-', _, rfl, rfl, by decide⟩
  cases value with
  | null => exact ⟨'n', _, rfl, rfl, by decide⟩
  | bool b => cases b <;> exact ⟨_, _, rfl, rfl, by decide⟩
  | int n => exact hnumber (isNumber_ofInt n)
  | float x => exact hnumber (isNumber_floatText x)
  | str t => exact ⟨'"', _, rfl, rfl, by decide⟩
  | arr items => exact ⟨'[', _, rfl, rfl, by decide⟩
  | obj fields => exact ⟨'\x7b', _, rfl, rfl, by decide⟩

/-- The items of an array, each behind a comma. -/
def furtherItems (items : List Json) : Text := items.flatMap fun item => ',' :: item.print

theorem printItems_cons (item : Json) (items : List Json) :
    printItems (item :: items) = item.print ++ furtherItems items := by
  rw [printItems_eq_join, List.map_cons, join_cons, List.flatMap_map, furtherItems]

theorem isEnd_furtherItems (items : List Json) (rest : Text) :
    IsEnd (furtherItems items ++ ']' :: rest) := by
  cases items with
  | nil => exact isEnd_cons (by decide) rest
  | cons item items => exact isEnd_cons (by decide) _

/-- The next item is the one that is written. -/
theorem nextItem_print (value : Json) (rest : Text) :
    nextItem true (value.print ++ rest) = .ok (true, value.print ++ rest) ∧
      nextItem false (',' :: (value.print ++ rest)) = .ok (true, value.print ++ rest) := by
  obtain ⟨c, t, hprint, hspace, hbracket⟩ := exists_print_eq_cons value
  rw [hprint, List.cons_append]
  constructor
  · rw [nextItem, skipSpaces_cons hspace]
    split
    next heq => cases heq
    next heq => exact absurd (List.cons.inj heq).1 hbracket
    next heq =>
      rw [← heq]
      rfl
  · have hcomma : skipSpaces (',' :: c :: (t ++ rest)) = ',' :: c :: (t ++ rest) :=
      skipSpaces_cons rfl _
    rw [nextItem, hcomma]
    split
    next heq => cases heq
    next heq => exact absurd (List.cons.inj heq).1 (by decide)
    next heq =>
      obtain ⟨rfl, rfl⟩ := List.cons.inj heq
      rw [if_neg Bool.false_ne_true, if_pos rfl, skipSpaces_cons hspace]
      split
      next hnil => cases hnil
      next hcons => exact absurd (List.cons.inj hcons).1 hbracket
      next => rfl

/-- An item that comes next is read back in front of the others. -/
theorem readItems_cons {item : Json} {items : List Json} {fuel : Nat} {first : Bool}
    {after : Text} (hnext : nextItem first t = .ok (true, item.print ++ after))
    (hitem : ReadsBack depth item) (hafter : IsEnd after)
    (hitems : readItems (readValue depth) fuel false after = .ok (items, rest)) :
    readItems (readValue depth) (fuel + 1) first t = .ok (item :: items, rest) := by
  rw [readItems]
  refine bind_eq_ok_iff.mpr ⟨_, hnext, ?_⟩
  refine bind_eq_ok_iff.mpr ⟨_, hitem after hafter, ?_⟩
  exact bind_eq_ok_iff.mpr ⟨_, hitems, rfl⟩

/-- Items behind commas are read back, one after another. -/
theorem readItems_furtherItems {items : List Json} (h : ∀ item ∈ items, ReadsBack depth item)
    {fuel : Nat} (hfuel : items.length < fuel) (rest : Text) :
    readItems (readValue depth) fuel false (furtherItems items ++ ']' :: rest) =
      .ok (items, rest) := by
  induction items generalizing fuel with
  | nil =>
    obtain ⟨fuel, rfl⟩ := Nat.exists_eq_add_of_lt hfuel
    rfl
  | cons item items ih =>
    obtain ⟨hitem, hitems⟩ := List.forall_mem_cons.mp h
    obtain ⟨fuel, rfl⟩ : ∃ k, fuel = k + 1 := ⟨fuel - 1, by omega⟩
    have hothers : readItems (readValue depth) fuel false (furtherItems items ++ ']' :: rest) =
        .ok (items, rest) := ih hitems (by simpa using hfuel)
    rw [furtherItems, List.flatMap_cons, List.cons_append, List.cons_append, List.append_assoc]
    exact readItems_cons (nextItem_print item _).2 hitem (isEnd_furtherItems items rest) hothers

/-- An array is read back, if its items are one level deeper. -/
theorem readsBack_arr {items : List Json} (h : ∀ item ∈ items, ReadsBack (depth + 1) item) :
    ReadsBack (depth + 2) (.arr items) := by
  intro rest _
  -- The fuel is the length of the text, which has a comma for each further item.
  have hitems : ∀ fuel, (printItems items ++ ']' :: rest).length < fuel →
      readItems (readValue (depth + 1)) fuel true (printItems items ++ ']' :: rest) =
        .ok (items, rest) := by
    intro fuel hfuel
    obtain ⟨fuel, rfl⟩ : ∃ k, fuel = k + 1 := ⟨fuel - 1, by omega⟩
    cases items with
    | nil => rfl
    | cons item items =>
      obtain ⟨hitem, hitems⟩ := List.forall_mem_cons.mp h
      have hlength : items.length ≤ (furtherItems items).length := length_le_flatMap_cons ..
      rw [printItems_cons, List.append_assoc] at hfuel ⊢
      rw [List.length_append, List.length_append, List.length_cons] at hfuel
      exact readItems_cons (nextItem_print item _).1 hitem (isEnd_furtherItems items rest)
        (readItems_furtherItems hitems (by omega) rest)
  have hprint : (Json.arr items).print ++ rest = '[' :: (printItems items ++ ']' :: rest) := by
    rw [print, List.append_assoc, List.append_assoc]
    rfl
  rw [hprint, readValue, skipSpaces_cons rfl]
  change (if _ then _ else _) = _
  rw [if_neg (Nat.succ_ne_zero depth)]
  exact bind_eq_ok_iff.mpr ⟨_, hitems _ (Nat.lt_succ_self _), rfl⟩

/-- The members of an object, each behind a comma. -/
def furtherFields (fields : Fields) : Text :=
  fields.flatMap fun field => ',' :: (quote field.1 ++ ':' :: field.2.print)

theorem printFields_cons (key : Text) (value : Json) (fields : Fields) :
    printFields ((key, value) :: fields) =
      quote key ++ ':' :: (value.print ++ furtherFields fields) := by
  rw [printFields_eq_join, List.map_cons, List.map_cons, join_cons]
  simp [furtherFields, List.flatMap_map]

theorem isEnd_furtherFields (fields : Fields) (rest : Text) :
    IsEnd (furtherFields fields ++ '\x7d' :: rest) := by
  cases fields with
  | nil => exact isEnd_cons (by decide) rest
  | cons field fields => exact isEnd_cons (by decide) _

/-- The next key is the one that is written. -/
theorem nextKey_quote (key rest : Text) :
    nextKey true (quote key ++ rest) = .ok (some key, rest) ∧
      nextKey false (',' :: (quote key ++ rest)) = .ok (some key, rest) :=
  ⟨(spellsString_quote key).nextKey_true isSpaces_nil rest,
    (spellsString_quote key).nextKey_false isSpaces_nil isSpaces_nil rest⟩

/-- A member that comes next is read back behind the others. -/
theorem readMembers_cons {key : Text} {value : Json} {fields : Fields} {fuel : Nat} {first : Bool}
    {after : Text} (hnext : nextKey first t = .ok (some key, ':' :: (value.print ++ after)))
    (hvalue : ReadsBack depth value) (hafter : IsEnd after) :
    readMembers (readValue depth) (fuel + 1) first fields t =
      readMembers (readValue depth) fuel false (fields.insert key value) after := by
  have hcolon : readColon (':' :: (value.print ++ after)) = .ok (value.print ++ after) := rfl
  simp only [readMembers, hnext, hcolon, hvalue after hafter, bind, Except.bind]

/-- Members behind commas are read back, one after another. -/
theorem readMembers_furtherFields {done fields : Fields}
    (h : ∀ field ∈ fields, ReadsBack depth field.2)
    (hkeys : ((done ++ fields).map (·.1)).Nodup) {fuel : Nat} (hfuel : fields.length < fuel)
    (rest : Text) :
    readMembers (readValue depth) fuel false done (furtherFields fields ++ '\x7d' :: rest) =
      .ok (done ++ fields, rest) := by
  -- The fields that are done grow by one at each step. No key is among them yet, so it comes last.
  induction fields generalizing fuel done with
  | nil =>
    obtain ⟨fuel, rfl⟩ := Nat.exists_eq_add_of_lt hfuel
    rw [List.append_nil]
    rfl
  | cons field fields ih =>
    obtain ⟨key, value⟩ := field
    obtain ⟨hvalue, hvalues⟩ := List.forall_mem_cons.mp h
    obtain ⟨fuel, rfl⟩ : ∃ k, fuel = k + 1 := ⟨fuel - 1, by omega⟩
    have hkey : key ∉ done.map (·.1) := by
      intro hmem
      rw [List.map_append, List.nodup_append] at hkeys
      exact hkeys.2.2 key hmem key List.mem_cons_self rfl
    have hothers : readMembers (readValue depth) fuel false (done ++ [(key, value)])
        (furtherFields fields ++ '\x7d' :: rest) = .ok (done ++ [(key, value)] ++ fields, rest) :=
      ih hvalues (by simpa using hkeys) (by simpa using hfuel)
    have hsplit : furtherFields ((key, value) :: fields) ++ '\x7d' :: rest =
        ',' :: (quote key ++ ':' :: (value.print ++ (furtherFields fields ++ '\x7d' :: rest))) := by
      simp [furtherFields]
    rw [hsplit, readMembers_cons (nextKey_quote key _).2 hvalue (isEnd_furtherFields fields rest),
      Fields.insert_of_notMem hkey, hothers, List.append_assoc, List.singleton_append]

/-- An object is read back, if its keys are distinct and its values are read back one level
deeper. -/
theorem readsBack_obj {fields : Fields} (hkeys : (fields.map (·.1)).Nodup)
    (h : ∀ field ∈ fields, ReadsBack (depth + 1) field.2) :
    ReadsBack (depth + 2) (.obj fields) := by
  intro rest _
  have hfields : ∀ fuel, (printFields fields ++ '\x7d' :: rest).length < fuel →
      readMembers (readValue (depth + 1)) fuel true [] (printFields fields ++ '\x7d' :: rest) =
        .ok (fields, rest) := by
    intro fuel hfuel
    obtain ⟨fuel, rfl⟩ : ∃ k, fuel = k + 1 := ⟨fuel - 1, by omega⟩
    cases fields with
    | nil => rfl
    | cons field fields =>
      obtain ⟨key, value⟩ := field
      obtain ⟨hvalue, hvalues⟩ := List.forall_mem_cons.mp h
      have hlength : fields.length ≤ (furtherFields fields).length := length_le_flatMap_cons ..
      have hsplit : printFields ((key, value) :: fields) ++ '\x7d' :: rest =
          quote key ++ ':' :: (value.print ++ (furtherFields fields ++ '\x7d' :: rest)) := by
        rw [printFields_cons]
        simp
      rw [hsplit] at hfuel ⊢
      simp only [List.length_append, List.length_cons] at hfuel
      rw [readMembers_cons (nextKey_quote key _).1 hvalue (isEnd_furtherFields fields rest)]
      change readMembers _ _ _ [(key, value)] _ = .ok ([(key, value)] ++ fields, rest)
      exact readMembers_furtherFields hvalues hkeys (by omega) rest
  have hprint : (Json.obj fields).print ++ rest =
      '\x7b' :: (printFields fields ++ '\x7d' :: rest) := by
    rw [print, List.append_assoc, List.append_assoc]
    rfl
  rw [hprint, readValue, skipSpaces_cons rfl]
  change (if _ then _ else _) = _
  rw [if_neg (Nat.succ_ne_zero depth)]
  exact bind_eq_ok_iff.mpr ⟨_, hfields _ (Nat.lt_succ_self _), rfl⟩

/-! ## Whole texts -/

/-- The text of a value that is read back is parsed as the value. -/
theorem ReadsBack.parse_print {value : Json} (h : ReadsBack startDepth value) :
    parse value.print = .ok value := by
  have hread := h [] isEnd_nil
  rw [List.append_nil] at hread
  rw [parse, parseWith, hread]
  rfl

end AskTable.Json
