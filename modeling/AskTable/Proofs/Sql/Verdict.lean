import AskTable.Sql.Policy
import AskTable.Proofs.Text.Ascii
import AskTable.Proofs.Text.Search
/-!
# Verdicts on composed statements

The policy searches a whole statement, so a verdict on a statement that is put together needs a
verdict on its parts. A part is harmless if none of the words that the policy searches for occurs in
it. Characters that no such word has separate parts from each other.

## Main definitions

* `Sql.unwantedWords` - what the policy searches for
* `Sql.IsHarmless` - a part of a statement without unwanted words
* `Sql.IsOpening` - a harmless beginning of a statement, up to the table at least
* `Sql.Policy.keywordVerdict` - the verdict on a text that only a forbidden keyword can spoil

## Main results

* `Sql.Policy.checkLowered_eq_ok_iff` - what an accepted text satisfies
* `Sql.Policy.check_of_isHarmless` - a harmless statement is accepted
* `Sql.Policy.check_around` - a statement that is harmless outside of a literal gets the verdict on
  the keywords in the literal
-/

namespace AskTable.Sql

open Text (StandsIn includes beginsWith isBlank includes_eq_false_iff infix_append_cons_iff)
open Phrase (isDigit)

/-- What the policy searches for. Words that it refuses between blanks only are among them. -/
def unwantedWords : List Text := ";" :: (forbiddenKeywords ++ spacedKeywords)

/-- The text in lower case, letter by letter. -/
abbrev lowered (t : Text) : Text := t.map Char.toLower

/-- The text between two plain blanks. -/
def spaced (t : Text) : Text := ' ' :: (t ++ [' '])

theorem ne_nil_of_mem_unwantedWords : ∀ word ∈ unwantedWords, word ≠ [] := by decide

theorem toNat_of_mem_unwantedWords {word : Text} (hword : word ∈ unwantedWords) :
    ∀ c ∈ word, c.toNat < 0x80 := by
  have hascii : unwantedWords.all (·.all (·.toNat < 0x80)) = true := by decide
  simpa using List.all_eq_true.mp hascii word hword

/-- Does the character occur in no unwanted word? -/
def isSeparator (c : Char) : Bool := unwantedWords.all fun word => !word.contains c

theorem notMem_of_isSeparator {c : Char} (hc : isSeparator c = true) :
    ∀ word ∈ unwantedWords, c ∉ word := by
  intro word hword hmem
  have h := List.all_eq_true.mp hc word hword
  rw [List.contains_iff_mem.mpr hmem] at h
  cases h

/-- Characters of a class are separators, if no unwanted word has one. -/
theorem isSeparator_of_all {p : Char → Bool} {c : Char}
    (hp : unwantedWords.all (fun word => word.all (!p ·)) = true) (hc : p c = true) :
    isSeparator c = true := by
  refine List.all_eq_true.mpr fun word hword => ?_
  rw [Bool.not_eq_true', ← Bool.not_eq_true, List.contains_iff_mem]
  intro hmem
  have hnot := List.all_eq_true.mp (List.all_eq_true.mp hp word hword) c hmem
  rw [hc] at hnot
  cases hnot

theorem isSeparator_of_isBlank {c : Char} (hc : isBlank c = true) : isSeparator c = true :=
  isSeparator_of_all (by decide +kernel) hc

theorem isSeparator_of_isDigit {c : Char} (hc : isDigit c = true) : isSeparator c = true :=
  isSeparator_of_all (by decide) hc

/-- A word between blanks occurs in a text between blanks where the word stands between blanks or
at an end of the text. -/
theorem infix_spaced_iff {word t : Text} :
    spaced word <:+: spaced t ↔ StandsIn (· = ' ') word t := by
  constructor
  · rintro ⟨a, b, heq⟩
    -- The first blank of the text is in front of the word, or belongs to what is before that.
    obtain ⟨before, ht, hbefore⟩ : ∃ before, t ++ [' '] = before ++ (word ++ ' ' :: b) ∧
        ∀ c ∈ before.getLast?, c = ' ' := by
      cases a with
      | nil => exact ⟨[], by simpa [spaced] using heq.symm, by simp⟩
      | cons c a =>
        refine ⟨a ++ [' '], ?_, by simp⟩
        simpa [spaced] using (List.cons.inj heq).2.symm
    rcases List.eq_nil_or_concat b with rfl | ⟨b, c, rfl⟩
    · rw [← List.append_assoc] at ht
      exact ⟨before, [], by simpa using List.append_inj_left' ht rfl, hbefore, by simp⟩
    · have hsplit : before ++ (word ++ ' ' :: b.concat c) =
          before ++ (word ++ ' ' :: b) ++ [c] := by simp
      rw [hsplit] at ht
      exact ⟨before, ' ' :: b, List.append_inj_left' ht rfl, hbefore, by simp⟩
  · rintro ⟨a, b, rfl, hbefore, hafter⟩
    obtain ⟨left, hleft⟩ : ∃ left, ' ' :: a = left ++ [' '] := by
      rcases List.eq_nil_or_concat a with rfl | ⟨a, c, rfl⟩
      · exact ⟨[], rfl⟩
      · rw [hbefore c (by simp)]
        exact ⟨' ' :: a, by simp⟩
    obtain ⟨right, hright⟩ : ∃ right, b ++ [' '] = ' ' :: right := by
      cases b with
      | nil => exact ⟨[], rfl⟩
      | cons c b =>
        rw [hafter c rfl]
        exact ⟨b ++ [' '], rfl⟩
    refine ⟨left, right, ?_⟩
    calc left ++ spaced word ++ right
      _ = (left ++ [' ']) ++ (word ++ ' ' :: right) := by simp [spaced]
      _ = (' ' :: a) ++ (word ++ (b ++ [' '])) := by rw [hleft, hright]
      _ = spaced (a ++ (word ++ b)) := by simp [spaced]

/-- A part of a statement without unwanted words, in any case. -/
structure IsHarmless (t : Text) : Prop where
  ascii : t.all (·.toNat < 0x80) = true
  unwanted : unwantedWords.all (fun word => !includes (lowered t) word) = true

instance (t : Text) : Decidable (IsHarmless t) :=
  decidable_of_iff (t.all (·.toNat < 0x80) = true ∧
      unwantedWords.all (fun word => !includes (lowered t) word) = true)
    ⟨fun h => ⟨h.1, h.2⟩, fun h => ⟨h.ascii, h.unwanted⟩⟩

/-- A harmless beginning of a statement that mentions the table. -/
structure IsOpening (t : Text) : Prop extends IsHarmless t where
  head : t.head? = some 'S'
  select : beginsWith (lowered t) "select " = true
  mentions : includes (lowered t) tableIdent = true

instance (t : Text) : Decidable (IsOpening t) :=
  decidable_of_iff (IsHarmless t ∧ t.head? = some 'S' ∧ beginsWith (lowered t) "select " = true ∧
      includes (lowered t) tableIdent = true)
    ⟨fun h => ⟨h.1, h.2.1, h.2.2.1, h.2.2.2⟩,
      fun h => ⟨h.toIsHarmless, h.head, h.select, h.mentions⟩⟩

namespace IsHarmless

variable {a b t : Text}

theorem toNat_lt (h : IsHarmless t) : ∀ c ∈ t, c.toNat < 0x80 := by
  simpa using h.ascii

theorem includes_eq_false (h : IsHarmless t) : ∀ word ∈ unwantedWords,
    includes (lowered t) word = false := by
  simpa using h.unwanted

/-- Harmless parts around a run of separators are harmless together. -/
theorem append (ha : IsHarmless a) (hb : IsHarmless b) {run : Text} (hne : run ≠ [])
    (hascii : ∀ c ∈ run, c.toNat < 0x80) (hrun : ∀ c ∈ run, isSeparator c.toLower = true) :
    IsHarmless (a ++ run ++ b) where
  ascii := by
    have h := ha.ascii
    have h' := hb.ascii
    rw [List.all_append, List.all_append, h, h']
    simpa using hascii
  unwanted := by
    refine List.all_eq_true.mpr fun word hword => ?_
    have hsep : ∀ c ∈ lowered run, c ∉ word := by
      intro c hc
      obtain ⟨d, hd, rfl⟩ := List.mem_map.mp hc
      exact notMem_of_isSeparator (hrun d hd) word hword
    rw [lowered, List.map_append, List.map_append,
      Text.includes_append_separators (by simpa using hne) hsep, ha.includes_eq_false word hword,
      hb.includes_eq_false word hword]
    rfl

end IsHarmless

theorem IsOpening.isBlank_head {a : Text} (ha : IsOpening a) (t : Text) :
    ∀ c ∈ (a ++ t).head?, isBlank c = false := by
  intro c hc
  rw [List.head?_append, ha.head, Option.some_or, Option.mem_def, Option.some_inj] at hc
  subst hc
  decide

namespace Policy

variable {policy : Policy} {a b t : Text}

/-- What an accepted text in lower case satisfies. -/
theorem checkLowered_eq_ok_iff : policy.checkLowered t = .ok () ↔
    beginsWith t policy.opening = true ∧ includes t ";" = false ∧
      includes t policy.ident = true ∧ (∀ word ∈ forbiddenKeywords, includes t word = false) ∧
      ∀ word ∈ spacedKeywords, includes (spaced t) (spaced word) = false := by
  unfold checkLowered
  -- One case for each check of the policy, in its order.
  split_ifs with hopening hsemicolon hident
  · simp_all
  · simp_all
  · simp_all
  · have hconditions : beginsWith t policy.opening = true ∧ includes t ";" = false ∧
        includes t policy.ident = true := by simp_all
    -- The two searches are found to fail, or name the word that is in the text.
    cases hword : forbiddenKeywords.find? (includes t) with
    | some word =>
      have hmem := List.mem_of_find?_eq_some hword
      have hfound := List.find?_some hword
      refine iff_of_false (by simp) fun h => ?_
      rw [h.2.2.2.1 word hmem] at hfound
      cases hfound
    | none =>
      have hforbidden := List.find?_eq_none.mp hword
      simp only
      split
      · rename_i word hspaced
        refine iff_of_false (by simp) fun h => ?_
        have hfound := List.find?_some hspaced
        change includes (spaced t) (spaced word) = true at hfound
        rw [h.2.2.2.2 word (List.mem_of_find?_eq_some hspaced)] at hfound
        cases hfound
      · rename_i hnone
        have hspaced : ∀ word ∈ spacedKeywords, includes (spaced t) (spaced word) = false :=
          fun word hword => Bool.eq_false_iff.mpr (List.find?_eq_none.mp hnone word hword)
        exact iff_of_true rfl ⟨hconditions.1, hconditions.2.1, hconditions.2.2,
          fun word hword => Bool.eq_false_iff.mpr (hforbidden word hword), hspaced⟩

/-- A word between blanks that occurs in a text between blanks occurs in the text. -/
theorem infix_of_spaced {word : Text} (h : spaced word <:+: spaced t) : word <:+: t :=
  (infix_spaced_iff.mp h).infix_text

theorem mem_unwantedWords_of_mem_forbidden {word : Text} (h : word ∈ forbiddenKeywords) :
    word ∈ unwantedWords :=
  List.mem_cons_of_mem _ (List.mem_append_left _ h)

theorem mem_unwantedWords_of_mem_spaced {word : Text} (h : word ∈ spacedKeywords) :
    word ∈ unwantedWords :=
  List.mem_cons_of_mem _ (List.mem_append_right _ h)

/-- The verdict on a text of ASCII without outer blanks is the verdict on its lower case. -/
theorem check_eq_checkLowered (hascii : ∀ c ∈ t, c.toNat < 0x80)
    (hhead : ∀ c ∈ t.head?, isBlank c = false) (hlast : ∀ c ∈ t.getLast?, isBlank c = false) :
    policy.check t = policy.checkLowered (lowered t) := by
  rw [check, Text.trim_eq_self hhead hlast, Text.lowercase_ascii hascii]

theorem beginsWith_opening (h : beginsWith t "select " = true) :
    beginsWith t policy.opening = true := by
  obtain ⟨rest, rfl⟩ := Text.beginsWith_iff.mp h
  cases hs : policy.strictness with
  | strict => simpa only [opening, hs] using h
  | standard =>
    simp only [opening, hs]
    exact Text.beginsWith_iff.mpr ⟨' ' :: rest, rfl⟩

/-- What is accepted begins like a query. -/
theorem isSelect_of_check {s : Statement} (h : policy.check s.text = .ok ()) :
    s.isSelect = true := by
  obtain ⟨rest, hrest⟩ := Text.beginsWith_iff.mp (checkLowered_eq_ok_iff.mp h).1
  rw [Statement.isSelect, hrest, Text.beginsWith_iff]
  cases hs : policy.strictness with
  | strict => exact ⟨' ' :: rest, by simp [opening, hs]⟩
  | standard => exact ⟨rest, by simp [opening, hs]⟩

/-- The verdict on a text that can only be wrong by a forbidden keyword: the first one of the list
that occurs in it is named. -/
def keywordVerdict (t : Text) : Except Violation Unit :=
  match forbiddenKeywords.find? (includes t) with
  | some word => .error (.keyword word)
  | none => .ok ()

/-- Texts with the same keywords get the same verdict. -/
theorem keywordVerdict_congr {u : Text}
    (h : ∀ word ∈ forbiddenKeywords, includes t word = includes u word) :
    keywordVerdict t = keywordVerdict u := by
  have hfind : forbiddenKeywords.find? (includes t) = forbiddenKeywords.find? (includes u) := by
    rw [← List.head?_filter, ← List.head?_filter, List.filter_congr h]
  rw [keywordVerdict, hfind, keywordVerdict]

theorem keywordVerdict_eq_ok_iff : keywordVerdict t = .ok () ↔
    ∀ word ∈ forbiddenKeywords, includes t word = false := by
  rw [keywordVerdict]
  cases hfind : forbiddenKeywords.find? (includes t) with
  | none =>
    refine iff_of_true rfl fun word hword => ?_
    exact Bool.eq_false_iff.mpr (List.find?_eq_none.mp hfind word hword)
  | some word =>
    refine iff_of_false (by simp) fun h => ?_
    have hfound := List.find?_some hfind
    rw [h word (List.mem_of_find?_eq_some hfind)] at hfound
    cases hfound

/-- After an opening, and without a semicolon or a word between blanks, only the forbidden keywords
matter. -/
theorem checkLowered_append (hident : policy.ident = tableIdent) (ha : IsOpening a)
    (hsemicolon : includes (lowered a ++ t) ";" = false)
    (hspaced : ∀ word ∈ spacedKeywords,
      includes (spaced (lowered a ++ t)) (spaced word) = false) :
    policy.checkLowered (lowered a ++ t) = keywordVerdict (lowered a ++ t) := by
  have hbegins : beginsWith (lowered a ++ t) policy.opening = true := by
    obtain ⟨rest, hrest⟩ := Text.beginsWith_iff.mp ha.select
    refine beginsWith_opening (Text.beginsWith_iff.mpr ⟨rest ++ t, ?_⟩)
    rw [hrest, List.append_assoc]
  have hmentions : includes (lowered a ++ t) policy.ident = true := by
    rw [hident, Text.includes_iff_infix]
    exact List.infix_append_of_infix_left (Text.includes_iff_infix.mp ha.mentions)
  have hnone : spacedKeywords.find? (fun word =>
      includes (spaced (lowered a ++ t)) (spaced word)) = none :=
    List.find?_eq_none.mpr fun word hword => Bool.eq_false_iff.mp (hspaced word hword)
  -- The first three checks pass, and the last search finds nothing.
  rw [checkLowered, hbegins, hsemicolon, hmentions, keywordVerdict]
  cases forbiddenKeywords.find? (includes (lowered a ++ t)) with
  | some word => rfl
  | none =>
    change (match spacedKeywords.find? fun word =>
      includes (spaced (lowered a ++ t)) (spaced word) with
      | some word => Except.error (Violation.keyword word)
      | none => .ok ()) = .ok ()
    rw [hnone]

/-- A harmless text between blanks has no word of the policy between blanks. -/
theorem includes_spaced_eq_false (h : IsHarmless t) :
    ∀ word ∈ spacedKeywords, includes (spaced (lowered t)) (spaced word) = false := by
  intro word hword
  have hnot := h.includes_eq_false word (mem_unwantedWords_of_mem_spaced hword)
  refine includes_eq_false_iff.mpr fun hfound => ?_
  exact includes_eq_false_iff.mp hnot (infix_of_spaced hfound)

/-- A harmless statement is accepted. -/
theorem check_of_isHarmless (hident : policy.ident = tableIdent) (ha : IsOpening a)
    (h : IsHarmless (a ++ t)) (hlast : ∀ c ∈ (a ++ t).getLast?, isBlank c = false) :
    policy.check (a ++ t) = .ok () := by
  have hlower : lowered (a ++ t) = lowered a ++ lowered t := List.map_append
  -- All that is left of the check are searches for unwanted words, and there are none.
  have hunwanted := h.includes_eq_false
  have hspaced := includes_spaced_eq_false h
  rw [hlower] at hunwanted hspaced
  rw [check_eq_checkLowered h.toNat_lt (ha.isBlank_head t) hlast, hlower,
    checkLowered_append hident ha (hunwanted _ List.mem_cons_self) hspaced]
  exact keywordVerdict_eq_ok_iff.mpr fun word hword =>
    hunwanted word (mem_unwantedWords_of_mem_forbidden hword)

theorem check_of_isOpening (hident : policy.ident = tableIdent) (ha : IsOpening a)
    (hlast : ∀ c ∈ a.getLast?, isBlank c = false) : policy.check a = .ok () := by
  have h : a ++ [] = a := List.append_nil a
  rw [← h] at hlast ⊢
  exact check_of_isHarmless hident ha (by rw [h]; exact ha.toIsHarmless) hlast

/-! ## Statements with a literal -/

/-- The statement with a literal between two parts. -/
def around (a b t : Text) : Text := a ++ '\'' :: (t ++ '\'' :: b)

theorem lowered_around (a b t : Text) :
    lowered (around a b t) = around (lowered a) (lowered b) (lowered t) := by
  rw [around, lowered, List.map_append, List.map_cons, List.map_append, List.map_cons]
  rfl

theorem toNat_lt_of_mem_around (ha : IsHarmless a) (hb : IsHarmless b)
    (ht : ∀ c ∈ t, c.toNat < 0x80) : ∀ c ∈ around a b t, c.toNat < 0x80 := by
  intro c hc
  simp only [around, List.mem_append, List.mem_cons] at hc
  rcases hc with hc | rfl | hc | rfl | hc
  · exact ha.toNat_lt c hc
  · decide
  · exact ht c hc
  · decide
  · exact hb.toNat_lt c hc

theorem isBlank_getLast_around (hb : ∀ c ∈ b.getLast?, isBlank c = false) :
    ∀ c ∈ (around a b t).getLast?, isBlank c = false := by
  intro c hc
  cases b with
  | nil =>
    simp only [around, List.getLast?_append, List.getLast?_cons, List.getLast?_nil,
      Option.getD_none, Option.some_or, Option.getD_some, Option.mem_def, Option.some_inj] at hc
    subst hc
    decide
  | cons d b =>
    refine hb c ?_
    simpa [around, List.getLast?_append, List.getLast?_cons] using hc

/-- A search that does not look for a quote ends inside of the literal. -/
theorem includes_around (ha : IsHarmless a) (hb : IsHarmless b) {word : Text}
    (hword : word ∈ unwantedWords) :
    includes (around (lowered a) (lowered b) t) word = includes t word := by
  have hquote : ∀ word ∈ unwantedWords, '\'' ∉ word := by decide
  rw [around, Text.includes_append_cons (hquote word hword),
    Text.includes_append_cons (hquote word hword), ha.includes_eq_false word hword,
    hb.includes_eq_false word hword, Bool.false_or, Bool.or_false]

/-- A word between blanks is not in a literal without blanks. -/
theorem includes_spaced_around (ha : IsHarmless a) (hb : IsHarmless b) (ht : ' ' ∉ t) :
    ∀ word ∈ spacedKeywords,
      includes (spaced (around (lowered a) (lowered b) t)) (spaced word) = false := by
  intro word hword
  have hquote : ∀ word ∈ spacedKeywords, '\'' ∉ spaced word := by decide
  -- A quote ends each of the three parts, and the words have none, so a word lies in one part.
  have hsplit : spaced (around (lowered a) (lowered b) t) =
      (' ' :: lowered a) ++ '\'' :: (t ++ '\'' :: (lowered b ++ [' '])) := by
    simp [spaced, around]
  have hafter : lowered b ++ [' '] <:+: spaced (lowered b) :=
    (List.suffix_cons ' ' _).isInfix
  have hbefore : ' ' :: lowered a <:+: spaced (lowered a) := ⟨[], [' '], rfl⟩
  refine includes_eq_false_iff.mpr fun hfound => ?_
  rw [hsplit, infix_append_cons_iff (hquote word hword),
    infix_append_cons_iff (hquote word hword)] at hfound
  rcases hfound with hfound | hfound | hfound
  · exact includes_eq_false_iff.mp (includes_spaced_eq_false ha word hword)
      (hfound.trans hbefore)
  · exact ht (hfound.subset List.mem_cons_self)
  · exact includes_eq_false_iff.mp (includes_spaced_eq_false hb word hword)
      (hfound.trans hafter)

/-- A statement that is harmless outside of one literal, which has no blank and no semicolon, gets
the verdict on the keywords in the literal. -/
theorem check_around (hident : policy.ident = tableIdent) (ha : IsOpening a)
    (hb : IsHarmless b) (hlast : ∀ c ∈ b.getLast?, isBlank c = false)
    (hascii : ∀ c ∈ t, c.toNat < 0x80) (hplain : ∀ c ∈ lowered t, c ≠ ' ' ∧ c ≠ ';') :
    policy.check (around a b t) = keywordVerdict (lowered t) := by
  have hblank : ' ' ∉ lowered t := fun h => (hplain ' ' h).1 rfl
  have hsemicolon : includes (lowered t) ";" = false :=
    includes_eq_false_iff.mpr fun hfound => (hplain ';' (hfound.subset (by decide))).2 rfl
  -- The parts outside of the literal are harmless, so each search is one in the literal.
  have hsearch : ∀ word ∈ unwantedWords,
      includes (around (lowered a) (lowered b) (lowered t)) word = includes (lowered t) word :=
    fun word hword => includes_around ha.toIsHarmless hb hword
  have hspaced := includes_spaced_around ha.toIsHarmless hb hblank
  rw [check_eq_checkLowered (toNat_lt_of_mem_around ha.toIsHarmless hb hascii)
    (ha.isBlank_head _) (isBlank_getLast_around hlast), lowered_around]
  refine (checkLowered_append hident ha ?_ hspaced).trans ?_
  · exact (hsearch _ List.mem_cons_self).trans hsemicolon
  · exact keywordVerdict_congr fun word hword =>
      hsearch word (mem_unwantedWords_of_mem_forbidden hword)

end Policy

end AskTable.Sql
