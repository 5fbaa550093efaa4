import AskTable.Proofs.Sql.Disguise
import AskTable.Proofs.Text.Trim
/-!
# Words that stand apart

Two keywords are refused as words only, so that they may be parts of longer words and of patterns. A
word is what stands between plain blanks. An end of the text serves as well, and blanks of any kind
behind the last word or before the first one belong to the end, but a line break or a tab between
two words does not make words of them.

## Main definitions

* `Text.StandsApart` - a word stands between plain blanks or at the ends of a text

## Main results

* `Text.standsApart_iff` - to stand apart is to stand between plain blanks in the trimmed text
* `Sql.infix_spaced_lowercase_iff` - what the policy looks for between blanks stands in the text in
  some case
* `Sql.Policy.check_standsApart` - a text is refused if a keyword stands apart in it, and the
  refusal names such a keyword only then
-/

namespace AskTable.Text

variable {t word : Text}

/-- The word stands in the text, and on each side of it there is a plain blank or nothing but blanks
up to the end of the text. -/
def StandsApart (word t : Text) : Prop :=
  ∃ a b, t = a ++ (word ++ b) ∧ (a.getLast? = some ' ' ∨ ∀ c ∈ a, isBlank c = true) ∧
    (b.head? = some ' ' ∨ ∀ c ∈ b, isBlank c = true)

/-- What is left of a text that ends with a plain blank ends with it, unless nothing is left. -/
theorem getLast?_trimStart {a : Text}
    (ha : a.getLast? = some ' ' ∨ ∀ c ∈ a, isBlank c = true) :
    ∀ c ∈ (trimStart a).getLast?, c = ' ' := by
  intro c hc
  rcases ha with hlast | hblank
  · have hmem := mem_getLast?_of_isSuffix (List.dropWhile_suffix isBlank) hc
    rw [hlast] at hmem
    exact (Option.some.inj hmem).symm
  · rw [trimStart_of_all hblank] at hc
    cases hc

/-- What is left of a text that begins with a plain blank begins with it, unless nothing is left. -/
theorem head?_trimEnd {b : Text} (hb : b.head? = some ' ' ∨ ∀ c ∈ b, isBlank c = true) :
    ∀ c ∈ (trimEnd b).head?, c = ' ' := by
  intro c hc
  rcases hb with hhead | hblank
  · have hmem := mem_head?_of_isPrefix (List.rdropWhile_prefix isBlank b) hc
    rw [hhead] at hmem
    exact (Option.some.inj hmem).symm
  · rw [trimEnd, dropEnd_of_all hblank] at hc
    cases hc

/-- To stand apart is to stand between plain blanks in the text without its outer blanks. -/
theorem standsApart_iff (hword : IsTrimmed word) (hne : word ≠ []) :
    StandsApart word t ↔ StandsIn (· = ' ') word (trim t) := by
  constructor
  · rintro ⟨a, b, rfl, ha, hb⟩
    exact ⟨trimStart a, trimEnd b, hword.trim_append hne a b, getLast?_trimStart ha,
      head?_trimEnd hb⟩
  · rintro ⟨a, b, htrim, ha, hb⟩
    obtain ⟨left, right, ht, hleft, hright⟩ := exists_eq_trim t
    refine ⟨left ++ a, b ++ right, ?_, ?_, ?_⟩
    · rw [ht, htrim]
      simp only [List.append_assoc]
    · -- Before the word there are only the blanks that trimming takes away, or a plain one.
      cases hlast : a.getLast? with
      | none =>
        rw [List.getLast?_eq_none_iff.mp hlast, List.append_nil]
        exact Or.inr hleft
      | some c => rw [List.getLast?_append, hlast, Option.some_or, ha c hlast]; exact Or.inl rfl
    · cases hhead : b.head? with
      | none =>
        rw [List.head?_eq_none_iff.mp hhead, List.nil_append]
        exact Or.inr hright
      | some c => rw [List.head?_append, hhead, Option.some_or, hb c hhead]; exact Or.inl rfl

end AskTable.Text

namespace AskTable.Sql

open Text (StandsApart StandsIn IsPlainLower IsTrimmed foldCase lowercase trim)

variable {part t word : Text}

theorem isPlainLower_of_mem_spaced (hword : word ∈ spacedKeywords) :
    ∀ c ∈ spaced word, IsPlainLower c := by
  have hall : spacedKeywords.all (fun word =>
      (spaced word).all fun c => decide (IsPlainLower c)) = true := by decide +kernel
  intro c hc
  exact of_decide_eq_true (List.all_eq_true.mp (List.all_eq_true.mp hall word hword) c hc)

/-- Only a plain blank becomes one in lower case. -/
theorem eq_of_toLower_eq_blank {c : Char} (h : c.toLower = ' ') : c = ' ' := by
  have hascii : c.toNat < 0x80 := Text.toNat_lt_of_toLower (by rw [h]; decide)
  exact Text.of_forall_ascii (fun c => c.toLower = ' ' → c = ' ') (by decide +kernel) hascii h

theorem lowered_spaced (t : Text) : lowered (spaced t) = spaced (lowered t) := by
  simp [spaced]

/-- What becomes a text between blanks is a text between blanks. -/
theorem exists_spaced_of_lowered (h : lowered part = spaced word) :
    ∃ inner, part = spaced inner ∧ lowered inner = word := by
  -- The first character and the last one become blanks, so they are blanks.
  obtain ⟨c, rest, rfl, hc, hrest⟩ := List.map_eq_cons_iff.mp h
  obtain ⟨inner, last, rfl, hinner, hlast⟩ := List.map_eq_append_iff.mp hrest
  obtain ⟨d, rfl, hd⟩ := List.map_eq_singleton_iff.mp hlast
  obtain rfl := eq_of_toLower_eq_blank hc
  obtain rfl := eq_of_toLower_eq_blank hd
  exact ⟨inner, rfl, hinner⟩

/-- What the policy looks for between blanks stands between blanks in the text, in some case. -/
theorem infix_spaced_lowercase_iff (hword : word ∈ spacedKeywords) :
    spaced word <:+: spaced (lowercase t) ↔
      ∃ part, lowered part = word ∧ StandsIn (· = ' ') part t := by
  have hplain := isPlainLower_of_mem_spaced hword
  have hascii : ∀ c ∈ spaced word, c.toNat < 0x80 := fun c hc => (hplain c hc).1
  -- Blanks at both ends are their own lower case, and do not matter for the text between them.
  have hsame : spaced word <:+: spaced (lowercase t) ↔ spaced word <:+: lowercase (spaced t) := by
    have hfold : foldCase (spaced t) = [' '] ++ foldCase t ++ [' '] := by
      rw [spaced, ← List.singleton_append, Text.foldCase_append, Text.foldCase_append,
        Text.foldCase_of_isBlank (List.forall_mem_singleton.mpr (by decide)),
        List.append_assoc]
    rw [Text.infix_lowercase_iff_infix_foldCase hascii, hfold]
    exact Text.infix_lowercase_iff hascii [' '] t [' ']
  rw [hsame]
  constructor
  · intro h
    obtain ⟨between, hbetween, hlower⟩ :=
      Text.exists_infix_of_lowercaseFrom hplain (List.cons_ne_nil _ _) h
    obtain ⟨part, rfl, hpart⟩ := exists_spaced_of_lowered hlower
    exact ⟨part, hpart, infix_spaced_iff.mp hbetween⟩
  · rintro ⟨part, rfl, hpart⟩
    rw [← lowered_spaced] at hascii ⊢
    exact Text.infix_lowercase_of_infix (List.forall_mem_map.mp hascii) (infix_spaced_iff.mpr hpart)

namespace Policy

variable {policy : Policy}

/-- The keyword that a refusal names is in the text, and one that is refused as a word only is there
between plain blanks. -/
theorem infix_of_checkLowered (h : policy.checkLowered t = .error (.keyword word)) :
    word ∈ forbiddenKeywords ∧ word <:+: t ∨
      word ∈ spacedKeywords ∧ spaced word <:+: spaced t := by
  unfold checkLowered at h
  split_ifs at h with hopening hsemicolon hident
  · cases h
  · cases h
  · cases h
  · -- What is named was found by one of the two searches.
    split at h
    · rename_i found hfind
      obtain rfl : found = word := by simpa using h
      have hfound := List.find?_some hfind
      exact Or.inl ⟨List.mem_of_find?_eq_some hfind, Text.includes_iff_infix.mp hfound⟩
    · simp only at h
      split at h
      · rename_i found hfind
        obtain rfl : found = word := by simpa using h
        have hfound := List.find?_some hfind
        exact Or.inr ⟨List.mem_of_find?_eq_some hfind, Text.includes_iff_infix.mp hfound⟩
      · cases h

/-- Whether a keyword stands apart in a text is seen in the text without its outer blanks. -/
theorem standsApart_keyword_iff (hword : lowered part ∈ spacedKeywords) :
    StandsApart part t ↔ StandsIn (· = ' ') part (trim t) := by
  have hunwanted := mem_unwantedWords_of_mem_spaced hword
  have hvisible := isBlank_eq_false_of_lowered hunwanted
  have htrimmed : IsTrimmed part :=
    ⟨fun c hc => hvisible c (List.mem_of_head? hc),
      fun c hc => hvisible c (List.mem_of_getLast? hc)⟩
  exact Text.standsApart_iff htrimmed (ne_nil_of_lowered hunwanted)

/-- A text is refused if a keyword that is refused as a word only stands apart in it, in any case.
A refusal names such a keyword only if it stands apart in the text. -/
theorem check_standsApart (policy : Policy) (t : Text) :
    ((∃ part, lowered part ∈ spacedKeywords ∧ StandsApart part t) →
      ∃ violation, policy.check t = .error violation) ∧
    ∀ word ∈ spacedKeywords, policy.check t = .error (.keyword word) →
      ∃ part, lowered part = word ∧ StandsApart part t := by
  constructor
  · rintro ⟨part, hword, hstands⟩
    cases hcheck : policy.check t with
    | error violation => exact ⟨violation, rfl⟩
    | ok _ =>
      have hnot := (checkLowered_eq_ok_iff.mp hcheck).2.2.2.2 _ hword
      refine absurd ?_ (Text.includes_eq_false_iff.mp hnot)
      refine (infix_spaced_lowercase_iff hword).mpr ?_
      exact ⟨part, rfl, (standsApart_keyword_iff hword).mp hstands⟩
  · intro word hword hcheck
    have hdisjoint : ∀ word ∈ spacedKeywords, word ∉ forbiddenKeywords := by decide
    rcases infix_of_checkLowered hcheck with ⟨hforbidden, -⟩ | ⟨-, hfound⟩
    · exact absurd hforbidden (hdisjoint word hword)
    · obtain ⟨part, rfl, hstands⟩ := (infix_spaced_lowercase_iff hword).mp hfound
      exact ⟨part, rfl, (standsApart_keyword_iff hword).mpr hstands⟩

/-- A keyword in mixed case between plain blanks, which the refusal names, and one at the end of a
text, before a line break. -/
theorem check_standsApart_update :
    (∃ violation, standard.check "SELECT * FROM default.MOCK_DATA UpDate Σ" = .error violation) ∧
    (∃ part, lowered part = "update" ∧
      StandsApart part "SELECT * FROM default.MOCK_DATA UpDate Σ") ∧
    ∃ violation, strict.check "SELECT * FROM default.MOCK_DATA DELETE\n" = .error violation := by
  have hupdate : StandsApart "UpDate" "SELECT * FROM default.MOCK_DATA UpDate Σ" :=
    ⟨"SELECT * FROM default.MOCK_DATA ", " Σ", by decide, Or.inl (by decide), Or.inl (by decide)⟩
  have hdelete : StandsApart "DELETE" "SELECT * FROM default.MOCK_DATA DELETE\n" := by
    have hend : ∀ c ∈ (['\n'] : Text), Text.isBlank c = true :=
      List.forall_mem_singleton.mpr (by decide)
    exact ⟨"SELECT * FROM default.MOCK_DATA ", "\n", by decide, Or.inl (by decide), Or.inr hend⟩
  have hnamed : standard.check "SELECT * FROM default.MOCK_DATA UpDate Σ" =
      .error (.keyword "update") := by decide +kernel
  exact ⟨(check_standsApart standard _).1 ⟨_, by decide, hupdate⟩,
    (check_standsApart standard _).2 _ (by decide) hnamed,
    (check_standsApart strict _).1 ⟨_, by decide, hdelete⟩⟩

/-- A keyword between line breaks is not seen, so not every text with a keyword between blanks is
refused. -/
theorem check_delete_between_lines :
    (∀ strictness, check ⟨tableIdent, strictness⟩
      "SELECT * FROM default.MOCK_DATA\nDELETE\nWHERE 1" = .ok ()) ∧
    StandsIn (Text.isBlank · = true) "DELETE" "SELECT * FROM default.MOCK_DATA\nDELETE\nWHERE 1" ∧
    ¬ ∀ (policy : Policy) (part t : Text), lowered part ∈ spacedKeywords →
      StandsIn (Text.isBlank · = true) part t → ∃ violation, policy.check t = .error violation := by
  have hcheck : ∀ strictness, check ⟨tableIdent, strictness⟩
      "SELECT * FROM default.MOCK_DATA\nDELETE\nWHERE 1" = .ok () := by
    intro strictness
    cases strictness <;> decide +kernel
  have hstands : StandsIn (Text.isBlank · = true) "DELETE"
      "SELECT * FROM default.MOCK_DATA\nDELETE\nWHERE 1" := by
    have hbreak : Text.isBlank '\n' = true := by decide
    refine ⟨"SELECT * FROM default.MOCK_DATA\n", "\nWHERE 1", by decide, ?_, ?_⟩
    · simpa using hbreak
    · simpa using hbreak
  refine ⟨hcheck, hstands, fun hall => ?_⟩
  obtain ⟨violation, herror⟩ := hall _ _ _ (by decide) hstands
  rw [hcheck .standard] at herror
  cases herror

end Policy

end AskTable.Sql
