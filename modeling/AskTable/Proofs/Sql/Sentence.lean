import AskTable.Proofs.Sql.Tables
import AskTable.Proofs.Text.LetterCase
/-!
# Sentences that the strict policy accepts

The sentences of the grammar can be written in many ways: letters outside of literals in any case,
blanks of any kind between tokens, none where two tokens do not run together, and any characters
inside of a literal. The policy searches the whole text of a sentence. What it searches for has no
blank, digit, mark or quote inside, so it stands in one word or in one literal, and a sentence is
accepted as it is unless an alias or a literal has it.

## Main definitions

* `Sql.Token.Spelled`, `Sql.Written` - the ways to write a token, and tokens
* `Sql.Query.Sentence` - the ways to write a tree, with a plain blank behind its first word
* `Sql.Query.IsClean` - no alias and no literal has what the policy searches for

## Main results

* `Sql.Written.exists_shows` - what stands in a text stands in one of its tokens
* `Sql.Query.Sentence.clean_eq` - cleaning leaves a sentence as it is
* `Sql.sanitize_sentence` - clean sentences are accepted as they are
-/

namespace AskTable.Sql

open Text (StandsIn foldCase foldCase_append foldCase_cons includes includes_iff_infix
  includes_eq_false_iff includes_lowercase_eq_false_iff infix_append_cons_iff infix_lowercase_iff
  isBlank lowercase standsIn_true_iff)
open Phrase (isDigit)

/-! ## Ways to write tokens -/

/-- The text stands for the token. Letters outside of literals may be in any case, and between its
quotes a literal has its content as it is. -/
inductive Token.Spelled : Token → Text → Prop
  | word {w u : Text} (h : Sql.lowered u = Sql.lowered w) : Spelled (.word w) u
  | number (digits : Text) : Spelled (.number digits) digits
  | literal (content : Text) : Spelled (.literal content) ('\'' :: (content ++ ['\'']))
  | mark (m : Text) : Spelled (.mark m) m

/-- What may stand between a token and those behind it: blanks, of which two words need one. Nothing
stands behind the last token. -/
structure Token.IsGap (token : Token) (tokens : List Token) (gap : Text) : Prop where
  blank : ∀ c ∈ gap, isBlank c = true
  apart : ∀ next ∈ tokens.head?, token.isWord = true → next.isWord = true → gap ≠ []
  last : tokens = [] → gap = []

instance (token : Token) (tokens : List Token) (gap : Text) :
    Decidable (token.IsGap tokens gap) :=
  decidable_of_iff (gap.all isBlank = true ∧
      (∀ next ∈ tokens.head?, token.isWord = true → next.isWord = true → gap ≠ []) ∧
      (tokens = [] → gap = []))
    ⟨fun h => ⟨List.all_eq_true.mp h.1, h.2.1, h.2.2⟩,
      fun h => ⟨List.all_eq_true.mpr h.blank, h.apart, h.last⟩⟩

/-- The text is a way to write the tokens. -/
inductive Written : List Token → Text → Prop
  | nil : Written [] []
  | cons {token : Token} {tokens : List Token} {u gap t : Text} (hspelled : token.Spelled u)
      (hgap : token.IsGap tokens gap) (hrest : Written tokens t) :
      Written (token :: tokens) (u ++ (gap ++ t))

/-- The text is a way to write the tree, with a plain blank directly behind its first word. -/
inductive Query.Sentence (query : Query) : Text → Prop
  | intro {select gap t : Text} (hselect : (Token.word "SELECT").Spelled select)
      (hgap : ∀ c ∈ gap, isBlank c = true) (hrest : Written query.tokens.tail t) :
      Sentence query (select ++ ' ' :: (gap ++ t))

def Token.content? : Token → Option Text
  | .literal content => some content
  | _ => none

/-- The contents of the literals of a tree. -/
def Query.literals (query : Query) : List Text := query.tokens.filterMap Token.content?

/-- In lower case, no alias and no literal of the tree has a forbidden keyword. No alias is one of
the keywords that are refused between blanks, and no literal has one of these between plain blanks,
or a semicolon. -/
structure Query.IsClean (query : Query) : Prop where
  name_forbidden : ∀ name ∈ query.identifiers, ∀ word ∈ forbiddenKeywords,
    includes (lowercase name.text) word = false
  name_spaced : ∀ name ∈ query.identifiers, lowercase name.text ∉ spacedKeywords
  literal_forbidden : ∀ content ∈ query.literals, ∀ word ∈ forbiddenKeywords,
    includes (lowercase content) word = false
  literal_spaced : ∀ content ∈ query.literals, ∀ word ∈ spacedKeywords,
    includes (lowercase content) (spaced word) = false
  literal_semicolon : ∀ content ∈ query.literals, includes (lowercase content) ";" = false

instance (query : Query) : Decidable query.IsClean :=
  decidable_of_iff ((∀ name ∈ query.identifiers, ∀ word ∈ forbiddenKeywords,
        includes (lowercase name.text) word = false) ∧
      (∀ name ∈ query.identifiers, ∀ word ∈ spacedKeywords, word ≠ lowercase name.text) ∧
      (∀ content ∈ query.literals, ∀ word ∈ forbiddenKeywords,
        includes (lowercase content) word = false) ∧
      (∀ content ∈ query.literals, ∀ word ∈ spacedKeywords,
        includes (lowercase content) (spaced word) = false) ∧
      ∀ content ∈ query.literals, includes (lowercase content) ";" = false)
    ⟨fun h => ⟨h.1, fun name hname hmem => h.2.1 name hname _ hmem rfl, h.2.2.1, h.2.2.2.1,
        h.2.2.2.2⟩,
      fun h => ⟨h.name_forbidden, fun name hname _ hword heq =>
        h.name_spaced name hname (heq ▸ hword), h.literal_forbidden, h.literal_spaced,
        h.literal_semicolon⟩⟩

/-! ## Spelled tokens -/

/-- Capital letters are characters of names where small letters are. -/
theorem isNameChar_toLower (c : Char) : isNameChar c.toLower = isNameChar c := by
  by_cases hupper : c.isUpper = true
  · have hrange := Text.isUpper_iff.mp hupper
    exact Text.of_forall_ascii (fun c => isNameChar c.toLower = isNameChar c) (by decide +kernel)
      (by omega)
  · rw [Text.toLower_of_not_isUpper hupper]

variable {token : Token} {tokens : List Token} {t u w gap word : Text} {edge : Char → Prop}

namespace Token.Spelled

/-- In whatever case a readable word is written, it has only characters of names. -/
theorem forall_isNameChar (h : (Token.word w).Spelled u) (hw : (Token.word w).isReadable = true) :
    ∀ c ∈ u, isNameChar c = true := by
  cases h with
  | word h =>
    intro c hc
    have hmem : c.toLower ∈ Sql.lowered w := h ▸ List.mem_map_of_mem hc
    obtain ⟨d, hd, hlower⟩ := List.mem_map.mp hmem
    rw [← isNameChar_toLower, ← hlower, isNameChar_toLower, (isReadable_word_iff.mp hw).2 d hd]

/-- In whatever case a readable word is written, it has the same lower case. -/
theorem foldCase_word (h : (Token.word w).Spelled u) (hw : (Token.word w).isReadable = true) :
    foldCase u = Sql.lowered w := by
  rw [Text.foldCase_of_ascii fun c hc => (toNat_of_isNameChar (h.forall_isNameChar hw c hc)).2]
  cases h with
  | word h => exact h

/-- A readable token is not written as nothing. -/
theorem ne_nil (h : token.Spelled u) (hreadable : token.isReadable = true) : u ≠ [] := by
  cases h with
  | @word w u h =>
    rintro rfl
    obtain ⟨⟨c, v, rfl, -⟩, -⟩ := isReadable_word_iff.mp hreadable
    exact absurd h (List.cons_ne_nil _ _).symm
  | number => exact (isReadable_number_iff.mp hreadable).1
  | literal content => exact List.cons_ne_nil _ _
  | mark => exact ne_nil_of_mem_marks u (of_decide_eq_true hreadable)

/-- A readable token does not end with a blank or a semicolon. -/
theorem getLast_ne (h : token.Spelled u) (hreadable : token.isReadable = true) :
    ∀ c ∈ u.getLast?, isBlank c = false ∧ c ≠ ';' := by
  intro c hc
  have hvisible (hname : isNameChar c = true) : isBlank c = false ∧ c ≠ ';' := by
    have hrange := toNat_of_isNameChar hname
    refine ⟨Text.isBlank_eq_false hrange.1 hrange.2, ?_⟩
    rintro rfl
    cases hname
  cases h with
  | word h =>
    exact hvisible ((Spelled.word h).forall_isNameChar hreadable c (List.mem_of_getLast? hc))
  | number =>
    have hdigit := (isReadable_number_iff.mp hreadable).2 c (List.mem_of_getLast? hc)
    exact hvisible (by simp [isNameChar, hdigit])
  | literal content =>
    rw [← List.cons_append, List.getLast?_concat, Option.mem_def, Option.some_inj] at hc
    subst hc
    decide
  | mark =>
    have hmarks : marks.all (·.all fun c => !isBlank c && c ≠ ';') = true := by decide +kernel
    have hmark := List.all_eq_true.mp hmarks u (of_decide_eq_true hreadable)
    simpa using List.all_eq_true.mp hmark c (List.mem_of_getLast? hc)

end Token.Spelled

namespace Written

/-- Each token stands somewhere in a text that the tokens are written in. -/
theorem exists_spelled (h : Written tokens t) (htoken : token ∈ tokens) :
    ∃ a u b, t = a ++ (u ++ b) ∧ token.Spelled u := by
  induction h with
  | nil => cases htoken
  | @cons head tokens u gap t hspelled hgap hrest ih =>
    rcases List.mem_cons.mp htoken with rfl | htoken
    · exact ⟨[], u, gap ++ t, rfl, hspelled⟩
    · obtain ⟨a, v, b, rfl, hv⟩ := ih htoken
      exact ⟨u ++ gap ++ a, v, b, by simp, hv⟩

theorem ne_nil (h : Written tokens t) (hne : tokens ≠ [])
    (hreadable : ∀ token ∈ tokens, token.isReadable = true) : t ≠ [] := by
  cases h with
  | nil => exact absurd rfl hne
  | cons hspelled =>
    exact List.append_ne_nil_of_left_ne_nil (hspelled.ne_nil (hreadable _ List.mem_cons_self)) _

/-- A text that readable tokens are written in does not end with a blank or a semicolon. -/
theorem getLast_ne (h : Written tokens t) (hreadable : ∀ token ∈ tokens, token.isReadable = true) :
    ∀ c ∈ t.getLast?, isBlank c = false ∧ c ≠ ';' := by
  induction h with
  | nil => simp
  | @cons head tokens u gap t hspelled hgap hrest ih =>
    rw [List.forall_mem_cons] at hreadable
    cases tokens with
    | nil =>
      cases hrest
      rw [hgap.last rfl, List.append_nil, List.append_nil]
      exact hspelled.getLast_ne hreadable.1
    | cons next tokens =>
      have hne := hrest.ne_nil (List.cons_ne_nil next tokens) hreadable.2
      rw [List.getLast?_append_of_ne_nil _ (List.append_ne_nil_of_right_ne_nil _ hne),
        List.getLast?_append_of_ne_nil _ hne]
      exact ih hreadable.2

end Written

/-! ## Words in sentences -/

/-- The word stands in the token, in lower case. -/
def Token.Shows (edge : Char → Prop) (word : Text) : Token → Prop
  | .word w => StandsIn edge word (Sql.lowered w)
  | .literal content => StandsIn edge word ('\'' :: (foldCase content ++ ['\'']))
  | _ => False

/-- Marks have separators only, and no case. -/
theorem isSeparator_of_mem_marks {m : Text} (hm : m ∈ marks) :
    foldCase m = m ∧ ∀ c ∈ m, isSeparator c = true := by
  have hmarks : marks.all (fun m => foldCase m = m && m.all isSeparator) = true := by decide +kernel
  simpa using List.all_eq_true.mp hmarks m hm

/-- Digits are separators, and have no case. -/
theorem isSeparator_of_digits {digits : Text} (hdigits : ∀ c ∈ digits, isDigit c = true) :
    foldCase digits = digits ∧ ∀ c ∈ digits, isSeparator c = true := by
  refine ⟨?_, fun c hc => isSeparator_of_isDigit (hdigits c hc)⟩
  have hdomain : ∀ c ∈ digits, Phrase.isDomain c = true :=
    fun c hc => Phrase.isDomain_of_isDigit (hdigits c hc)
  rw [Text.foldCase_of_ascii fun c hc => (Phrase.toNat_of_isDomain (hdomain c hc)).2,
    List.map_congr_left fun c hc => Phrase.toLower_of_isDomain (hdomain c hc), List.map_id']

/-- What is not a word begins with a separator. -/
theorem Token.Spelled.exists_isSeparator (h : token.Spelled u) (hreadable : token.isReadable = true)
    (hword : token.isWord = false) : ∃ c rest, foldCase u = c :: rest ∧ isSeparator c = true := by
  have hrun (hne : u ≠ []) (hu : foldCase u = u ∧ ∀ c ∈ u, isSeparator c = true) :
      ∃ c rest, foldCase u = c :: rest ∧ isSeparator c = true := by
    obtain ⟨c, rest, rfl⟩ := List.exists_cons_of_ne_nil hne
    exact ⟨c, rest, hu.1, hu.2 c List.mem_cons_self⟩
  cases h with
  | word => cases hword
  | number =>
    obtain ⟨hne, hdigits⟩ := isReadable_number_iff.mp hreadable
    exact hrun hne (isSeparator_of_digits hdigits)
  | literal content => exact ⟨'\'', foldCase (content ++ ['\'']), foldCase_cons _ _, by decide⟩
  | mark =>
    have hmark := of_decide_eq_true hreadable
    exact hrun (ne_nil_of_mem_marks u hmark) (isSeparator_of_mem_marks hmark)

/-- Behind a word its gap, or the token that is written without one, begins with a separator. -/
theorem Token.IsGap.isSeparator_head (hgap : token.IsGap tokens gap) (hword : token.isWord = true)
    (hrest : Written tokens t) (hreadable : ∀ token ∈ tokens, token.isReadable = true) :
    ∀ c ∈ (gap ++ foldCase t).head?, isSeparator c = true := by
  intro c hc
  cases gap with
  | cons d gap =>
    obtain rfl : d = c := by simpa using hc
    exact isSeparator_of_isBlank (hgap.blank d List.mem_cons_self)
  | nil =>
    cases hrest with
    | nil => cases hc
    | @cons next tokens u gap t hspelled _ _ =>
      rw [List.forall_mem_cons] at hreadable
      have hnext : next.isWord = false := by
        rw [← Bool.not_eq_true]
        exact fun hnext => hgap.apart next rfl hword hnext rfl
      obtain ⟨d, rest, hfold, hd⟩ := hspelled.exists_isSeparator hreadable.1 hnext
      rw [List.nil_append, foldCase_append, hfold] at hc
      obtain rfl : d = c := by simpa using hc
      exact hd

theorem toNat_of_mem_spaced (hword : word ∈ unwantedWords) :
    ∀ c ∈ spaced word, c.toNat < 0x80 := by
  simpa [spaced, or_imp, forall_and] using toNat_of_mem_unwantedWords hword

/-- What stands in a token and in what is behind it stands in one of the two. -/
theorem Token.Spelled.shows_or_standsIn {after : Text} (h : token.Spelled u)
    (hreadable : token.isReadable = true) (hword : word ∈ unwantedWords)
    (hafter : token.isWord = true → ∀ c ∈ after.head?, isSeparator c = true)
    (hstands : StandsIn edge word (foldCase u ++ after)) :
    token.Shows edge word ∨ StandsIn edge word after := by
  have hne := ne_nil_of_mem_unwantedWords word hword
  have hlacks {c : Char} (hc : isSeparator c = true) : c ∉ word :=
    notMem_of_isSeparator hc word hword
  -- Digits and marks have separators only.
  have hbehind (hu : foldCase u = u ∧ ∀ c ∈ u, isSeparator c = true) :
      StandsIn edge word after := by
    rw [hu.1] at hstands
    exact hstands.of_append (fun c hc => hlacks (hu.2 c hc)) hne
  cases h with
  | @word w u h =>
    rw [(Spelled.word h).foldCase_word hreadable] at hstands
    cases after with
    | nil =>
      rw [List.append_nil] at hstands
      exact Or.inl hstands
    | cons c after =>
      have hc := hlacks (hafter rfl c rfl)
      rcases hstands.split hc with hstands | hstands
      · exact Or.inl (hstands.of_concat hc hne)
      · exact Or.inr hstands
  | number => exact Or.inr (hbehind (isSeparator_of_digits (isReadable_number_iff.mp hreadable).2))
  | mark => exact Or.inr (hbehind (isSeparator_of_mem_marks (of_decide_eq_true hreadable)))
  | literal content =>
    have hquote : '\'' ∉ word := hlacks (by decide)
    have hsplit : foldCase ('\'' :: (content ++ ['\''])) ++ after =
        ('\'' :: foldCase content) ++ '\'' :: after := by
      rw [foldCase_cons, foldCase_append, List.append_assoc, List.append_assoc]
      rfl
    rw [hsplit] at hstands
    -- What is not in the literal, whose closing quote it lacks, is behind it.
    rcases hstands.split hquote with hstands | hstands
    · exact Or.inl hstands
    · exact Or.inr (hstands.of_cons hquote hne)

/-- What stands in a text stands in one of the tokens that the text is written from. -/
theorem Written.exists_shows (h : Written tokens t)
    (hreadable : ∀ token ∈ tokens, token.isReadable = true) (hword : word ∈ unwantedWords)
    (hstands : StandsIn edge word (foldCase t)) : ∃ token ∈ tokens, token.Shows edge word := by
  have hne := ne_nil_of_mem_unwantedWords word hword
  induction h with
  | nil =>
    obtain ⟨a, b, heq, -, -⟩ := hstands
    simp [hne] at heq
  | @cons token tokens u gap t hspelled hgap hrest ih =>
    rw [List.forall_mem_cons] at hreadable
    rw [foldCase_append, foldCase_append, Text.foldCase_of_isBlank hgap.blank] at hstands
    rcases hspelled.shows_or_standsIn hreadable.1 hword
      (fun htoken => hgap.isSeparator_head htoken hrest hreadable.2) hstands with hshows | hstands
    · exact ⟨token, List.mem_cons_self, hshows⟩
    · -- A word that stands behind the token stands behind its gap.
      have hblank : ∀ c ∈ gap, c ∉ word := fun c hc =>
        notMem_of_isSeparator (isSeparator_of_isBlank (hgap.blank c hc)) word hword
      obtain ⟨other, hother, hshows⟩ := ih hreadable.2 (hstands.of_append hblank hne)
      exact ⟨other, List.mem_cons_of_mem _ hother, hshows⟩

theorem Token.Shows.infix_word (h : (Token.word w).Shows edge word) : word <:+: Sql.lowered w :=
  StandsIn.infix_text h

/-- A word in a literal stands between its quotes. -/
theorem Token.Shows.infix_literal {content : Text} (h : (Token.literal content).Shows edge word)
    (hword : word ∈ unwantedWords) : word <:+: foldCase content := by
  have hne := ne_nil_of_mem_unwantedWords word hword
  have hquote : '\'' ∉ word := notMem_of_isSeparator (by decide) word hword
  exact (StandsIn.of_concat hquote hne (StandsIn.of_cons hquote hne h)).infix_text

/-- A word between blanks in a literal stands between its quotes with the blanks. -/
theorem Token.Shows.infix_spaced {content : Text}
    (h : (Token.literal content).Shows (· = ' ') word) (hword : word ∈ spacedKeywords) :
    spaced word <:+: foldCase content := by
  have hquote : ∀ word ∈ spacedKeywords, '\'' ∉ spaced word ∧ ¬ spaced word <:+: [' '] := by decide
  have hnot := hquote word hword
  have hfound : spaced word <:+: [' '] ++ '\'' :: (foldCase content ++ '\'' :: [' ']) := by
    have h := infix_spaced_iff.mpr h
    simpa [spaced] using h
  -- What is outside of the quotes is a blank, in which the word and its blanks are not.
  rcases (infix_append_cons_iff hnot.1).mp hfound with hfound | hfound
  · exact absurd hfound hnot.2
  · rcases (infix_append_cons_iff hnot.1).mp hfound with hfound | hfound
    · exact hfound
    · exact absurd hfound hnot.2

/-- A word between blanks is no part of another word. -/
theorem Token.Shows.lowered_eq (h : (Token.word w).Shows (· = ' ') word)
    (hw : (Token.word w).isReadable = true) : Sql.lowered w = word := by
  have hblank : ' ' ∉ Sql.lowered w := by
    intro hmem
    obtain ⟨c, hc, hlower⟩ := List.mem_map.mp hmem
    have hname := (isReadable_word_iff.mp hw).2 c hc
    rw [← isNameChar_toLower, hlower] at hname
    cases hname
  obtain ⟨a, b, heq, hbefore, hafter⟩ := h
  rw [heq] at hblank ⊢
  have ha : a = [] := by
    rw [← List.getLast?_eq_none_iff, Option.eq_none_iff_forall_not_mem]
    intro c hc
    refine hblank (List.mem_append_left _ ?_)
    rw [← hbefore c hc]
    exact List.mem_of_getLast? hc
  have hb : b = [] := by
    rw [← List.head?_eq_none_iff, Option.eq_none_iff_forall_not_mem]
    intro c hc
    refine hblank (List.mem_append_right _ (List.mem_append_right _ ?_))
    rw [← hafter c hc]
    exact List.mem_of_head? hc
  rw [ha, hb, List.nil_append, List.append_nil]

/-! ## Trees -/

theorem Identifier.forall_isNameChar (name : Identifier) : ∀ c ∈ name.text, isNameChar c = true :=
  (isReadable_word_iff.mp name.isReadable_token).2

theorem Identifier.lowercase_text (name : Identifier) :
    lowercase name.text = lowered name.text :=
  Text.lowercase_ascii fun c hc => (toNat_of_isNameChar (name.forall_isNameChar c hc)).2

/-- The first word, the word before the table, the table and the tokens of the fixed list have none
of the words that the policy searches for. -/
theorem not_shows_fixed (htoken : token ∈ [Token.word "SELECT", .word "FROM", .word table] ++
    grammarTokens) (hword : word ∈ unwantedWords) : ¬ token.Shows edge word := by
  have hfixed : ([Token.word "SELECT", .word "FROM", .word table] ++ grammarTokens).all (fun token =>
      unwantedWords.all fun word => !token.lowered.mentions word) = true := by decide +kernel
  have hnot := List.all_eq_true.mp (List.all_eq_true.mp hfixed token htoken) word hword
  intro h
  cases token with
  | word w => simp [Token.lowered, Token.mentions, includes_iff_infix.mpr h.infix_word] at hnot
  | literal content => revert htoken; simp [grammarTokens]
  | number => exact h
  | mark => exact h

namespace Query

variable {query : Query}

/-- A word that the policy searches for can only stand in an alias or in a literal of a tree. -/
theorem shows_cases (hword : word ∈ unwantedWords) (htoken : token ∈ query.tokens)
    (h : token.Shows edge word) : (∃ name ∈ query.identifiers, token = name.token) ∨
      ∃ content ∈ query.literals, token = .literal content := by
  have htree (htree : IsTreeToken query.identifiers token) :
      (∃ name ∈ query.identifiers, token = name.token) ∨
        ∃ content ∈ query.literals, token = .literal content := by
    cases htree with
    | fixed hfixed => exact absurd h (not_shows_fixed (List.mem_append_right _ hfixed) hword)
    | number n => exact h.elim
    | literal content => exact Or.inr ⟨content, List.mem_filterMap.mpr ⟨_, htoken, rfl⟩, rfl⟩
    | identifier hname => exact Or.inl ⟨_, hname, rfl⟩
  have hfixed (hmem : token ∈ [Token.word "SELECT", .word "FROM", .word table]) :=
    not_shows_fixed (List.mem_append_left grammarTokens hmem) hword h
  rw [query.tokens_eq, List.mem_append, List.mem_cons, List.mem_cons, List.mem_cons] at htoken
  rcases htoken with (rfl | hselect) | rfl | rfl | hclauses
  · exact absurd (by decide) hfixed
  · exact htree (query.isTreeToken_select token hselect)
  · exact absurd (by decide) hfixed
  · exact absurd (by decide) hfixed
  · exact htree (query.isTreeToken_clauses token hclauses)

namespace IsClean

/-- No token of a clean tree has a forbidden keyword or a semicolon. -/
theorem not_shows (hclean : query.IsClean) (hword : word = ";" ∨ word ∈ forbiddenKeywords) :
    ∀ token ∈ query.tokens, ¬ token.Shows edge word := by
  intro token htoken h
  have hunwanted : word ∈ unwantedWords :=
    List.mem_append_left spacedKeywords (List.mem_cons.mpr hword)
  rcases shows_cases hunwanted htoken h with ⟨name, hname, rfl⟩ | ⟨content, hcontent, rfl⟩
  · have hfound : word <:+: lowered name.text := h.infix_word
    rcases hword with rfl | hword
    · -- A semicolon is no character of a name, in whatever case.
      obtain ⟨c, hc, hlower⟩ := List.mem_map.mp (hfound.subset List.mem_cons_self)
      have hnamed := name.forall_isNameChar c hc
      rw [← isNameChar_toLower, hlower] at hnamed
      cases hnamed
    · have hnot := hclean.name_forbidden name hname word hword
      rw [name.lowercase_text] at hnot
      exact includes_eq_false_iff.mp hnot hfound
  · have hfound := h.infix_literal hunwanted
    have hnot : includes (lowercase content) word = false := by
      rcases hword with rfl | hword
      · exact hclean.literal_semicolon content hcontent
      · exact hclean.literal_forbidden content hcontent word hword
    exact (includes_lowercase_eq_false_iff (toNat_of_mem_unwantedWords hunwanted)).mp hnot hfound

/-- No token of a clean tree has a keyword of those that are refused between blanks. -/
theorem not_shows_spaced (hclean : query.IsClean) (hword : word ∈ spacedKeywords) :
    ∀ token ∈ query.tokens, ¬ token.Shows (· = ' ') word := by
  intro token htoken h
  have hunwanted := Policy.mem_unwantedWords_of_mem_spaced hword
  rcases shows_cases hunwanted htoken h with ⟨name, hname, rfl⟩ | ⟨content, hcontent, rfl⟩
  · have hequal := Token.Shows.lowered_eq h name.isReadable_token
    rw [← name.lowercase_text] at hequal
    exact hclean.name_spaced name hname (hequal ▸ hword)
  · have hnot := hclean.literal_spaced content hcontent word hword
    rw [includes_lowercase_eq_false_iff (toNat_of_mem_spaced hunwanted)] at hnot
    exact hnot (h.infix_spaced hword)

end IsClean

end Query

/-! ## Sentences -/

/-- A text without outer blanks and without semicolons at its end is clean. -/
theorem Policy.clean_eq_self (hhead : ∀ c ∈ t.head?, isBlank c = false)
    (hlast : ∀ c ∈ t.getLast?, isBlank c = false ∧ c ≠ ';') : clean t = t := by
  have hblank : ∀ c ∈ t.getLast?, isBlank c = false := fun c hc => (hlast c hc).1
  rw [clean, Text.trim_eq_self hhead hblank,
    Text.dropEnd_eq_self fun c hc => decide_eq_false (hlast c hc).2, Text.trimEnd_eq_self hblank]

namespace Query

variable {query : Query}

theorem forall_isReadable (query : Query) : ∀ token ∈ query.tokens, token.isReadable = true :=
  List.all_eq_true.mp query.isReadable

namespace Sentence

theorem written (h : query.Sentence t) : Written query.tokens t := by
  cases h with
  | @intro select gap t hselect hgap hrest =>
    have hfirst : (Token.word "SELECT").IsGap query.tokens.tail (' ' :: gap) := by
      refine ⟨?_, fun _ _ _ _ => List.cons_ne_nil _ _, by simp [tokens]⟩
      rw [List.forall_mem_cons]
      exact ⟨by decide, hgap⟩
    exact .cons hselect hfirst hrest

theorem getLast_ne (h : query.Sentence t) : ∀ c ∈ t.getLast?, isBlank c = false ∧ c ≠ ';' :=
  h.written.getLast_ne query.forall_isReadable

theorem isBlank_head (h : query.Sentence t) : ∀ c ∈ t.head?, isBlank c = false := by
  intro c hc
  cases h with
  | @intro select gap t hselect hgap hrest =>
    rw [List.head?_append_of_ne_nil _ (hselect.ne_nil (by decide))] at hc
    have hname := hselect.forall_isNameChar (by decide) c (List.mem_of_head? hc)
    exact Text.isBlank_eq_false (toNat_of_isNameChar hname).1 (toNat_of_isNameChar hname).2

/-- Cleaning leaves a sentence as it is. -/
theorem clean_eq (h : query.Sentence t) : Policy.clean t = t :=
  Policy.clean_eq_self h.isBlank_head h.getLast_ne

theorem beginsWith_select (h : query.Sentence t) :
    Text.beginsWith (lowercase t) "select " = true := by
  cases h with
  | @intro select gap t hselect hgap hrest =>
    have hascii : ∀ c ∈ select ++ [' '], c.toNat < 0x80 := by
      rw [List.forall_mem_append, List.forall_mem_singleton]
      refine ⟨fun c hc => ?_, by decide⟩
      exact (toNat_of_isNameChar (hselect.forall_isNameChar (by decide) c hc)).2
    have hopening : lowered (select ++ [' ']) = "select " := by
      cases hselect with
      | word h => rw [lowered, List.map_append, ← lowered, h]; decide
    have hsplit : select ++ ' ' :: (gap ++ t) = (select ++ [' ']) ++ (gap ++ t) := by simp
    rw [hsplit, Text.lowercase_append_of_ascii hascii, ← lowered, hopening]
    exact Text.beginsWith_iff.mpr ⟨_, rfl⟩

theorem includes_tableIdent (h : query.Sentence t) :
    includes (lowercase t) tableIdent = true := by
  have htable : Token.word table ∈ query.tokens := by simp [query.tokens_eq]
  obtain ⟨a, u, b, rfl, hu⟩ := h.written.exists_spelled htable
  have hfound : tableIdent <:+: foldCase (a ++ (u ++ b)) := by
    have hident : tableIdent <:+: lowered table :=
      includes_iff_infix.mp (by decide +kernel)
    rw [foldCase_append, foldCase_append, hu.foldCase_word (query.forall_isReadable _ htable)]
    exact List.infix_append_of_infix_right (List.infix_append_of_infix_left hident)
  by_contra hnot
  have hascii : ∀ c ∈ tableIdent, c.toNat < 0x80 :=
    fun c hc => (toNat_of_isNameChar (isName_tableIdent.chars c hc)).2
  rw [Bool.not_eq_true, includes_lowercase_eq_false_iff hascii] at hnot
  exact hnot hfound

end Sentence

end Query

/-- A sentence is accepted as it is, if no alias and no literal has what the policy searches for. -/
theorem sanitize_sentence {query : Query} (h : query.Sentence t) (hclean : query.IsClean) :
    Policy.strict.sanitize t = .ok ⟨t⟩ := by
  have hnone {word : Text} (hword : word = ";" ∨ word ∈ forbiddenKeywords) :
      includes (lowercase t) word = false := by
    have hunwanted : word ∈ unwantedWords :=
      List.mem_append_left spacedKeywords (List.mem_cons.mpr hword)
    rw [includes_lowercase_eq_false_iff (toNat_of_mem_unwantedWords hunwanted)]
    intro hfound
    obtain ⟨token, htoken, hshows⟩ := h.written.exists_shows query.forall_isReadable hunwanted
      (standsIn_true_iff.mpr hfound)
    exact hclean.not_shows hword token htoken hshows
  have hspaced : ∀ word ∈ spacedKeywords,
      includes (spaced (lowercase t)) (spaced word) = false := by
    intro word hword
    have hunwanted := Policy.mem_unwantedWords_of_mem_spaced hword
    rw [includes_eq_false_iff]
    intro hfound
    have hfold : spaced word <:+: spaced (foldCase t) :=
      (infix_lowercase_iff (toNat_of_mem_spaced hunwanted) [' '] t [' ']).mp hfound
    obtain ⟨token, htoken, hshows⟩ := h.written.exists_shows query.forall_isReadable hunwanted
      (infix_spaced_iff.mp hfold)
    exact hclean.not_shows_spaced hword token htoken hshows
  have hcheck : Policy.strict.check t = .ok () := by
    rw [Policy.check, Text.trim_eq_self h.isBlank_head fun c hc => (h.getLast_ne c hc).1,
      Policy.checkLowered_eq_ok_iff]
    exact ⟨h.beginsWith_select, hnone (.inl rfl), h.includes_tableIdent,
      fun word hword => hnone (.inr hword), hspaced⟩
  rw [Policy.sanitize, h.clean_eq, hcheck]
  rfl

/-- A sentence in mixed case, with a word in its literal that the policy only refuses between
blanks. -/
theorem sanitize_sentence_mixed : ∃ query : Query,
    query.Sentence "select Id from\tDefault.mock_data Where email ILIKE'%Updated ΟΔΟΣ'" ∧
      query.IsClean ∧
      Policy.strict.sanitize "select Id from\tDefault.mock_data Where email ILIKE'%Updated ΟΔΟΣ'" =
        .ok ⟨"select Id from\tDefault.mock_data Where email ILIKE'%Updated ΟΔΟΣ'"⟩ := by
  let query : Query := ⟨.items ⟨.column .id, none⟩ [],
    some ⟨.like .email "%Updated ΟΔΟΣ", []⟩, none, none, none⟩
  have hpieces : "select Id from\tDefault.mock_data Where email ILIKE'%Updated ΟΔΟΣ'".toList =
      "select".toList ++ ' ' :: ([] ++ ("Id".toList ++ (" ".toList ++ ("from".toList ++
        ("\t".toList ++ ("Default.mock_data".toList ++ (" ".toList ++ ("Where".toList ++
          (" ".toList ++ ("email".toList ++ (" ".toList ++ ("ILIKE".toList ++ ([] ++
            (('\'' :: ("%Updated ΟΔΟΣ".toList ++ ['\''])) ++ ([] ++ []))))))))))))))) := by
    simp
  have hsentence :
      query.Sentence "select Id from\tDefault.mock_data Where email ILIKE'%Updated ΟΔΟΣ'" := by
    rw [hpieces]
    refine .intro (.word (by decide)) (by simp) ?_
    refine .cons (.word (by decide)) (by decide +kernel) ?_
    refine .cons (.word (by decide)) (by decide +kernel) ?_
    refine .cons (.word (by decide)) (by decide +kernel) ?_
    refine .cons (.word (by decide)) (by decide +kernel) ?_
    refine .cons (.word (by decide)) (by decide +kernel) ?_
    refine .cons (.word (by decide)) (by decide +kernel) ?_
    exact .cons (.literal _) (by decide +kernel) .nil
  have hclean : query.IsClean := by decide +kernel
  exact ⟨query, hsentence, hclean, sanitize_sentence hsentence hclean⟩

end AskTable.Sql
