import AskTable.Text.Blank
import Mathlib.Data.List.Infix
/-!
# Searching in composed texts

A text is found in a composed text by finding it in the parts, if what stands between the parts
does not occur in it. Outer blanks are removed from a text only if it has some.

## Main definitions

* `Text.IsFrame` - fixed texts around a text that a search never runs into
* `Text.StandsIn` - a word stands in a text, with edges of a given kind on both sides of it

## Main results

* `Text.includes_append_cons` - a search on both sides of a character
* `Text.includes_append_separators` - a search on both sides of a run of characters
* `Text.IsFrame.includes_eq` - a search inside of a frame
* `Text.isFrame_of_ends` - a frame that lacks only the ends of a word
* `Text.StandsIn.split` - a word stands on one side of a character that it lacks
* `Text.words_append_cons` - the first word of a text
* `Text.trim_eq_self` - a text without outer blanks stays as it is
-/

namespace AskTable.Text

variable {a b t word : Text} {c : Char}

theorem includes_iff_infix : includes t word = true ↔ word <:+: t := by
  rw [includes_iff]
  constructor
  · rintro ⟨before, rest, rfl⟩
    exact List.infix_append' before word rest
  · rintro ⟨before, rest, h⟩
    exact ⟨before, rest, by rw [← h, List.append_assoc]⟩

theorem includes_eq_false_iff : includes t word = false ↔ ¬ word <:+: t := by
  rw [← includes_iff_infix, Bool.not_eq_true]

theorem includes_nil (t : Text) : includes t [] = true :=
  includes_iff_infix.mpr List.nil_infix

theorem includes_of_infix {part : Text} (h : part <:+: word) (hword : includes t word = true) :
    includes t part = true := by
  have hstands : word <:+: t := includes_iff_infix.mp hword
  exact includes_iff_infix.mpr (h.trans hstands)

theorem includesAny_of_mem {words : List Text} (hmem : word ∈ words) (h : includes t word = true) :
    includesAny t words = true :=
  List.any_eq_true.mpr ⟨word, hmem, h⟩

theorem includesAny_eq_false_of_subset {words words' : List Text} (hsub : words ⊆ words')
    (h : includesAny t words' = false) : includesAny t words = false := by
  rw [includesAny, List.any_eq_false] at h ⊢
  exact fun word hword => h word (hsub hword)

/-- A text that lacks a character is found on one side of it. -/
theorem infix_append_cons_iff (hc : c ∉ word) :
    word <:+: a ++ c :: b ↔ word <:+: a ∨ word <:+: b := by
  -- A beginning of the text from that character on has the character, unless it is empty.
  have hempty {start : Text} (hs : start <+: c :: b) (hsub : start ⊆ word) : start = [] := by
    rcases List.prefix_cons_iff.mp hs with rfl | ⟨rest, rfl, -⟩
    · rfl
    · exact absurd (hsub List.mem_cons_self) hc
  constructor
  · intro h
    rcases List.infix_append_iff.mp h with ha | hb | ⟨left, right, rfl, hleft, hright⟩
    · exact Or.inl ha
    · rcases List.infix_cons_iff.mp hb with hstart | hb
      · rw [hempty hstart (List.Subset.refl word)]
        exact Or.inl List.nil_infix
      · exact Or.inr hb
    · -- A text across the place of the character would have the character.
      rw [hempty hright (List.subset_append_right left right), List.append_nil]
      exact Or.inl hleft.isInfix
  · rintro (h | h)
    · exact List.infix_append_of_infix_left h
    · exact List.infix_append_of_infix_right (h.trans (List.suffix_cons c b).isInfix)

theorem includes_append_cons (hc : c ∉ word) :
    includes (a ++ c :: b) word = (includes a word || includes b word) := by
  rw [Bool.eq_iff_iff, Bool.or_eq_true, includes_iff_infix, includes_iff_infix,
    includes_iff_infix, infix_append_cons_iff hc]

/-- A text is found on one side of a run of characters that it lacks. -/
theorem includes_append_separators {run : Text} (hne : run ≠ []) (hrun : ∀ c ∈ run, c ∉ word) :
    includes (a ++ run ++ b) word = (includes a word || includes b word) := by
  induction run generalizing a with
  | nil => exact absurd rfl hne
  | cons c run ih =>
    have hc : c ∉ word := hrun c List.mem_cons_self
    cases run with
    | nil => rw [List.append_assoc, List.singleton_append, includes_append_cons hc]
    | cons d run =>
      have htail := ih (List.cons_ne_nil d run) (a := a ++ [c])
        fun e he => hrun e (List.mem_cons_of_mem c he)
      calc includes (a ++ c :: d :: run ++ b) word
        _ = includes (a ++ [c] ++ d :: run ++ b) word := by simp
        _ = (includes (a ++ [c]) word || includes b word) := htail
        _ = (includes a word || includes [] word || includes b word) := by
          rw [includes_append_cons hc]
        _ = (includes a word || includes b word) := by
          cases word with
          | nil => simp [includes_nil]
          | cons w word => simp [includes]

/-- What is looked for is not in a run of characters that it lacks. -/
theorem includes_separators {run : Text} (hword : word ≠ []) (hrun : ∀ c ∈ run, c ∉ word) :
    includes run word = false := by
  refine includes_eq_false_iff.mpr fun h => ?_
  obtain ⟨c, hc⟩ := List.exists_mem_of_ne_nil word hword
  exact hrun c (h.subset hc) hc

/-- Runs of characters that a text lacks, at both ends, do not matter for finding it. -/
theorem includes_between_separators {left right : Text} (hword : word ≠ [])
    (hleft : ∀ c ∈ left, c ∉ word) (hright : ∀ c ∈ right, c ∉ word) :
    includes (left ++ t ++ right) word = includes t word := by
  have hr : includes (left ++ t ++ right) word = includes (left ++ t) word := by
    cases right with
    | nil => rw [List.append_nil]
    | cons c right =>
      rw [includes_append_cons (hright c List.mem_cons_self),
        includes_separators hword fun d hd => hright d (List.mem_cons_of_mem c hd), Bool.or_false]
  rw [hr]
  cases left with
  | nil => rfl
  | cons c left =>
    have h := includes_append_separators (a := []) (b := t) (List.cons_ne_nil c left) hleft
    rw [List.nil_append] at h
    rw [h, includes_separators hword (by simp), Bool.false_or]

/-! ## Fixed texts around a text -/

/-- Fixed texts around a text that a search never runs into: the word is in neither of them, it does
not begin with an end of the first one, and it does not end with a beginning of the second one. -/
structure IsFrame (before after word : Text) : Prop where
  before_lacks : ¬ word <:+: before
  opening : ∀ left ∈ before.tails, left <+: word → left = []
  after_lacks : ¬ word <:+: after
  closing : ∀ right ∈ after.inits, right <:+ word → right = []

instance (before after word : Text) : Decidable (IsFrame before after word) :=
  decidable_of_iff (¬ word <:+: before ∧ (∀ left ∈ before.tails, left <+: word → left = []) ∧
      ¬ word <:+: after ∧ ∀ right ∈ after.inits, right <:+ word → right = [])
    ⟨fun h => ⟨h.1, h.2.1, h.2.2.1, h.2.2.2⟩,
      fun h => ⟨h.before_lacks, h.opening, h.after_lacks, h.closing⟩⟩

/-- What is looked for inside of a frame is found in what the frame holds. -/
theorem IsFrame.includes_eq {before after : Text} (h : IsFrame before after word) (t : Text) :
    includes (before ++ t ++ after) word = includes t word := by
  rw [Bool.eq_iff_iff, includes_iff_infix, includes_iff_infix]
  constructor
  · intro hfound
    -- A part of the word that lies across an edge of the frame is empty.
    have hinner : word <:+: before ++ t := by
      rcases List.infix_append_iff.mp hfound with
        hinner | hafter | ⟨left, right, rfl, hleft, hright⟩
      · exact hinner
      · exact absurd hafter h.after_lacks
      · rw [h.closing right ((List.mem_inits _ _).mpr hright) (List.suffix_append left right),
          List.append_nil]
        exact hleft.isInfix
    rcases List.infix_append_iff.mp hinner with hbefore | ht | ⟨left, right, rfl, hleft, hright⟩
    · exact absurd hbefore h.before_lacks
    · exact ht
    · rw [h.opening left ((List.mem_tails _ _).mpr hleft) (List.prefix_append left right),
        List.nil_append]
      exact hright.isInfix
  · intro hfound
    exact hfound.trans (List.infix_append before t after)

/-- Texts without the first and the last character of a word are a frame for it. The word may have
characters of theirs in its middle. -/
theorem isFrame_of_ends {before after : Text} (hword : word ≠ [])
    (hhead : ∀ c ∈ word.head?, c ∉ before) (hlast : ∀ c ∈ word.getLast?, c ∉ after) :
    IsFrame before after word where
  before_lacks h :=
    hhead _ (List.head?_eq_some_head hword) (h.subset (List.head_mem hword))
  opening left hleft hprefix := by
    cases left with
    | nil => rfl
    | cons c left =>
      obtain ⟨rest, rfl⟩ := hprefix
      have hmem := ((List.mem_tails _ _).mp hleft).subset List.mem_cons_self
      exact absurd hmem (hhead c rfl)
  after_lacks h :=
    hlast _ (List.getLast?_eq_some_getLast hword) (h.subset (List.getLast_mem hword))
  closing right hright hsuffix := by
    rcases List.eq_nil_or_concat' right with rfl | ⟨right, c, rfl⟩
    · rfl
    · obtain ⟨rest, rfl⟩ := hsuffix
      have hmem := ((List.mem_inits _ _).mp hright).subset
        (List.mem_append_right right (List.mem_singleton_self c))
      exact absurd hmem (hlast c (by simp))

/-! ## Words at edges -/

/-- The word stands in the text, and on both sides of it the text ends or goes on with an edge. -/
def StandsIn (edge : Char → Prop) (word t : Text) : Prop :=
  ∃ a b, t = a ++ (word ++ b) ∧ (∀ c ∈ a.getLast?, edge c) ∧ ∀ c ∈ b.head?, edge c

theorem StandsIn.infix_text {edge : Char → Prop} (h : StandsIn edge word t) : word <:+: t := by
  obtain ⟨a, b, rfl, -, -⟩ := h
  exact List.infix_append' a word b

theorem standsIn_true_iff : StandsIn (fun _ => True) word t ↔ word <:+: t := by
  refine ⟨StandsIn.infix_text, ?_⟩
  rintro ⟨a, b, rfl⟩
  exact ⟨a, b, List.append_assoc a word b, fun _ _ => trivial, fun _ _ => trivial⟩

/-- A character that a word lacks stands before the word or behind it. -/
theorem eq_append_of_append_cons_eq {x y : Text} (hc : c ∉ word)
    (h : x ++ c :: y = a ++ (word ++ b)) :
    (∃ rest, b = rest ++ c :: y ∧ x = a ++ (word ++ rest)) ∨
      ∃ rest, a = x ++ c :: rest ∧ y = rest ++ (word ++ b) := by
  rcases List.append_eq_append_iff.mp h with ⟨rest, rfl, hy⟩ | ⟨rest, rfl, hb⟩
  · -- The part before the word has the character, or else the word begins with it.
    cases rest with
    | nil =>
      cases word with
      | nil => exact Or.inl ⟨[], hy.symm, by simp⟩
      | cons d word =>
        obtain ⟨rfl, -⟩ := List.cons.inj hy
        exact absurd List.mem_cons_self hc
    | cons d rest =>
      obtain ⟨rfl, rfl⟩ := List.cons.inj hy
      exact Or.inr ⟨rest, rfl, rfl⟩
  · rcases List.append_eq_append_iff.mp hb with ⟨inner, rfl, rfl⟩ | ⟨inner, rfl, hy⟩
    · exact Or.inl ⟨inner, rfl, rfl⟩
    · cases inner with
      | nil => exact Or.inl ⟨[], hy.symm, by simp⟩
      | cons d inner =>
        obtain ⟨rfl, -⟩ := List.cons.inj hy
        exact absurd (List.mem_append_right rest List.mem_cons_self) hc

namespace StandsIn

variable {edge : Char → Prop}

/-- A word stands on one side of a character that it lacks, which stays on both sides. -/
theorem split (hc : c ∉ word) (h : StandsIn edge word (a ++ c :: b)) :
    StandsIn edge word (a ++ [c]) ∨ StandsIn edge word (c :: b) := by
  obtain ⟨before, after, heq, hbefore, hafter⟩ := h
  rcases eq_append_of_append_cons_eq hc heq with ⟨rest, rfl, rfl⟩ | ⟨rest, rfl, rfl⟩
  · refine Or.inl ⟨before, rest ++ [c], by simp, hbefore, ?_⟩
    cases rest with
    | nil => exact hafter
    | cons d rest => exact hafter
  · refine Or.inr ⟨c :: rest, after, rfl, ?_, hafter⟩
    rwa [List.getLast?_append_of_ne_nil _ (List.cons_ne_nil c rest)] at hbefore

/-- A character in front of a text does not matter for a word that lacks it. -/
theorem of_cons (hc : c ∉ word) (hne : word ≠ []) (h : StandsIn edge word (c :: b)) :
    StandsIn edge word b := by
  obtain ⟨before, after, heq, hbefore, hafter⟩ := h
  rcases eq_append_of_append_cons_eq (x := []) hc heq with ⟨rest, -, hnil⟩ | ⟨rest, rfl, rfl⟩
  · simp [hne] at hnil
  · refine ⟨rest, after, rfl, fun d hd => hbefore d ?_, hafter⟩
    rw [List.nil_append, List.getLast?_cons, Option.mem_def.mp hd]
    rfl

/-- A character behind a text does not matter for a word that lacks it. -/
theorem of_concat (hc : c ∉ word) (hne : word ≠ []) (h : StandsIn edge word (a ++ [c])) :
    StandsIn edge word a := by
  obtain ⟨before, after, heq, hbefore, hafter⟩ := h
  rcases eq_append_of_append_cons_eq hc heq with ⟨rest, rfl, rfl⟩ | ⟨rest, -, hnil⟩
  · refine ⟨before, rest, rfl, hbefore, fun d hd => hafter d ?_⟩
    rw [List.head?_append, Option.mem_def.mp hd]
    rfl
  · simp [hne] at hnil

/-- A run of characters that a word lacks, in front of a text, does not matter. -/
theorem of_append {run : Text} (hrun : ∀ c ∈ run, c ∉ word) (hne : word ≠ [])
    (h : StandsIn edge word (run ++ b)) : StandsIn edge word b := by
  induction run with
  | nil => exact h
  | cons c run ih =>
    rw [List.forall_mem_cons] at hrun
    exact ih hrun.2 (of_cons hrun.1 hne h)

end StandsIn

/-! ## Cutting at a mark -/

theorem cutAt?_eq_none {mark : Char} (h : mark ∉ t) : cutAt? mark t = none := by
  induction t with
  | nil => rfl
  | cons c t ih =>
    obtain ⟨hc, ht⟩ := not_or.mp (mt List.mem_cons.mpr h)
    rw [cutAt?, if_neg (Ne.symm hc), ih ht, Option.map_none]

/-- A text is cut at a mark that does not stand before. -/
theorem cutAt?_append_cons {mark : Char} (h : mark ∉ a) (b : Text) :
    cutAt? mark (a ++ mark :: b) = some (a, b) := by
  induction a with
  | nil => rw [List.nil_append, cutAt?, if_pos rfl]
  | cons c a ih =>
    obtain ⟨hc, ha⟩ := not_or.mp (mt List.mem_cons.mpr h)
    rw [List.cons_append, cutAt?, if_neg (Ne.symm hc), ih ha, Option.map_some]

/-! ## Words -/

/-- A text that begins with a word has it as the first of its words. -/
theorem words_append_cons (hne : word ≠ []) (hword : ∀ c ∈ word, isBlank c = false) :
    words (word ++ ' ' :: t) = word :: words t := by
  have hblank : isBlank ' ' = true := by decide
  rw [words, List.splitOnP_append_cons_of_forall_mem hword ' ' hblank, List.filter_cons_of_pos]
  · rfl
  · simpa using hne

/-! ## Outer blanks -/

theorem dropWhile_eq_self {p : Char → Bool} (h : ∀ c ∈ t.head?, p c = false) :
    t.dropWhile p = t := by
  cases t with
  | nil => rfl
  | cons c t => exact List.dropWhile_cons_of_neg (by simp [h c rfl])

/-- A run of characters of a class ends where another character comes, and nowhere else. -/
theorem span_append {p : Char → Bool} {rest : Text} (hword : ∀ c ∈ word, p c = true)
    (hrest : ∀ c ∈ rest.head?, p c = false) :
    (word ++ rest).takeWhile p = word ∧ (word ++ rest).dropWhile p = rest := by
  have hstop : rest.takeWhile p = [] := by
    cases rest with
    | nil => rfl
    | cons c rest => exact List.takeWhile_cons_of_neg (by simp [hrest c rfl])
  constructor
  · rw [List.takeWhile_append_of_pos hword, hstop, List.append_nil]
  · rw [List.dropWhile_append_of_pos hword, dropWhile_eq_self hrest]

theorem head?_dropWhile (p : Char → Bool) (t : Text) : ∀ c ∈ (t.dropWhile p).head?, p c = false := by
  intro c hc
  have hnot := List.head?_dropWhile_not p t
  rwa [Option.mem_def.mp hc] at hnot

/-- What is taken away at the end of a text does not reach past a character that stays. -/
theorem dropEnd_append {p : Char → Bool} (h : ∀ c ∈ a.getLast?, p c = false) :
    dropEnd p (a ++ b) = a ++ dropEnd p b := by
  have hstay : a.reverse.dropWhile p = a.reverse :=
    dropWhile_eq_self (by rwa [List.head?_reverse])
  rw [dropEnd, dropEnd, List.reverse_append, List.dropWhile_append, hstay]
  split
  · rename_i hempty
    rw [List.isEmpty_iff.mp hempty, List.reverse_reverse, List.reverse_nil, List.append_nil]
  · rw [List.reverse_append, List.reverse_reverse]

theorem dropEnd_eq_self {p : Char → Bool} (h : ∀ c ∈ t.getLast?, p c = false) :
    dropEnd p t = t := by
  rw [dropEnd, dropWhile_eq_self, List.reverse_reverse]
  rwa [List.head?_reverse]

theorem trimEnd_eq_self (h : ∀ c ∈ t.getLast?, isBlank c = false) : trimEnd t = t :=
  dropEnd_eq_self h

theorem isBlank_eq_false_of_all (h : t.all (!isBlank ·) = true) : ∀ c ∈ t, isBlank c = false := by
  intro c hc
  simpa using List.all_eq_true.mp h c hc

theorem isBlank_getLast_of_all (h : (t.getLast?.all fun c => !isBlank c) = true) :
    ∀ c ∈ t.getLast?, isBlank c = false := by
  intro c hc
  rw [Option.mem_def.mp hc] at h
  simpa using h

/-- A text without outer blanks stays as it is. -/
theorem trim_eq_self (hhead : ∀ c ∈ t.head?, isBlank c = false)
    (hlast : ∀ c ∈ t.getLast?, isBlank c = false) : trim t = t := by
  rw [trim, trimStart, dropWhile_eq_self hhead, trimEnd_eq_self hlast]

/-- Only blanks are taken away from a text. -/
theorem exists_eq_trim (t : Text) : ∃ a b, t = a ++ trim t ++ b ∧
    (∀ c ∈ a, isBlank c = true) ∧ ∀ c ∈ b, isBlank c = true := by
  have hblank (u : Text) : ∀ c ∈ u.takeWhile isBlank, isBlank c = true :=
    List.all_eq_true.mp List.all_takeWhile
  have hend : trimStart t = trim t ++ ((trimStart t).reverse.takeWhile isBlank).reverse := by
    rw [trim, trimEnd, dropEnd, ← List.reverse_append, List.takeWhile_append_dropWhile,
      List.reverse_reverse]
  refine ⟨t.takeWhile isBlank, ((trimStart t).reverse.takeWhile isBlank).reverse, ?_, hblank t, ?_⟩
  · rw [List.append_assoc, ← hend]
    exact List.takeWhile_append_dropWhile.symm
  · intro c hc
    exact hblank _ c (List.mem_reverse.mp hc)

/-- A word without blanks is not among those that are taken away. -/
theorem infix_trim_iff (hne : word ≠ []) (hword : ∀ c ∈ word, isBlank c = false) :
    word <:+: trim t ↔ word <:+: t := by
  obtain ⟨a, b, ht, ha, hb⟩ := exists_eq_trim t
  have hlacks {u : Text} (hu : ∀ c ∈ u, isBlank c = true) : ∀ c ∈ u, c ∉ word := by
    intro c hc hmem
    have hblank := hu c hc
    rw [hword c hmem] at hblank
    cases hblank
  have hsearch := includes_between_separators (t := trim t) hne (hlacks ha) (hlacks hb)
  rw [← ht] at hsearch
  rw [← includes_iff_infix, ← includes_iff_infix, hsearch]

end AskTable.Text
