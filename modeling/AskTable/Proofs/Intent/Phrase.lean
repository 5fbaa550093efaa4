import AskTable.Proofs.Intent.Capture
import AskTable.Proofs.Text.Ascii
import AskTable.Proofs.Text.Search
/-!
# Where phrases stand

The readers of phrases are told apart from what they read: a phrase is a text of a certain form, and
the reader gives what the phrase says exactly for texts that begin with it. A search then gives what
is said at the first place of the text where a phrase stands.

## Main definitions

* `Phrase.Occurs`, `Phrase.StandsFirst` - a phrase occurs in a text, and what the first one says
* `Phrase.IsGap`, `Phrase.IsNumeral` - blanks between two words, and one to three digits
* `Phrase.Counts` - a word, a number and another word
* `Phrase.SaysWindow`, `Phrase.SaysRowLimit` - the two phrases with numbers

## Main results

* `Phrase.leftmost?_eq_some_iff` - a search finds what stands first
* `Phrase.amount?_eq_some_iff` - a number is read between its gaps
* `Phrase.timeWindow?_eq_some_iff`, `Phrase.rowLimit?_eq_some_iff` - the phrases with numbers
-/

namespace AskTable.Phrase

open Text (after? after?_eq_some_iff isBlank)

variable {α : Type} {p : Char → Bool} {t rest word digits gap : Text}

/-! ## The first of several phrases -/

/-- Of all places of the text where something stands, `a` stands at the first. -/
def StandsFirst (stands : Text → α → Prop) (t : Text) (a : α) : Prop :=
  ∃ before rest, t = before ++ rest ∧ stands rest a ∧
    ∀ before' rest' b, t = before' ++ rest' → stands rest' b → before.length ≤ before'.length

/-- A search finds what stands first. -/
theorem leftmost?_eq_some_iff {phrase : Text → Option α} {stands : Text → α → Prop} {a : α}
    (h : ∀ t a, phrase t = some a ↔ stands t a) :
    leftmost? phrase t = some a ↔ StandsFirst stands t a := by
  induction t with
  | nil =>
    rw [leftmost?, h]
    constructor
    · intro ha
      exact ⟨[], [], rfl, ha, fun _ _ _ _ _ => Nat.zero_le _⟩
    · rintro ⟨before, rest, ht, ha, -⟩
      obtain ⟨-, rfl⟩ := List.nil_eq_append_iff.mp ht
      exact ha
  | cons c t ih =>
    rw [leftmost?]
    cases hp : phrase (c :: t) with
    | some b =>
      -- Something stands at the very beginning, and nothing stands before it.
      have hb : stands (c :: t) b := (h _ _).mp hp
      constructor
      · intro ha
        obtain rfl := Option.some.inj ha
        exact ⟨[], c :: t, rfl, hb, fun _ _ _ _ _ => Nat.zero_le _⟩
      · rintro ⟨before, rest, ht, ha, hfirst⟩
        have hlen := hfirst [] (c :: t) b rfl hb
        obtain rfl : before = [] := List.length_eq_zero_iff.mp (Nat.le_zero.mp hlen)
        obtain rfl : c :: t = rest := ht
        exact hp.symm.trans ((h _ _).mpr ha)
    | none =>
      have hnone : ∀ b, ¬ stands (c :: t) b := by
        intro b hb
        rw [(h _ _).mpr hb] at hp
        cases hp
      refine ih.trans ?_
      constructor
      · rintro ⟨before, rest, rfl, ha, hfirst⟩
        refine ⟨c :: before, rest, rfl, ha, fun before' rest' b ht hb => ?_⟩
        cases before' with
        | nil =>
          obtain rfl : c :: (before ++ rest) = rest' := ht
          exact absurd hb (hnone b)
        | cons d before' =>
          exact Nat.succ_le_succ (hfirst before' rest' b (List.cons.inj ht).2 hb)
      · rintro ⟨before, rest, ht, ha, hfirst⟩
        cases before with
        | nil =>
          obtain rfl : c :: t = rest := ht
          exact absurd ha (hnone a)
        | cons d before =>
          obtain ⟨rfl, rfl⟩ := List.cons.inj ht
          refine ⟨before, rest, rfl, ha, fun before' rest' b ht' hb => ?_⟩
          exact Nat.le_of_succ_le_succ
            (hfirst (c :: before') rest' b (congrArg (c :: ·) ht') hb)

/-- Something stands at some place of the text. -/
def Occurs (stands : Text → α → Prop) (t : Text) : Prop :=
  ∃ before rest a, t = before ++ rest ∧ stands rest a

theorem leftmost?_eq_none_iff_not_occurs {phrase : Text → Option α} {stands : Text → α → Prop}
    (h : ∀ t a, phrase t = some a ↔ stands t a) :
    leftmost? phrase t = none ↔ ¬ Occurs stands t := by
  rw [leftmost?_eq_none_iff]
  constructor
  · rintro hnone ⟨before, rest, a, ht, ha⟩
    rw [← h, hnone before rest ht] at ha
    cases ha
  · intro hnot before rest ht
    exact Option.eq_none_iff_forall_ne_some.mpr fun a ha =>
      hnot ⟨before, rest, a, ht, (h rest a).mp ha⟩

/-- What occurs at all stands first at one place, and says one thing there. -/
theorem Occurs.existsUnique {phrase : Text → Option α} {stands : Text → α → Prop}
    (h : ∀ t a, phrase t = some a ↔ stands t a) (hoccurs : Occurs stands t) :
    ∃! a, StandsFirst stands t a := by
  have hsome : leftmost? phrase t ≠ none := fun hnone =>
    (leftmost?_eq_none_iff_not_occurs h).mp hnone hoccurs
  obtain ⟨a, ha⟩ := Option.ne_none_iff_exists'.mp hsome
  refine ⟨a, (leftmost?_eq_some_iff h).mp ha, fun b hb => ?_⟩
  exact Option.some.inj (((leftmost?_eq_some_iff h).mpr hb).symm.trans ha)

theorem StandsFirst.occurs {stands : Text → α → Prop} {a : α} (h : StandsFirst stands t a) :
    Occurs stands t := by
  obtain ⟨before, rest, ht, ha, -⟩ := h
  exact ⟨before, rest, a, ht, ha⟩

/-! ## Pieces of phrases -/

/-- What separates two words of a phrase: one or more blanks. -/
structure IsGap (gap : Text) : Prop where
  ne_nil : gap ≠ []
  blank : ∀ c ∈ gap, isBlank c = true

/-- One to three digits. -/
structure IsNumeral (digits : Text) : Prop where
  ne_nil : digits ≠ []
  digit : ∀ c ∈ digits, isDigit c = true
  length_le : digits.length ≤ 3

theorem run?_eq_some_iff : run? p t = some (word, rest) ↔
    word ≠ [] ∧ (∀ c ∈ word, p c = true) ∧ t = word ++ rest ∧
      ∀ c ∈ rest.head?, p c = false := by
  simp only [run?, Option.ite_none_left_eq_some, Option.some.injEq, Prod.mk.injEq,
    List.isEmpty_iff]
  constructor
  · rintro ⟨hne, rfl, rfl⟩
    exact ⟨hne, List.all_eq_true.mp List.all_takeWhile, List.takeWhile_append_dropWhile.symm,
      Text.head?_dropWhile p t⟩
  · rintro ⟨hne, hword, rfl, hrest⟩
    obtain ⟨htake, hdrop⟩ := Text.span_append hword hrest
    exact ⟨htake.symm ▸ hne, htake, hdrop⟩

theorem blanks?_eq_some_iff : blanks? t = some rest ↔
    ∃ gap, IsGap gap ∧ t = gap ++ rest ∧ ∀ c ∈ rest.head?, isBlank c = false := by
  cases t with
  | nil =>
    constructor
    · intro h
      cases h
    · rintro ⟨gap, hgap, ht, -⟩
      exact absurd (List.nil_eq_append_iff.mp ht).1 hgap.ne_nil
  | cons c t =>
    simp only [blanks?, Option.ite_none_right_eq_some, Option.some.injEq]
    constructor
    · rintro ⟨hc, rfl⟩
      refine ⟨c :: t.takeWhile isBlank, ⟨List.cons_ne_nil _ _, ?_⟩, ?_,
        Text.head?_dropWhile isBlank t⟩
      · rw [List.forall_mem_cons]
        exact ⟨hc, List.all_eq_true.mp List.all_takeWhile⟩
      · rw [List.cons_append, List.takeWhile_append_dropWhile]
    · rintro ⟨gap, hgap, ht, hrest⟩
      cases gap with
      | nil => exact absurd rfl hgap.ne_nil
      | cons d gap =>
        obtain ⟨rfl, rfl⟩ := List.cons.inj ht
        obtain ⟨hc, hblank⟩ := List.forall_mem_cons.mp hgap.blank
        exact ⟨hc, (Text.span_append hblank hrest).2⟩

/-- Two words of which neither begins with the other do not stand at one place. -/
def AreApart (words : List Text) : Prop :=
  ∀ word ∈ words, ∀ word' ∈ words, word <+: word' → word = word'

instance (words : List Text) : Decidable (AreApart words) :=
  inferInstanceAs (Decidable (∀ word ∈ words, ∀ word' ∈ words, word <+: word' → word = word'))

theorem anyWord?_eq_some_iff {words : List Text} (h : AreApart words) :
    anyWord? words t = some rest ↔ ∃ word ∈ words, t = word ++ rest := by
  constructor
  · intro hfound
    obtain ⟨word, hmem, hword⟩ := List.exists_of_findSome?_eq_some hfound
    exact ⟨word, hmem, after?_eq_some_iff.mp hword⟩
  · rintro ⟨word, hmem, rfl⟩
    -- Some word of the list is found, and it can only be this one.
    have hsome : (anyWord? words (word ++ rest)).isSome = true :=
      List.findSome?_isSome_iff.mpr ⟨word, hmem, by rw [after?_eq_some_iff.mpr rfl]; rfl⟩
    obtain ⟨rest', hrest'⟩ := Option.isSome_iff_exists.mp hsome
    obtain ⟨word', hmem', hword'⟩ := List.exists_of_findSome?_eq_some hrest'
    have heq := after?_eq_some_iff.mp hword'
    have hsame : word = word' := by
      rcases List.prefix_or_prefix_of_prefix (List.prefix_append word rest)
        (heq ▸ List.prefix_append word' rest') with hle | hle
      · exact h word hmem word' hmem' hle
      · exact (h word' hmem' word hmem hle).symm
    subst hsame
    rw [hrest', List.append_cancel_left heq]

theorem isBlank_of_isDigit {c : Char} (h : isDigit c = true) : isBlank c = false :=
  Text.isBlank_eq_false (toNat_of_isDomain (isDomain_of_isDigit h)).1
    (toNat_of_isDomain (isDomain_of_isDigit h)).2

theorem isBlank_of_isLetter {c : Char} (h : isLetter c = true) : isBlank c = false :=
  Text.isBlank_eq_false (toNat_of_isDomain (isDomain_of_isLetter h)).1
    (toNat_of_isDomain (isDomain_of_isLetter h)).2

theorem IsGap.isDigit_head (h : IsGap gap) (rest : Text) :
    ∀ c ∈ (gap ++ rest).head?, isDigit c = false := by
  intro c hc
  rw [List.head?_append_of_ne_nil _ h.ne_nil] at hc
  refine Bool.eq_false_iff.mpr fun hdigit => ?_
  have hblank := h.blank c (List.mem_of_head? hc)
  rw [isBlank_of_isDigit hdigit] at hblank
  cases hblank

theorem IsNumeral.isBlank_head (h : IsNumeral digits) (rest : Text) :
    ∀ c ∈ (digits ++ rest).head?, isBlank c = false := by
  intro c hc
  rw [List.head?_append_of_ne_nil _ h.ne_nil] at hc
  exact isBlank_of_isDigit (h.digit c (List.mem_of_head? hc))

/-- A number is read between its gaps. -/
theorem amount?_eq_some_iff : amount? t = some (digits, rest) ↔
    (∃ gap gap', IsGap gap ∧ IsNumeral digits ∧ IsGap gap' ∧
      t = gap ++ (digits ++ (gap' ++ rest))) ∧ ∀ c ∈ rest.head?, isBlank c = false := by
  simp only [amount?, bind, Option.bind_eq_some_iff, Prod.exists, Option.ite_none_right_eq_some,
    Option.some.injEq, Prod.mk.injEq]
  constructor
  · rintro ⟨t₁, h₁, word, t₂, h₂, t₃, h₃, hlen, rfl, rfl⟩
    obtain ⟨gap, hgap, rfl, -⟩ := blanks?_eq_some_iff.mp h₁
    obtain ⟨hne, hdigit, rfl, -⟩ := run?_eq_some_iff.mp h₂
    obtain ⟨gap', hgap', rfl, hrest⟩ := blanks?_eq_some_iff.mp h₃
    exact ⟨⟨gap, gap', hgap, ⟨hne, hdigit, hlen⟩, hgap', rfl⟩, hrest⟩
  · rintro ⟨⟨gap, gap', hgap, hdigits, hgap', rfl⟩, hrest⟩
    -- Each piece ends where it should, since what follows begins with another kind of character.
    refine ⟨_, blanks?_eq_some_iff.mpr ⟨gap, hgap, rfl, hdigits.isBlank_head _⟩, digits, _,
      run?_eq_some_iff.mpr ⟨hdigits.ne_nil, hdigits.digit, rfl, hgap'.isDigit_head rest⟩, _,
      blanks?_eq_some_iff.mpr ⟨gap', hgap', rfl, hrest⟩, hdigits.length_le, rfl, rfl⟩

/-! ## Phrases with numbers -/

/-- The text begins with one of the openers, a number and one of the nouns, with gaps between them. -/
def Counts (openers nouns : List Text) (t digits : Text) : Prop :=
  ∃ opener ∈ openers, ∃ noun ∈ nouns, ∃ gap gap' rest, IsGap gap ∧ IsNumeral digits ∧ IsGap gap' ∧
    t = opener ++ (gap ++ (digits ++ (gap' ++ (noun ++ rest))))

/-- Does every word begin with a character that is not blank? -/
def areVisible (words : List Text) : Bool :=
  words.all fun word => word.head?.any fun c => !isBlank c

theorem isBlank_head_of_mem {words : List Text} (h : areVisible words = true) (hmem : word ∈ words)
    (rest : Text) : ∀ c ∈ (word ++ rest).head?, isBlank c = false := by
  have hword := List.all_eq_true.mp h word hmem
  cases word with
  | nil => cases hword
  | cons d word =>
    intro c hc
    obtain rfl : d = c := Option.some.inj hc
    simpa using hword

/-- Reading an opener, a number and a noun one after another. -/
theorem counts_iff {openers nouns : List Text} (hopeners : AreApart openers)
    (hnouns : areVisible nouns = true) : Counts openers nouns t digits ↔
      ∃ u v, anyWord? openers t = some u ∧ amount? u = some (digits, v) ∧
        ∃ noun ∈ nouns, ∃ rest, v = noun ++ rest := by
  constructor
  · rintro ⟨opener, hopener, noun, hnoun, gap, gap', rest, hgap, hdigits, hgap', rfl⟩
    exact ⟨_, _, (anyWord?_eq_some_iff hopeners).mpr ⟨opener, hopener, rfl⟩,
      amount?_eq_some_iff.mpr ⟨⟨gap, gap', hgap, hdigits, hgap', rfl⟩,
        isBlank_head_of_mem hnouns hnoun rest⟩, noun, hnoun, rest, rfl⟩
  · rintro ⟨u, v, hu, hv, noun, hnoun, rest, rfl⟩
    obtain ⟨opener, hopener, rfl⟩ := (anyWord?_eq_some_iff hopeners).mp hu
    obtain ⟨⟨gap, gap', hgap, hdigits, hgap', rfl⟩, -⟩ := amount?_eq_some_iff.mp hv
    exact ⟨opener, hopener, noun, hnoun, gap, gap', rest, hgap, hdigits, hgap', rfl⟩

/-- The word for a unit of time. A plural begins with it too. -/
def unitWord : TimeUnit → Text
  | .hours => "hour"
  | .days => "day"

/-- The text begins with "last N hours" or "last N days". -/
def SaysWindow (t : Text) (window : TimeWindow) : Prop :=
  Counts ["last"] [unitWord window.unit] t window.amount

/-- The text begins with "first N users", or the like. -/
def SaysRowLimit (t digits : Text) : Prop :=
  Counts ["first", "top", "show"] ["user", "rows", "records"] t digits

theorem timeWindow?_eq_some_iff {window : TimeWindow} :
    timeWindow? t = some window ↔ SaysWindow t window := by
  have hopener : AreApart ["last"] := by decide
  have hvisible : ∀ unit, areVisible [unitWord unit] = true := by
    intro unit
    cases unit <;> decide
  have hword (u : Text) : anyWord? ["last"] u = after? "last" u := by
    rw [anyWord?, List.findSome?_singleton]
  rw [SaysWindow, counts_iff hopener (hvisible window.unit)]
  simp only [timeWindow?, bind, Option.bind_eq_some_iff, Prod.exists, hword,
    List.mem_singleton, exists_eq_left]
  constructor
  · rintro ⟨u, hu, amount, v, hv, h⟩
    -- Hours are looked for before days.
    split_ifs at h with hhour hday
    · obtain rfl := Option.some.inj h
      exact ⟨u, v, hu, hv, Text.beginsWith_iff.mp hhour⟩
    · obtain rfl := Option.some.inj h
      exact ⟨u, v, hu, hv, Text.beginsWith_iff.mp hday⟩
  · rintro ⟨u, v, hu, hv, rest, rfl⟩
    obtain ⟨amount, unit⟩ := window
    refine ⟨u, hu, amount, _, hv, ?_⟩
    have hbegins (word : Text) : Text.beginsWith (word ++ rest) word = true :=
      Text.beginsWith_iff.mpr ⟨rest, rfl⟩
    cases unit with
    | hours => exact if_pos (hbegins "hour")
    | days =>
      have hnot : ¬ Text.beginsWith (unitWord .days ++ rest) "hour" = true := by
        rw [Text.beginsWith_iff]
        rintro ⟨_, h⟩
        exact absurd (List.cons.inj h).1 (by decide)
      exact (if_neg hnot).trans (if_pos (hbegins "day"))

theorem rowLimit?_eq_some_iff : rowLimit? t = some digits ↔ SaysRowLimit t digits := by
  have hopeners : AreApart ["first", "top", "show"] := by decide
  have hnouns : AreApart ["user", "rows", "records"] := by decide
  rw [SaysRowLimit, counts_iff hopeners (by decide)]
  simp only [rowLimit?, bind, Option.bind_eq_some_iff, Prod.exists, Option.some.injEq,
    anyWord?_eq_some_iff hnouns]
  constructor
  · rintro ⟨u, hu, amount, v, hv, rest, ⟨noun, hnoun, hrest⟩, rfl⟩
    exact ⟨u, v, hu, hv, noun, hnoun, rest, hrest⟩
  · rintro ⟨u, v, hu, hv, noun, hnoun, rest, hrest⟩
    exact ⟨u, hu, digits, v, hv, rest, ⟨noun, hnoun, hrest⟩, rfl⟩

end AskTable.Phrase
