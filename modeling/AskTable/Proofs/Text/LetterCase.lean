import AskTable.Proofs.Text.Ascii
import AskTable.Proofs.Text.Search
/-!
# Lower case of composed texts

A text in lower case is not made of its parts in lower case: whether a capital sigma ends its word
depends on what stands around it. This is the only way in which the parts depend on each other. A
search for a word without a sigma does not see it, so it may be carried out on each character in
lower case by itself.

## Main definitions

* `Text.foldCase` - each character in lower case by itself
* `Text.IsPlainLower` - characters that only their own capital letters become

## Main results

* `Text.lowercase_append_of_ascii` - behind characters of ASCII the lower case goes on
* `Text.infix_lowercase_iff` - a search does not see what stands around a character
* `Text.foldCase_of_ascii`, `Text.foldCase_of_isBlank` - lower case of ASCII and of blanks
* `Text.infix_lowercase_of_infix`, `Text.exists_prefix_of_lowercaseFrom`,
  `Text.exists_infix_of_lowercaseFrom` - a word of ASCII in a text and in its lower case
-/

namespace AskTable.Text

variable {a b t word : Text} {c : Char}

/-- Behind characters of ASCII the lower case goes on, and these are lowered letter by letter. -/
theorem lowercaseFrom_append_of_ascii (ha : ∀ c ∈ a, c.toNat < 0x80) (before b : Text) :
    lowercaseFrom before (a ++ b) =
      a.map Char.toLower ++ lowercaseFrom (a.reverse ++ before) b := by
  induction a generalizing before with
  | nil => rfl
  | cons c a ih =>
    rw [List.forall_mem_cons] at ha
    -- A sigma is no character of ASCII, so what stands around the character does not matter.
    have hsigma : c ≠ 'Σ' := by
      rintro rfl
      exact absurd ha.1 (by decide)
    rw [List.cons_append, lowercaseFrom, if_neg hsigma, lowerOf, if_pos ha.1, ih ha.2]
    simp

theorem lowercase_append_of_ascii (ha : ∀ c ∈ a, c.toNat < 0x80) (b : Text) :
    lowercase (a ++ b) = a.map Char.toLower ++ lowercaseFrom a.reverse b := by
  rw [lowercase, lowercaseFrom_append_of_ascii ha, List.append_nil]

/-! ## Each character by itself -/

/-- Each character in lower case by itself, whatever stands around it. -/
def foldCase (t : Text) : Text := t.flatMap lowerOf

@[simp] theorem foldCase_nil : foldCase [] = [] := rfl

@[simp] theorem foldCase_append (a b : Text) : foldCase (a ++ b) = foldCase a ++ foldCase b :=
  List.flatMap_append

theorem foldCase_cons (c : Char) (t : Text) : foldCase (c :: t) = lowerOf c ++ foldCase t :=
  List.flatMap_cons

theorem foldCase_of_ascii (ht : ∀ c ∈ t, c.toNat < 0x80) : foldCase t = t.map Char.toLower := by
  induction t with
  | nil => rfl
  | cons c t ih =>
    rw [List.forall_mem_cons] at ht
    rw [foldCase_cons, lowerOf, if_pos ht.1, ih ht.2]
    rfl

/-- Blanks have no case. -/
theorem lowerOf_of_isBlank (hc : isBlank c = true) : lowerOf c = [c] := by
  rw [lowerOf]
  split_ifs with hascii hdotted
  · -- A letter of ASCII is visible.
    have hupper : ¬ c.isUpper = true := by
      intro hupper
      have hrange := isUpper_iff.mp hupper
      rw [isBlank_eq_false (by omega) (by omega)] at hc
      cases hc
    rw [toLower_of_not_isUpper hupper]
  · subst hdotted
    exact absurd hc (by decide)
  · have hnone : partner? lowerRuns c.toNat = none :=
      of_forall_blankRanges (partner? lowerRuns · = none) (by decide +kernel) hc
    rw [hnone]
    rfl

theorem foldCase_of_isBlank (ht : ∀ c ∈ t, isBlank c = true) : foldCase t = t := by
  induction t with
  | nil => rfl
  | cons c t ih =>
    rw [List.forall_mem_cons] at ht
    rw [foldCase_cons, lowerOf_of_isBlank ht.1, ih ht.2]
    rfl

/-! ## Searching in lower case -/

/-- The two lower cases of a sigma as one. -/
def plainSigma (c : Char) : Char := if c = 'ς' then 'σ' else c

/-- Up to the two lower cases of a sigma, characters are lowered by themselves. -/
theorem map_plainSigma_lowercaseFrom (before t : Text) :
    (lowercaseFrom before t).map plainSigma = (foldCase t).map plainSigma := by
  induction t generalizing before with
  | nil => rfl
  | cons c t ih =>
    rw [lowercaseFrom, foldCase_cons, List.map_append, List.map_append, ih]
    congr 1
    split_ifs with hsigma hfinal
    · subst hsigma
      decide +kernel
    · subst hsigma
      decide +kernel
    · rfl

theorem plainSigma_eq_self (hc : c.toNat < 0x80) : plainSigma c = c := by
  rw [plainSigma, if_neg]
  rintro rfl
  exact absurd hc (by decide)

/-- A word of ASCII is found alike with one lower case of a sigma or with two. -/
theorem infix_map_plainSigma_iff (hword : ∀ c ∈ word, c.toNat < 0x80) :
    word <:+: t.map plainSigma ↔ word <:+: t := by
  have hself : word.map plainSigma = word := by
    rw [List.map_congr_left fun c hc => plainSigma_eq_self (hword c hc), List.map_id']
  constructor
  · intro h
    obtain ⟨u, hu, rfl⟩ := List.infix_map_iff.mp h
    -- A character that becomes one of ASCII was this character.
    have hchars : ∀ c ∈ u, plainSigma c = c := by
      intro c hc
      have hascii := hword _ (List.mem_map_of_mem hc)
      rw [plainSigma] at hascii ⊢
      split_ifs at hascii ⊢ with hfinal
      · exact absurd hascii (by decide)
      · rfl
    rwa [List.map_congr_left hchars, List.map_id']
  · intro h
    rw [← hself]
    exact h.map plainSigma

/-- A search for a word of ASCII in lower case does not see what stands around a character. -/
theorem infix_lowercase_iff (hword : ∀ c ∈ word, c.toNat < 0x80) (a t b : Text) :
    word <:+: a ++ lowercase t ++ b ↔ word <:+: a ++ foldCase t ++ b := by
  have hsame : (a ++ lowercase t ++ b).map plainSigma = (a ++ foldCase t ++ b).map plainSigma := by
    simp only [List.map_append, lowercase, map_plainSigma_lowercaseFrom]
  rw [← infix_map_plainSigma_iff hword, hsame, infix_map_plainSigma_iff hword]

theorem infix_lowercase_iff_infix_foldCase (hword : ∀ c ∈ word, c.toNat < 0x80) :
    word <:+: lowercase t ↔ word <:+: foldCase t := by
  have h := infix_lowercase_iff hword [] t []
  rwa [List.nil_append, List.append_nil, List.nil_append, List.append_nil] at h

theorem includes_lowercase_eq_false_iff (hword : ∀ c ∈ word, c.toNat < 0x80) :
    includes (lowercase t) word = false ↔ ¬ word <:+: foldCase t := by
  rw [includes_eq_false_iff, infix_lowercase_iff_infix_foldCase hword]

/-! ## Back from lower case -/

/-- A character is one of ASCII if its lower case by the letters of ASCII is. -/
theorem toNat_lt_of_toLower (hc : c.toLower.toNat < 0x80) : c.toNat < 0x80 := by
  by_contra hge
  have hupper : ¬ c.isUpper = true := by
    intro hupper
    have hrange := isUpper_iff.mp hupper
    omega
  rw [toLower_of_not_isUpper hupper] at hc
  exact hge hc

/-- What stands in a text stands in its lower case, letter by letter. -/
theorem infix_lowercase_of_infix {part : Text} (hpart : ∀ c ∈ part, c.toLower.toNat < 0x80)
    (h : part <:+: t) : part.map Char.toLower <:+: lowercase t := by
  have hlower : ∀ c ∈ part.map Char.toLower, c.toNat < 0x80 := List.forall_mem_map.mpr hpart
  rw [infix_lowercase_iff_infix_foldCase hlower]
  obtain ⟨a, b, rfl⟩ := h
  rw [foldCase_append, foldCase_append,
    foldCase_of_ascii fun c hc => toNat_lt_of_toLower (hpart c hc)]
  exact List.infix_append _ _ _

/-- The characters with the given partner in a table of runs. -/
def partnersOf (runs : List CaseRun) (n : Nat) : List Nat :=
  runs.filterMap fun (first, last, step, distance) =>
    let m : Int := n - distance
    if first ≤ m && m ≤ last && (m.toNat - first) % step = 0 then some m.toNat else none

/-- The table of case pairs gives a partner only to the characters that it lists for it. -/
theorem mem_partnersOf {runs : List CaseRun} {n m : Nat} (h : partner? runs n = some m)
    (hm : m ≠ 0) : n ∈ partnersOf runs m := by
  induction runs with
  | nil => cases h
  | cons run runs ih =>
    obtain ⟨first, last, step, distance⟩ := run
    rw [partner?] at h
    have hrest : partnersOf runs m ⊆ partnersOf ((first, last, step, distance) :: runs) m :=
      ((List.sublist_cons_self _ runs).filterMap _).subset
    split_ifs at h with hbefore hfits
    · -- This run has the partner, so the way back from it leads into the run.
      simp only [Bool.and_eq_true, decide_eq_true_eq] at hfits
      have hpartner := Option.some.inj h
      have hback : (m : Int) - distance = n := by omega
      refine List.mem_filterMap.mpr ⟨_, List.mem_cons_self, ?_⟩
      simp only [hback, Int.toNat_natCast, Bool.and_eq_true, decide_eq_true_eq]
      rw [if_pos]
      exact ⟨⟨by omega, by omega⟩, hfits.2⟩
    · exact hrest (ih h)

theorem lowerOf_ne_nil (c : Char) : lowerOf c ≠ [] := by
  rw [lowerOf]
  split_ifs
  · exact List.cons_ne_nil _ _
  · exact List.cons_ne_nil _ _
  · exact List.cons_ne_nil _ _

/-- No character beyond ASCII has a lower case that begins with this one. -/
def IsPlainLower (c : Char) : Prop :=
  c.toNat < 0x80 ∧ c ≠ 'i' ∧ c ≠ '\x00' ∧ partnersOf lowerRuns c.toNat = []

instance (c : Char) : Decidable (IsPlainLower c) :=
  inferInstanceAs (Decidable (_ ∧ _ ∧ _ ∧ _))

/-- The lower case of a character beyond ASCII begins with no such character. -/
theorem IsPlainLower.head?_lowerOf_ne (hc : IsPlainLower c) {d : Char} (hd : 0x80 ≤ d.toNat) :
    (lowerOf d).head? ≠ some c := by
  obtain ⟨hascii, hdotted, hnull, hpartners⟩ := hc
  rw [lowerOf, if_neg (by omega)]
  split_ifs with hcapital
  · intro h
    exact hdotted (Option.some.inj h).symm
  · cases hpartner : partner? lowerRuns d.toNat with
    | none =>
      intro h
      obtain rfl : d = c := Option.some.inj h
      omega
    | some m =>
      intro h
      obtain rfl : Char.ofNat m = c := Option.some.inj h
      -- A number that is no character gives the null character, which is excluded.
      have hnonzero : (Char.ofNat m).toNat ≠ 0 := fun hzero => hnull (Char.toNat_inj.mp hzero)
      have hm : (Char.ofNat m).toNat = m := by
        by_cases hvalid : m.isValidChar
        · rw [Char.ofNat, dif_pos hvalid]
          rfl
        · rw [Char.ofNat, dif_neg hvalid] at hnonzero
          exact absurd rfl hnonzero
      rw [hm] at hnonzero hpartners
      have hmem := mem_partnersOf hpartner hnonzero
      rw [hpartners] at hmem
      cases hmem

/-- What the lower case of a text begins with, the text begins with in some case. -/
theorem exists_prefix_of_lowercaseFrom {before : Text} (hword : ∀ c ∈ word, IsPlainLower c)
    (h : word <+: lowercaseFrom before t) :
    ∃ start, start <+: t ∧ start.map Char.toLower = word := by
  induction word generalizing before t with
  | nil => exact ⟨[], List.nil_prefix, rfl⟩
  | cons w word ih =>
    rw [List.forall_mem_cons] at hword
    cases t with
    | nil => cases List.prefix_nil.mp h
    | cons c t =>
      rw [lowercaseFrom] at h
      by_cases hascii : c.toNat < 0x80
      · -- A character of ASCII becomes one character, so the word goes on behind it.
        have hsigma : c ≠ 'Σ' := by
          rintro rfl
          exact absurd hascii (by decide)
        rw [if_neg hsigma, lowerOf, if_pos hascii, List.singleton_append,
          List.cons_prefix_cons] at h
        obtain ⟨start, hstart, rfl⟩ := ih hword.2 h.2
        exact ⟨c :: start, List.cons_prefix_cons.mpr ⟨rfl, hstart⟩, by rw [List.map_cons, ← h.1]⟩
      · -- No other character begins with one of the word in lower case.
        exfalso
        obtain ⟨rest, hrest⟩ := h
        have hhead := congrArg List.head? hrest
        by_cases hsigma : c = 'Σ'
        · rw [if_pos hsigma] at hhead
          have hw : w = if meetsCased before && !meetsCased t then 'ς' else 'σ' :=
            Option.some.inj hhead
          have hwascii := hword.1.1
          rw [hw] at hwascii
          split_ifs at hwascii
          · exact absurd hwascii (by decide)
          · exact absurd hwascii (by decide)
        · rw [if_neg hsigma, List.head?_append_of_ne_nil _ (lowerOf_ne_nil c)] at hhead
          exact hword.1.head?_lowerOf_ne (Nat.not_lt.mp hascii) hhead.symm

/-- What a character becomes begins with one character, and goes on with none of ASCII. -/
theorem exists_lowercaseFrom_cons (before : Text) (c : Char) (t : Text) :
    ∃ d rest, lowercaseFrom before (c :: t) = d :: (rest ++ lowercaseFrom (c :: before) t) ∧
      ∀ e ∈ rest, 0x80 ≤ e.toNat := by
  rw [lowercaseFrom]
  by_cases hsigma : c = 'Σ'
  · rw [if_pos hsigma]
    exact ⟨_, [], rfl, List.forall_mem_nil _⟩
  · rw [if_neg hsigma, lowerOf]
    split_ifs with hascii hdotted
    · exact ⟨_, [], rfl, List.forall_mem_nil _⟩
    · exact ⟨'i', ['\u0307'], rfl, by simp⟩
    · exact ⟨_, [], rfl, List.forall_mem_nil _⟩

/-- What stands in the lower case of a text, stands in the text in some case. -/
theorem exists_infix_of_lowercaseFrom {before : Text} (hword : ∀ c ∈ word, IsPlainLower c)
    (hne : word ≠ []) (h : word <:+: lowercaseFrom before t) :
    ∃ part, part <:+: t ∧ part.map Char.toLower = word := by
  induction t generalizing before with
  | nil => exact absurd (List.infix_nil.mp h) hne
  | cons c t ih =>
    obtain ⟨d, rest, hsplit, hrest⟩ := exists_lowercaseFrom_cons before c t
    rw [hsplit, List.infix_cons_iff] at h
    rcases h with hstart | hlater
    · rw [← hsplit] at hstart
      obtain ⟨start, hprefix, hlower⟩ := exists_prefix_of_lowercaseFrom hword hstart
      exact ⟨start, hprefix.isInfix, hlower⟩
    · -- The word has none of the other characters that the first one of the text became.
      have hlacks : ∀ e ∈ rest, e ∉ word := by
        intro e he hmem
        have hlt := (hword e hmem).1
        have hge := hrest e he
        omega
      have hfound := (standsIn_true_iff.mpr hlater).of_append hlacks hne
      obtain ⟨part, hpart, hlower⟩ := ih (standsIn_true_iff.mp hfound)
      exact ⟨part, hpart.trans (List.suffix_cons c t).isInfix, hlower⟩

end AskTable.Text
