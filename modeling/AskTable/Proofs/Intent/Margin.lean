import AskTable.Proofs.Intent.Country
/-!
# What stands around a phrase

A phrase begins and ends with a character of a word. Blanks around a text, or a mark that ends its
last sentence, are no such characters. They may go on with a gap in which the text ends, but a phrase
has a word behind each of its gaps, and there is none. So a phrase is found in the text with them
just as it is found without them.

This is said of readers. A reader may leave something of the text over, and then what stands behind
the text stands behind this. All phrases but that about a domain are put together from such readers.

## Main definitions

* `Phrase.IsOuter` - a class of characters of which no word of a phrase is made
* `Phrase.Carries` - a reader leaves alone what stands behind the text
* `Phrase.Overlooks` - a phrase is recognised alike with and without what stands around the text

## Main results

* `Phrase.Carries.bind`, `Phrase.Carries.blanks`, `Phrase.Carries.amount` - readers put together
* `Phrase.Overlooks.leftmost?_eq` - a search does not see what stands around the text
* `Phrase.overlooks_timeWindow?` and the like - the phrases, one after another
-/

namespace AskTable.Phrase

open Text (after? isBlank isWord atWordEdge)

variable {α β : Type} {C : Char → Prop} {p : Char → Bool} {t u v word : Text} {words : List Text}

/-! ## Characters outside of words -/

/-- No word of a phrase has a character of the class. -/
structure IsOuter (C : Char → Prop) : Prop where
  isWord_eq_false : ∀ c, C c → isWord c = false
  ne_equals : ∀ c, C c → c ≠ '='

/-- Is the text made of the characters that words of phrases have? -/
def isPhraseWord (word : Text) : Bool := word ≠ [] && word.all fun c => isWord c || c = '='

theorem isWord_of_isLetter {c : Char} (h : isLetter c = true) : isWord c = true := by
  have hrange := isLetter_iff.mp h
  exact Text.isWord_of_isAlphanum (by simp [Char.isAlphanum, Text.isAlpha_iff, hrange]) (by omega)

theorem isWord_of_isDigit {c : Char} (h : isDigit c = true) : isWord c = true := by
  have hrange := isDigit_iff.mp h
  have hdigit : c.isDigit = true := by
    simp only [Char.isDigit, Bool.and_eq_true, decide_eq_true_eq]
    exact hrange
  exact Text.isWord_of_isAlphanum (by simp [Char.isAlphanum, hdigit]) (by omega)

theorem IsOuter.isLetter_eq_false (hC : IsOuter C) {c : Char} (hc : C c) : isLetter c = false := by
  refine Bool.eq_false_iff.mpr fun h => ?_
  have hword := hC.isWord_eq_false c hc
  rw [isWord_of_isLetter h] at hword
  cases hword

theorem IsOuter.isDigit_eq_false (hC : IsOuter C) {c : Char} (hc : C c) : isDigit c = false := by
  refine Bool.eq_false_iff.mpr fun h => ?_
  have hword := hC.isWord_eq_false c hc
  rw [isWord_of_isDigit h] at hword
  cases hword

theorem IsOuter.not_of_isPhraseWord (hC : IsOuter C) (hword : isPhraseWord word = true) :
    ∀ c ∈ word, ¬ C c := by
  intro c hc houter
  simp only [isPhraseWord, Bool.and_eq_true, List.all_eq_true, Bool.or_eq_true,
    decide_eq_true_eq] at hword
  rcases hword.2 c hc with h | h
  · rw [hC.isWord_eq_false c houter] at h
    cases h
  · exact hC.ne_equals c houter h

/-! ## Readers -/

/-- What stands behind the text does not change what is read. If the reader leaves something of the
text over, what stands behind the text is kept behind this. -/
structure Carries (C : Char → Prop) (keep : Text → β → β) (read : Text → Option β) : Prop where
  append : ∀ t v, (∀ c ∈ v, C c) → read (t ++ v) = (read t).map (keep v)
  nil : read [] = none

/-- A reader that gives a value. -/
abbrev CarriesValue (C : Char → Prop) (read : Text → Option β) : Prop :=
  Carries C (fun _ value => value) read

/-- A reader that passes over the beginning of the text. -/
abbrev CarriesRest (C : Char → Prop) (read : Text → Option Text) : Prop :=
  Carries C (fun v rest => rest ++ v) read

variable {keep : Text → α → α} {keep' : Text → β → β}

/-- Nothing is read where there is only what may stand behind a text. -/
theorem Carries.eq_none {read : Text → Option β} (h : Carries C keep' read) (hv : ∀ c ∈ v, C c) :
    read v = none := by
  have happend := h.append [] v hv
  rwa [h.nil, Option.map_none, List.nil_append] at happend

/-- One reader after another. -/
theorem Carries.bind {first : Text → Option α} {next : α → Option β} (h : Carries C keep first)
    (hnext : ∀ a v, (∀ c ∈ v, C c) → next (keep v a) = (next a).map (keep' v)) :
    Carries C keep' fun t => first t >>= next where
  append t v hv := by
    rw [h.append t v hv]
    cases first t with
    | none => rfl
    | some a => exact hnext a v hv
  nil := by
    rw [h.nil]
    rfl

/-- A gap goes on behind the text, but where it ends there is nothing to read. -/
theorem Carries.blanks {next : Text → Option β} (h : Carries C keep' next) :
    Carries C keep' fun t => blanks? t >>= next where
  append t v hv := by
    cases t with
    | nil =>
      -- If there is a gap, it is all behind the text, and so is what follows it.
      cases hblanks : blanks? v with
      | none => rw [List.nil_append, hblanks]; rfl
      | some rest =>
        have hrest : ∀ c ∈ rest, C c := fun c hc => hv c ((suffix_of_blanks? hblanks).mem hc)
        rw [List.nil_append, hblanks]
        exact h.eq_none hrest
    | cons c t =>
      rw [List.cons_append, blanks?, blanks?, List.dropWhile_append]
      split_ifs with hblank hempty
      · -- The text ends in the gap.
        have hrest : ∀ c ∈ v.dropWhile isBlank, C c :=
          fun c hc => hv c ((List.dropWhile_suffix _).mem hc)
        rw [List.isEmpty_iff.mp hempty]
        change next _ = (next []).map (keep' v)
        rw [h.eq_none hrest, h.nil, Option.map_none]
      · exact h.append _ v hv
      · rfl
  nil := rfl

theorem carries_after? (hC : IsOuter C) (hword : isPhraseWord word = true) :
    CarriesRest C (after? word) where
  append t v hv := by
    have hnot := hC.not_of_isPhraseWord hword
    clear hword
    induction word generalizing t with
    | nil => rfl
    | cons d word ih =>
      rw [List.forall_mem_cons] at hnot
      cases t with
      | nil =>
        cases v with
        | nil => rfl
        | cons c v =>
          have hne : d ≠ c := fun heq => hnot.1 (heq ▸ hv c List.mem_cons_self)
          exact if_neg hne
      | cons c t =>
        rw [List.cons_append, after?, after?]
        split_ifs with heq
        · exact ih t hnot.2
        · rfl
  nil := by
    cases word with
    | nil => cases hword
    | cons d word => rfl

theorem carries_anyWord? (hC : IsOuter C) (hwords : words.all isPhraseWord = true) :
    CarriesRest C (anyWord? words) := by
  induction words with
  | nil => exact ⟨fun _ _ _ => rfl, rfl⟩
  | cons word words ih =>
    rw [List.all_cons, Bool.and_eq_true] at hwords
    have hword := carries_after? hC hwords.1
    have hothers := ih hwords.2
    refine ⟨fun t v hv => ?_, ?_⟩
    · rw [anyWord?, List.findSome?_cons, hword.append t v hv, anyWord?, List.findSome?_cons]
      cases after? word t with
      | none => exact hothers.append t v hv
      | some rest => rfl
    · rw [anyWord?, List.findSome?_cons, hword.nil]
      exact hothers.nil

theorem carries_run? (hp : ∀ c, C c → p c = false) :
    Carries C (fun v found => (found.1, found.2 ++ v)) (run? p) where
  append t v hv := by
    have hspan : (t ++ v).takeWhile p = t.takeWhile p ∧
        (t ++ v).dropWhile p = t.dropWhile p ++ v := by
      induction t with
      | nil =>
        cases v with
        | nil => exact ⟨rfl, rfl⟩
        | cons c v => simp [hp c (hv c List.mem_cons_self)]
      | cons c t ih =>
        cases hc : p c with
        | false => simp [hc]
        | true => simp [hc, ih]
    rw [run?, run?, hspan.1, hspan.2]
    split_ifs <;> rfl
  nil := rfl

/-- A number is read between its gaps, and then the next thing. -/
theorem Carries.amount (hC : IsOuter C) {next : Text × Text → Option β}
    (h : ∀ digits, Carries C keep' fun t => next (digits, t)) :
    Carries C keep' fun t => amount? t >>= next := by
  have hsplit (t : Text) : (amount? t >>= next) =
      blanks? t >>= fun t => run? isDigit t >>= fun found =>
        blanks? found.2 >>= fun t =>
          if found.1.length ≤ 3 then next (found.1, t) else none := by
    simp only [amount?, bind_assoc]
    refine bind_congr fun t => bind_congr fun found => bind_congr fun t => ?_
    split_ifs <;> rfl
  simp only [hsplit]
  have hend (digits : Text) : Carries C keep' fun t =>
      blanks? t >>= fun t => if digits.length ≤ 3 then next (digits, t) else none := by
    refine Carries.blanks ?_
    split_ifs
    · exact h digits
    · exact ⟨fun _ _ _ => rfl, rfl⟩
  exact Carries.blanks
    ((carries_run? fun c => hC.isDigit_eq_false).bind fun found => (hend found.1).append found.2)

/-- One reader, or else another. -/
theorem Carries.or {read read' : Text → Option β} (h : Carries C keep' read)
    (h' : Carries C keep' read') : Carries C keep' fun t => (read t).or (read' t) where
  append t v hv := by
    rw [h.append t v hv, h'.append t v hv]
    cases read t <;> rfl
  nil := by
    rw [h.nil, h'.nil]
    rfl

theorem carries_beginsWith (hC : IsOuter C) (hword : isPhraseWord word = true)
    (hv : ∀ c ∈ v, C c) : Text.beginsWith (t ++ v) word = Text.beginsWith t word := by
  rw [Text.beginsWith, (carries_after? hC hword).append t v hv, Option.isSome_map]
  rfl

/-! ## Phrases -/

/-- The phrase is recognised alike with and without what stands behind the text, and it does not
begin with what may stand there. -/
structure Overlooks (C : Char → Prop) (phrase : Text → Option β) : Prop where
  carries : CarriesValue C phrase
  ahead : ∀ c t, C c → phrase (c :: t) = none

/-- A search does not see what stands around the text. -/
theorem Overlooks.leftmost?_eq {phrase : Text → Option β} (h : Overlooks C phrase)
    (hu : ∀ c ∈ u, C c) (hv : ∀ c ∈ v, C c) (t : Text) :
    leftmost? phrase (u ++ (t ++ v)) = leftmost? phrase t := by
  have hbehind : leftmost? phrase (t ++ v) = leftmost? phrase t := by
    induction t with
    | nil =>
      refine (leftmost?_eq_none_iff.mpr fun before rest hsplit => ?_).trans h.carries.nil.symm
      exact h.carries.eq_none fun c hc => hv c (by rw [← List.nil_append v, hsplit]; simp [hc])
    | cons c t ih =>
      have hhere := h.carries.append (c :: t) v hv
      rw [Option.map_id', List.cons_append] at hhere
      rw [List.cons_append, leftmost?, leftmost?, hhere, ih]
  induction u with
  | nil => exact hbehind
  | cons c u ih =>
    rw [List.forall_mem_cons] at hu
    rw [List.cons_append, leftmost?, h.ahead c _ hu.1]
    exact ih hu.2

theorem after?_cons_eq_none (hC : IsOuter C) (hword : isPhraseWord word = true) {c : Char}
    (hc : C c) (t : Text) : after? word (c :: t) = none := by
  cases word with
  | nil => cases hword
  | cons d word =>
    have hne : d ≠ c := fun heq =>
      hC.not_of_isPhraseWord hword d List.mem_cons_self (heq ▸ hc)
    exact if_neg hne

/-- A phrase that begins with one of some words. -/
theorem Overlooks.anyWord (hC : IsOuter C) (hwords : words.all isPhraseWord = true)
    {next : Text → Option β} (h : CarriesValue C next) :
    Overlooks C fun t => anyWord? words t >>= next where
  carries := (carries_anyWord? hC hwords).bind h.append
  ahead c t hc := by
    have hnone : anyWord? words (c :: t) = none := List.findSome?_eq_none_iff.mpr fun word hmem =>
      after?_cons_eq_none hC (List.all_eq_true.mp hwords word hmem) hc t
    rw [hnone]
    rfl

/-- A phrase that begins with a word. -/
theorem Overlooks.after (hC : IsOuter C) (hword : isPhraseWord word = true)
    {next : Text → Option β} (h : CarriesValue C next) :
    Overlooks C fun t => after? word t >>= next where
  carries := (carries_after? hC hword).bind h.append
  ahead c t hc := by
    rw [after?_cons_eq_none hC hword hc]
    rfl

theorem overlooks_timeWindow? (hC : IsOuter C) : Overlooks C timeWindow? := by
  refine .after hC rfl (.amount hC fun digits => ⟨fun t v hv => ?_, rfl⟩)
  simp only [carries_beginsWith hC (show isPhraseWord "hour" = true from rfl) hv,
    carries_beginsWith hC (show isPhraseWord "day" = true from rfl) hv, Option.map_id']

theorem overlooks_rowLimit? (hC : IsOuter C) : Overlooks C rowLimit? :=
  .anyWord hC rfl (.amount hC fun _ => (carries_anyWord? hC rfl).bind fun _ _ _ => rfl)

/-- One or more characters of a word, which are the value. -/
theorem carries_captured (hp : ∀ c, C c → p c = false) :
    CarriesValue C fun t => run? p t >>= fun found => some found.1 :=
  (carries_run? hp).bind fun _ _ _ => rfl

theorem overlooks_nameStart? (hC : IsOuter C) : Overlooks C nameStart? := by
  have hletter : CarriesValue C fun t : Text => t.head?.filter isLetter := by
    refine ⟨fun t v hv => ?_, rfl⟩
    rw [Option.map_id']
    cases t with
    | cons c t => rfl
    | nil =>
      cases v with
      | nil => rfl
      | cons c v => simp [Option.filter, hC.isLetter_eq_false (hv c List.mem_cons_self)]
  exact .after hC rfl (.blanks ((carries_anyWord? hC rfl).bind
    (Carries.blanks ((carries_after? hC rfl).bind (Carries.blanks hletter).append)).append))

theorem overlooks_namePart? (hC : IsOuter C) : Overlooks C namePart? := by
  have hpart : ∀ c, C c → (isLetter c || isDigit c) = false := fun c hc => by
    rw [hC.isLetter_eq_false hc, hC.isDigit_eq_false hc, Bool.or_false]
  exact .after hC rfl (.blanks ((carries_after? hC rfl).bind
    (Carries.blanks (carries_captured hpart)).append))

theorem overlooks_nameEnd? (hC : IsOuter C) : Overlooks C nameEnd? :=
  .after hC rfl (.blanks ((carries_after? hC rfl).bind (Carries.blanks
    ((carries_after? hC rfl).bind (Carries.blanks
      (carries_captured fun _ => hC.isLetter_eq_false)).append)).append))

theorem overlooks_planName? (hC : IsOuter C) : Overlooks C planName? := by
  have hname : CarriesValue C fun t => run? isLetter t >>= fun found => some found.1 :=
    carries_captured fun _ => hC.isLetter_eq_false
  have hfiller : CarriesValue C planAfterFiller? :=
    Carries.blanks ((carries_anyWord? hC rfl).bind (Carries.blanks hname).append)
  have hdirect : CarriesValue C planDirectly? := Carries.blanks hname
  have hword : CarriesRest C planWord? := by
    have hsplit : planWord? = fun t => (after? "plan" t).or
        (after? "subscription" t >>= fun t => blanks? t >>= after? "plan") := by
      funext t
      rw [planWord?]
      cases after? "plan" t <;> rfl
    rw [hsplit]
    exact (carries_after? hC rfl).or
      ((carries_after? hC rfl).bind (Carries.blanks (carries_after? hC rfl)).append)
  have hsplit : planName? = fun t => planWord? t >>= fun t =>
      (planAfterFiller? t).or (planDirectly? t) := by
    funext t
    refine bind_congr fun t => ?_
    cases planAfterFiller? t <;> rfl
  rw [hsplit]
  refine ⟨hword.bind (hfiller.or hdirect).append, fun c t hc => ?_⟩
  rw [planWord?, after?_cons_eq_none hC rfl hc, after?_cons_eq_none hC rfl hc]
  rfl

/-! ## Countries -/

/-- A word of two letters at the beginning of the text. -/
def codeWord? : Text → Option Text
  | a :: b :: t => if isLetter a && isLetter b && atWordEdge (some b) t then some [a, b] else none
  | _ => none

theorem atWordEdge_append (hC : IsOuter C) (hv : ∀ c ∈ v, C c) (before : Option Char) (t : Text) :
    atWordEdge before (t ++ v) = atWordEdge before t := by
  cases t with
  | cons c t => rfl
  | nil =>
    cases v with
    | nil => rfl
    | cons c v => simp [atWordEdge, hC.isWord_eq_false c (hv c List.mem_cons_self)]

theorem carries_codeWord? (hC : IsOuter C) : CarriesValue C codeWord? where
  append t v hv := by
    rw [Option.map_id']
    match t with
    | a :: b :: t =>
      rw [List.cons_append, List.cons_append, codeWord?, codeWord?, atWordEdge_append hC hv]
    | [a] =>
      cases v with
      | nil => rfl
      | cons b v => simp [codeWord?, hC.isLetter_eq_false (hv b List.mem_cons_self)]
    | [] =>
      match v with
      | [] | [a] => rfl
      | a :: b :: v => simp [codeWord?, hC.isLetter_eq_false (hv a List.mem_cons_self)]
  nil := rfl

theorem carries_connective? (hC : IsOuter C) (c : Char) : CarriesValue C (connective? c) := by
  have hsplit (t : Text) : connective? c t = if atWordEdge (some c) t = true then
      anyWord? ["from", "in"] t >>= fun t => blanks? t >>= codeWord? else none := by
    rw [connective?]
    cases atWordEdge (some c) t <;> rfl
  have hcode : CarriesValue C fun t =>
      anyWord? ["from", "in"] t >>= fun t => blanks? t >>= codeWord? :=
    (carries_anyWord? hC rfl).bind (Carries.blanks (carries_codeWord? hC)).append
  refine ⟨fun t v hv => ?_, ?_⟩
  · rw [hsplit, hsplit, atWordEdge_append hC hv, hcode.append t v hv, Option.map_id', Option.map_id']
  · rw [hsplit, hcode.nil, ite_self]

theorem carries_lastConnective? (hC : IsOuter C) (c : Char) : CarriesValue C (lastConnective? c) where
  append t v hv := by
    rw [Option.map_id']
    induction t generalizing c with
    | nil =>
      induction v generalizing c with
      | nil => rfl
      | cons d v ih =>
        have hrest : lastConnective? d v = none := ih (List.forall_mem_cons.mp hv).2 d
        rw [List.nil_append, lastConnective?_cons, hrest, ite_self, Option.none_or,
          (carries_connective? hC c).eq_none hv]
        rfl
    | cons d t ih =>
      have hhere := (carries_connective? hC c).append (d :: t) v hv
      rw [Option.map_id', List.cons_append] at hhere
      rw [List.cons_append, lastConnective?_cons, lastConnective?_cons, hhere, ih]
  nil := rfl

theorem overlooks_countryCode? (hC : IsOuter C) : Overlooks C countryCode? :=
  .after hC rfl (carries_lastConnective? hC 'r')

end AskTable.Phrase
