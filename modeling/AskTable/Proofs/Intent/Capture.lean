import AskTable.Intent.Rule
import Mathlib.Data.List.Infix
/-!
# What a question can put into an intent

A rule takes texts from a question: digits, words and domains. Whatever the question says, each of
them is a piece of the question in lower case, is not empty, and has only characters of its own
class. None of the classes has a quote, a backslash or a blank.

## Main definitions

* `Text.IsCapture` - a piece of a text, made of characters of one class
* `Text.IsAmount` - a piece of one to three digits
* `Intent.CapturedIn` - the texts of an intent are captured in a given text

## Main results

* `Phrase.exists_suffix_of_leftmost?` - a phrase that is found is recognised at some place
* `capturedIn_classify` - the texts of a classified intent are captured in the lowered question
-/

namespace AskTable

namespace Text

/-- A capture of the class `p` in `t`: a piece of `t` with characters of the class. -/
structure IsCapture (p : Char → Bool) (t word : Text) : Prop where
  piece : word <:+: t
  ne_nil : word ≠ []
  chars : ∀ c ∈ word, p c = true

/-- An amount in `t`: a piece of one to three digits. -/
structure IsAmount (t digits : Text) : Prop extends IsCapture Phrase.isDigit t digits where
  length_le : digits.length ≤ 3

variable {p : Char → Bool} {t rest word : Text}

theorem IsCapture.of_suffix (hr : rest <:+ t) (h : IsCapture p rest word) : IsCapture p t word :=
  ⟨h.piece.trans hr.isInfix, h.ne_nil, h.chars⟩

theorem IsCapture.mono {q : Char → Bool} (h : IsCapture p t word)
    (hpq : ∀ c, p c = true → q c = true) : IsCapture q t word :=
  ⟨h.piece, h.ne_nil, fun c hc => hpq c (h.chars c hc)⟩

theorem IsAmount.of_suffix (hr : rest <:+ t) (h : IsAmount rest word) : IsAmount t word :=
  ⟨h.toIsCapture.of_suffix hr, h.length_le⟩

theorem suffix_of_after? {start : Text} (h : after? start t = some rest) : rest <:+ t :=
  ⟨start, (after?_eq_some_iff.mp h).symm⟩

end Text

namespace Phrase

open Text (IsCapture IsAmount suffix_of_after?)

variable {α : Type} {p : Char → Bool} {t rest word : Text}

/-- A phrase that is found is recognised at some place. -/
theorem exists_suffix_of_leftmost? {phrase : Text → Option α} {a : α}
    (h : leftmost? phrase t = some a) : ∃ rest, rest <:+ t ∧ phrase rest = some a := by
  induction t with
  | nil => exact ⟨[], List.suffix_rfl, h⟩
  | cons c t ih =>
    rw [leftmost?] at h
    -- Either the phrase is recognised here, or the search goes on behind the character.
    cases hp : phrase (c :: t) with
    | some b =>
      rw [hp] at h
      exact ⟨c :: t, List.suffix_rfl, hp.trans h⟩
    | none =>
      rw [hp] at h
      obtain ⟨rest, hrest, ha⟩ := ih h
      exact ⟨rest, hrest.trans (List.suffix_cons c t), ha⟩

/-! ## Pieces of phrases

What a piece of a phrase leaves over is an end of the text, so that a capture in it is a capture in
the text. -/

theorem suffix_of_blanks? (h : blanks? t = some rest) : rest <:+ t := by
  cases t with
  | nil => simp [blanks?] at h
  | cons c t =>
    simp only [blanks?, Option.ite_none_right_eq_some, Option.some.injEq] at h
    obtain ⟨-, rfl⟩ := h
    exact (List.dropWhile_suffix _).trans (List.suffix_cons c t)

theorem suffix_of_anyWord? {words : List Text} (h : anyWord? words t = some rest) :
    rest <:+ t := by
  obtain ⟨start, -, hs⟩ := List.exists_of_findSome?_eq_some h
  exact suffix_of_after? hs

theorem isCapture_of_run? (h : run? p t = some (word, rest)) :
    IsCapture p t word ∧ rest <:+ t := by
  simp only [run?, Option.ite_none_left_eq_some, Option.some.injEq, Prod.mk.injEq,
    List.isEmpty_iff] at h
  obtain ⟨hne, rfl, rfl⟩ := h
  exact ⟨⟨(List.takeWhile_prefix p).isInfix, hne, List.all_eq_true.mp List.all_takeWhile⟩,
    List.dropWhile_suffix p⟩

theorem isAmount_of_amount? {digits : Text} (h : amount? t = some (digits, rest)) :
    IsAmount t digits ∧ rest <:+ t := by
  simp only [amount?, bind, Option.bind_eq_some_iff] at h
  obtain ⟨u, hu, ⟨w, v⟩, hw, v', hv', h⟩ := h
  simp only [Option.ite_none_right_eq_some, Option.some.injEq, Prod.mk.injEq] at h
  obtain ⟨hlen, rfl, rfl⟩ := h
  obtain ⟨hcap, hv⟩ := isCapture_of_run? hw
  have hu := suffix_of_blanks? hu
  exact ⟨⟨hcap.of_suffix hu, hlen⟩, ((suffix_of_blanks? hv').trans hv).trans hu⟩

/-! ## The phrases -/

theorem isAmount_of_timeWindow? {window : TimeWindow} (h : timeWindow? t = some window) :
    IsAmount t window.amount := by
  simp only [timeWindow?, bind, Option.bind_eq_some_iff] at h
  obtain ⟨u, hu, ⟨digits, v⟩, hv, h⟩ := h
  have ha := (isAmount_of_amount? hv).1.of_suffix (suffix_of_after? hu)
  split at h
  · obtain rfl := Option.some.inj h
    exact ha
  · obtain ⟨-, hw⟩ := Option.ite_none_right_eq_some.mp h
    obtain rfl := Option.some.inj hw
    exact ha

theorem isAmount_of_rowLimit? {digits : Text} (h : rowLimit? t = some digits) :
    IsAmount t digits := by
  simp only [rowLimit?, bind, Option.bind_eq_some_iff] at h
  obtain ⟨u, hu, ⟨w, v⟩, hv, _, _, h⟩ := h
  cases h
  exact (isAmount_of_amount? hv).1.of_suffix (suffix_of_anyWord? hu)

/-- One character is a capture of its class in any text that begins with it. -/
theorem isCapture_singleton {c : Char} (hc : p c = true) (h : t.head? = some c) :
    IsCapture p t [c] := by
  obtain ⟨u, rfl⟩ := List.head?_eq_some_iff.mp h
  refine ⟨(List.prefix_append [c] u).isInfix, List.cons_ne_nil c [], fun d hd => ?_⟩
  rwa [List.mem_singleton.mp hd]

theorem isCapture_of_nameStart? {c : Char} (h : nameStart? t = some c) :
    IsCapture isLetter t [c] := by
  simp only [nameStart?, bind, Option.bind_eq_some_iff] at h
  obtain ⟨t₁, h₁, t₂, h₂, t₃, h₃, t₄, h₄, t₅, h₅, t₆, h₆, h⟩ := h
  obtain ⟨hhead, hc⟩ := Option.filter_eq_some_iff.mp h
  -- Each piece leaves an end of what the piece before it has left.
  have hsuffix : t₆ <:+ t :=
    calc t₆ <:+ t₅ := suffix_of_blanks? h₆
      _ <:+ t₄ := suffix_of_after? h₅
      _ <:+ t₃ := suffix_of_blanks? h₄
      _ <:+ t₂ := suffix_of_anyWord? h₃
      _ <:+ t₁ := suffix_of_blanks? h₂
      _ <:+ t := suffix_of_after? h₁
  exact (isCapture_singleton hc hhead).of_suffix hsuffix

theorem isCapture_of_namePart? (h : namePart? t = some word) :
    IsCapture (fun c => isLetter c || isDigit c) t word := by
  simp only [namePart?, bind, Option.bind_eq_some_iff] at h
  obtain ⟨t₁, h₁, t₂, h₂, t₃, h₃, t₄, h₄, ⟨w, v⟩, hw, h⟩ := h
  obtain rfl := Option.some.inj h
  have hsuffix : t₄ <:+ t :=
    calc t₄ <:+ t₃ := suffix_of_blanks? h₄
      _ <:+ t₂ := suffix_of_after? h₃
      _ <:+ t₁ := suffix_of_blanks? h₂
      _ <:+ t := suffix_of_after? h₁
  exact (isCapture_of_run? hw).1.of_suffix hsuffix

theorem isCapture_of_nameEnd? (h : nameEnd? t = some word) : IsCapture isLetter t word := by
  simp only [nameEnd?, bind, Option.bind_eq_some_iff] at h
  obtain ⟨t₁, h₁, t₂, h₂, t₃, h₃, t₄, h₄, t₅, h₅, t₆, h₆, ⟨w, v⟩, hw, h⟩ := h
  obtain rfl := Option.some.inj h
  have hsuffix : t₆ <:+ t :=
    calc t₆ <:+ t₅ := suffix_of_blanks? h₆
      _ <:+ t₄ := suffix_of_after? h₅
      _ <:+ t₃ := suffix_of_blanks? h₄
      _ <:+ t₂ := suffix_of_after? h₃
      _ <:+ t₁ := suffix_of_blanks? h₂
      _ <:+ t := suffix_of_after? h₁
  exact (isCapture_of_run? hw).1.of_suffix hsuffix

theorem isCapture_of_connective? {before : Char} (h : connective? before t = some word) :
    IsCapture isLetter t word ∧ word.length = 2 := by
  rw [connective?] at h
  obtain ⟨_, -, h⟩ := Option.bind_eq_some_iff.mp h
  simp only [bind, Option.bind_eq_some_iff] at h
  obtain ⟨t₁, h₁, t₂, h₂, h⟩ := h
  have hsuffix := (suffix_of_blanks? h₂).trans (suffix_of_anyWord? h₁)
  split at h
  · rename_i a b u
    obtain ⟨hcond, hw⟩ := Option.ite_none_right_eq_some.mp h
    obtain rfl := Option.some.inj hw
    simp only [Bool.and_eq_true] at hcond
    -- The code is the two letters that the rest begins with.
    refine ⟨IsCapture.of_suffix hsuffix ⟨?_, List.cons_ne_nil a [b], ?_⟩, rfl⟩
    · exact (List.prefix_append [a, b] u).isInfix
    · simpa using hcond.1
  · cases h

theorem isCapture_of_lastConnective? {before : Char} (h : lastConnective? before t = some word) :
    IsCapture isLetter t word ∧ word.length = 2 := by
  induction t generalizing before with
  | nil => cases h
  | cons c t ih =>
    rw [lastConnective?] at h
    split at h
    · rename_i code hcode
      obtain rfl := Option.some.inj h
      obtain ⟨-, hlast⟩ := Option.ite_none_left_eq_some.mp hcode
      -- A connective further on comes first, and the search for it is one over an end of the text.
      obtain ⟨hcap, hlen⟩ := ih hlast
      exact ⟨hcap.of_suffix (List.suffix_cons c t), hlen⟩
    · exact isCapture_of_connective? h

theorem isCapture_of_countryCode? (h : countryCode? t = some word) :
    IsCapture isLetter t word ∧ word.length = 2 := by
  simp only [countryCode?, bind, Option.bind_eq_some_iff] at h
  obtain ⟨t₁, h₁, h⟩ := h
  obtain ⟨hcap, hlen⟩ := isCapture_of_lastConnective? h
  exact ⟨hcap.of_suffix (suffix_of_after? h₁), hlen⟩

theorem suffix_of_planWord? (h : planWord? t = some rest) : rest <:+ t := by
  unfold planWord? at h
  split at h
  · rename_i u hu
    obtain rfl := Option.some.inj h
    exact suffix_of_after? hu
  · simp only [bind, Option.bind_eq_some_iff] at h
    obtain ⟨t₁, h₁, t₂, h₂, h⟩ := h
    exact ((suffix_of_after? h).trans (suffix_of_blanks? h₂)).trans (suffix_of_after? h₁)

theorem isCapture_of_planAfterFiller? (h : planAfterFiller? t = some word) :
    IsCapture isLetter t word := by
  simp only [planAfterFiller?, bind, Option.bind_eq_some_iff] at h
  obtain ⟨t₁, h₁, t₂, h₂, t₃, h₃, ⟨w, v⟩, hw, h⟩ := h
  obtain rfl := Option.some.inj h
  have hsuffix : t₃ <:+ t :=
    ((suffix_of_blanks? h₃).trans (suffix_of_anyWord? h₂)).trans (suffix_of_blanks? h₁)
  exact (isCapture_of_run? hw).1.of_suffix hsuffix

theorem isCapture_of_planDirectly? (h : planDirectly? t = some word) :
    IsCapture isLetter t word := by
  simp only [planDirectly?, bind, Option.bind_eq_some_iff] at h
  obtain ⟨t₁, h₁, ⟨w, v⟩, hw, h⟩ := h
  obtain rfl := Option.some.inj h
  exact (isCapture_of_run? hw).1.of_suffix (suffix_of_blanks? h₁)

theorem isCapture_of_planName? (h : planName? t = some word) : IsCapture isLetter t word := by
  simp only [planName?, bind, Option.bind_eq_some_iff] at h
  obtain ⟨t₁, h₁, h⟩ := h
  have hsuffix := suffix_of_planWord? h₁
  -- The name stands behind a filler, or directly behind the word.
  split at h
  · rename_i name hname
    obtain rfl := Option.some.inj h
    exact (isCapture_of_planAfterFiller? hname).of_suffix hsuffix
  · exact (isCapture_of_planDirectly? h).of_suffix hsuffix

/-- Passing over an optional piece leaves an end of the text. -/
theorem suffix_getD {next? : Text → Option Text} (h : ∀ u, next? t = some u → u <:+ t) :
    (next? t).getD t <:+ t := by
  cases hn : next? t with
  | none => exact List.suffix_rfl
  | some u => exact h u hn

theorem isCapture_of_emailDomain? (h : emailDomain? t = some word) :
    IsCapture isDomain t word := by
  simp only [emailDomain?, bind, Option.bind_eq_some_iff] at h
  obtain ⟨t₁, h₁, t₂, h₂, t₃, h₃, t₄, h₄, ⟨w, v⟩, hw, h⟩ := h
  obtain rfl := Option.some.inj h
  -- The plural and the word between are optional, and blanks before the last word may be left out.
  have hsuffix : t₄ <:+ t :=
    calc t₄ <:+ t₃ := suffix_of_blanks? h₄
      _ <:+ _ := suffix_of_after? h₃
      _ <:+ _ := List.dropWhile_suffix _
      _ <:+ t₂ := suffix_getD fun _ => suffix_of_anyWord?
      _ <:+ _ := suffix_of_blanks? h₂
      _ <:+ t₁ := suffix_getD fun _ => suffix_of_after?
      _ <:+ t := suffix_of_after? h₁
  exact (isCapture_of_run? hw).1.of_suffix hsuffix

end Phrase

/-! ## Rules -/

open Text (IsCapture IsAmount)

/-- What the name has to look like was captured in `t`. The letter at the start of a name is put in
upper case. -/
def NamePattern.CapturedIn (t : Text) : NamePattern → Prop
  | .startsWith letter => ∃ c, IsCapture Phrase.isLetter t [c] ∧ letter = c.toUpper
  | .contains part => IsCapture (fun c => Phrase.isLetter c || Phrase.isDigit c) t part
  | .endsWith ending => IsCapture Phrase.isLetter t ending

/-- The texts of the intent were captured in `t`. The code of a country is put in upper case. -/
def Intent.CapturedIn (t : Text) : Intent → Prop
  | .sumBalance window => ∀ w ∈ window, IsAmount t w.amount
  | .nameFilter pattern rows => pattern.CapturedIn t ∧ ∀ digits ∈ rows, IsAmount t digits
  | .country code =>
    ∃ word, IsCapture Phrase.isLetter t word ∧ word.length = 2 ∧ code = word.map Char.toUpper
  | .plan name => IsCapture Phrase.isLetter t name
  | .emailDomain domain => IsCapture Phrase.isDomain t domain
  | .limit rows => IsAmount t rows
  | _ => True

namespace Rule

open Phrase (exists_suffix_of_leftmost?)

variable {t : Text}

theorem isAmount_of_rowLimit? : ∀ digits ∈ rowLimit? t, IsAmount t digits := by
  intro digits h
  obtain ⟨rest, hrest, hdigits⟩ := exists_suffix_of_leftmost? (Option.mem_def.mp h)
  exact (Phrase.isAmount_of_rowLimit? hdigits).of_suffix hrest

theorem capturedIn_of_when {condition : Bool} {intent intent' : Intent}
    (h : when condition intent = some intent') (hc : intent.CapturedIn t) :
    intent'.CapturedIn t := by
  obtain ⟨-, rfl⟩ := when_eq_some_iff.mp h
  exact hc

theorem capturedIn_of_sumBalance {intent : Intent} (h : sumBalance.accepts? t = some intent) :
    intent.CapturedIn t := by
  refine capturedIn_of_when h fun window hwindow => ?_
  obtain ⟨rest, hrest, hw⟩ := exists_suffix_of_leftmost? (Option.mem_def.mp hwindow)
  exact (Phrase.isAmount_of_timeWindow? hw).of_suffix hrest

theorem capturedIn_of_nameStartsWith {intent : Intent}
    (h : nameStartsWith.accepts? t = some intent) : intent.CapturedIn t := by
  obtain ⟨letter, hletter, rfl⟩ := Option.map_eq_some_iff.mp h
  obtain ⟨rest, hrest, hc⟩ := exists_suffix_of_leftmost? hletter
  have hcap := (Phrase.isCapture_of_nameStart? hc).of_suffix hrest
  exact ⟨⟨letter, hcap, rfl⟩, isAmount_of_rowLimit?⟩

theorem capturedIn_of_nameContains {intent : Intent}
    (h : nameContains.accepts? t = some intent) : intent.CapturedIn t := by
  obtain ⟨part, hpart, rfl⟩ := Option.map_eq_some_iff.mp h
  obtain ⟨rest, hrest, hp⟩ := exists_suffix_of_leftmost? hpart
  exact ⟨(Phrase.isCapture_of_namePart? hp).of_suffix hrest, isAmount_of_rowLimit?⟩

theorem capturedIn_of_nameEndsWith {intent : Intent}
    (h : nameEndsWith.accepts? t = some intent) : intent.CapturedIn t := by
  obtain ⟨ending, hending, rfl⟩ := Option.map_eq_some_iff.mp h
  obtain ⟨rest, hrest, he⟩ := exists_suffix_of_leftmost? hending
  exact ⟨(Phrase.isCapture_of_nameEnd? he).of_suffix hrest, isAmount_of_rowLimit?⟩

theorem capturedIn_of_country {intent : Intent} (h : country.accepts? t = some intent) :
    intent.CapturedIn t := by
  obtain ⟨word, hword, rfl⟩ := Option.map_eq_some_iff.mp h
  obtain ⟨rest, hrest, hw⟩ := exists_suffix_of_leftmost? hword
  obtain ⟨hcap, hlen⟩ := Phrase.isCapture_of_countryCode? hw
  exact ⟨word, hcap.of_suffix hrest, hlen, rfl⟩

theorem capturedIn_of_plan {intent : Intent} (h : plan.accepts? t = some intent) :
    intent.CapturedIn t := by
  obtain ⟨name, hname, rfl⟩ := Option.map_eq_some_iff.mp h
  obtain ⟨rest, hrest, hn⟩ := exists_suffix_of_leftmost? hname
  exact (Phrase.isCapture_of_planName? hn).of_suffix hrest

theorem capturedIn_of_emailDomain {intent : Intent}
    (h : emailDomain.accepts? t = some intent) : intent.CapturedIn t := by
  obtain ⟨domain, hdomain, rfl⟩ := Option.map_eq_some_iff.mp h
  obtain ⟨rest, hrest, hd⟩ := exists_suffix_of_leftmost? hdomain
  exact (Phrase.isCapture_of_emailDomain? hd).of_suffix hrest

theorem capturedIn_of_limit {intent : Intent} (h : limit.accepts? t = some intent) :
    intent.CapturedIn t := by
  obtain ⟨rows, hrows, rfl⟩ := Option.map_eq_some_iff.mp h
  exact isAmount_of_rowLimit? rows hrows

/-- What a rule takes from a text was captured in it. -/
theorem capturedIn_of_accepts? {rule : Rule} (hr : rule ∈ rules) {intent : Intent}
    (h : rule.accepts? t = some intent) : intent.CapturedIn t := by
  -- One case for each rule, in the order in which the rules are tried.
  simp only [rules, List.mem_cons, List.not_mem_nil, or_false] at hr
  rcases hr with rfl | rfl | rfl | rfl | rfl | rfl | rfl | rfl | rfl | rfl | rfl | rfl | rfl | rfl
  · exact capturedIn_of_when h trivial
  · exact capturedIn_of_when h trivial
  · exact capturedIn_of_sumBalance h
  · exact capturedIn_of_when h trivial
  · exact capturedIn_of_when h trivial
  · exact capturedIn_of_nameStartsWith h
  · exact capturedIn_of_nameContains h
  · exact capturedIn_of_nameEndsWith h
  · exact capturedIn_of_country h
  · exact capturedIn_of_plan h
  · exact capturedIn_of_emailDomain h
  · exact capturedIn_of_limit h
  · exact capturedIn_of_when h trivial
  · exact capturedIn_of_when h trivial

end Rule

theorem capturedIn_classifyLowered (t : Text) : (classifyLowered t).CapturedIn t := by
  unfold classifyLowered
  cases h : rules.findSome? (·.accepts? t) with
  | none => trivial
  | some intent =>
    obtain ⟨rule, hr, ha⟩ := List.exists_of_findSome?_eq_some h
    exact Rule.capturedIn_of_accepts? hr ha

/-- Whatever a question says, the texts of its intent were captured in its lower case. -/
theorem capturedIn_classify (question : Text) :
    (classify question).CapturedIn (Text.lowercase question) :=
  capturedIn_classifyLowered _

end AskTable
