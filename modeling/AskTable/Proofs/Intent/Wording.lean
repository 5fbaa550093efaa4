import AskTable.Proofs.Intent.Distinction
import AskTable.Proofs.Intent.Domain
import AskTable.Proofs.Intent.Priority
import AskTable.Proofs.Text.Caseless
/-!
# Wording that does not matter

A rule asks for keywords and phrases. Each of them begins and ends with a character of a word, so
blanks around a question, or a mark behind its last sentence, change nothing for any rule. There is
one exception, because a point belongs to domains: a question that ends with its domain asks for
another domain when it has a point behind it.

## Main definitions

* `Ignores` - what is found out about a text does not depend on what stands around it
* `AsksForLastDomain` - the text asks for the emails of the domain with which it ends

## Main results

* `heuristicSql_between_blanks` - neither the case of letters nor blanks around a question matter
* `heuristicSql_concat_mark_iff` - the questions whose last mark matters
-/

namespace AskTable

open Phrase (IsOuter)
open Text (includes includesAny isBlank isWord)

variable {α β γ : Type} {C : Char → Prop} {t u v part : Text} {parts : List Text} {rule : Rule}
  {mark : Char}

/-! ## Keywords and phrases -/

/-- What is found out about a text is the same with and without what stands around it. -/
def Ignores (C : Char → Prop) (f : Text → β) : Prop :=
  ∀ u v t, (∀ c ∈ u, C c) → (∀ c ∈ v, C c) → f (u ++ (t ++ v)) = f t

theorem Ignores.map {f : Text → α} (h : Ignores C f) (g : α → β) : Ignores C fun t => g (f t) :=
  fun u v t hu hv => congrArg g (h u v t hu hv)

theorem Ignores.map₂ {f : Text → α} {f' : Text → β} (h : Ignores C f) (h' : Ignores C f')
    (g : α → β → γ) : Ignores C fun t => g (f t) (f' t) :=
  fun u v t hu hv => congrArg₂ g (h u v t hu hv) (h' u v t hu hv)

theorem Ignores.and {f f' : Text → Bool} (h : Ignores C f) (h' : Ignores C f') :
    Ignores C fun t => f t && f' t :=
  h.map₂ h' (· && ·)

/-- Does the text begin and end with a character of a word? -/
def isKeyword (part : Text) : Bool := part.head?.any isWord && part.getLast?.any isWord

/-- A keyword is in a text with and without what stands around it. -/
theorem ignores_includes (hC : IsOuter C) (hpart : isKeyword part = true) :
    Ignores C fun t => includes t part := by
  intro u v t hu hv
  simp only [isKeyword, Bool.and_eq_true, Option.any_eq_true] at hpart
  obtain ⟨⟨first, hfirst, hfirstWord⟩, last, hlast, hlastWord⟩ := hpart
  have hnotMem {c : Char} {w : Text} (hword : isWord c = true) (hw : ∀ c ∈ w, C c) : c ∉ w :=
    fun hmem => absurd hword (by rw [hC.isWord_eq_false c (hw c hmem)]; exact Bool.false_ne_true)
  -- A keyword may have blanks in its middle, so it is only its ends that the blanks lack.
  have hframe : Text.IsFrame u v part := by
    refine Text.isFrame_of_ends ?_ (fun c hc => ?_) (fun c hc => ?_)
    · rintro rfl
      cases hfirst
    · obtain rfl := Option.some.inj (hfirst.symm.trans hc)
      exact hnotMem hfirstWord hu
    · obtain rfl := Option.some.inj (hlast.symm.trans hc)
      exact hnotMem hlastWord hv
  have hsame := hframe.includes_eq t
  rwa [List.append_assoc] at hsame

theorem ignores_includesAny (hC : IsOuter C) (hparts : parts.all isKeyword = true) :
    Ignores C fun t => includesAny t parts := by
  induction parts with
  | nil => exact fun _ _ _ _ _ => rfl
  | cons part parts ih =>
    rw [List.all_cons, Bool.and_eq_true] at hparts
    exact (ignores_includes hC hparts.1).map₂ (ih hparts.2) (· || ·)

theorem ignores_leftmost? {phrase : Text → Option β} (h : Phrase.Overlooks C phrase) :
    Ignores C (Phrase.leftmost? phrase) :=
  fun _ _ t hu hv => h.leftmost?_eq hu hv t

/-! ## Rules -/

namespace Rule

theorem ignores_when {condition : Text → Bool} (h : Ignores C condition) (intent : Intent) :
    Ignores C fun t => when (condition t) intent :=
  h.map (when · intent)

theorem ignores_rowLimit? (hC : IsOuter C) : Ignores C rowLimit? :=
  ignores_leftmost? (Phrase.overlooks_rowLimit? hC)

/-- A rule about names takes the name, and a limit if there is one. -/
theorem ignores_name {phrase : Text → Option α} (hC : IsOuter C) (h : Phrase.Overlooks C phrase)
    (pattern : α → NamePattern) : Ignores C fun t =>
      (Phrase.leftmost? phrase t).map fun name => Intent.nameFilter (pattern name) (rowLimit? t) :=
  (ignores_leftmost? h).map₂ (ignores_rowLimit? hC) fun name? rows =>
    name?.map fun name => Intent.nameFilter (pattern name) rows

/-- A rule about one phrase. -/
theorem ignores_phrase {phrase : Text → Option α} (h : Phrase.Overlooks C phrase)
    (intent : α → Intent) : Ignores C fun t => (Phrase.leftmost? phrase t).map intent :=
  (ignores_leftmost? h).map (Option.map intent)

/-- All rules but that about domains. -/
theorem ignores_accepts?_of_mem (hC : IsOuter C) (hrule : rule ∈ rules.take 10 ++ rules.drop 11) :
    Ignores C rule.accepts? := by
  have hkeyword {part : Text} (h : isKeyword part = true) := ignores_includes hC h
  have hkeywords {parts : List Text} (h : parts.all isKeyword = true) := ignores_includesAny hC h
  simp only [rules, List.take_succ_cons, List.take_zero, List.drop_succ_cons, List.drop_zero,
    List.cons_append, List.nil_append, List.mem_cons, List.not_mem_nil, or_false] at hrule
  -- One case for each rule, in the order in which the rules are tried.
  rcases hrule with rfl | rfl | rfl | rfl | rfl | rfl | rfl | rfl | rfl | rfl | rfl | rfl | rfl
  · exact ignores_when ((hkeywords (by decide)).and (hkeywords (by decide))) _
  · exact ignores_when ((hkeywords (by decide)).and (hkeyword (by decide))) _
  · exact ((hkeywords (by decide)).and (hkeyword (by decide))).map₂
      (ignores_leftmost? (Phrase.overlooks_timeWindow? hC))
      fun condition window => when condition (.sumBalance window)
  · exact ignores_when ((hkeyword (by decide)).and (hkeyword (by decide))) _
  · exact ignores_when (((hkeywords (by decide)).and (hkeyword (by decide))).and
      (hkeywords (by decide))) _
  · exact ignores_name hC (Phrase.overlooks_nameStart? hC) _
  · exact ignores_name hC (Phrase.overlooks_namePart? hC) _
  · exact ignores_name hC (Phrase.overlooks_nameEnd? hC) _
  · exact ignores_phrase (Phrase.overlooks_countryCode? hC) _
  · exact ignores_phrase (Phrase.overlooks_planName? hC) _
  · exact ignores_phrase (Phrase.overlooks_rowLimit? hC) _
  · exact ignores_when ((hkeywords (by decide)).and (hkeywords (by decide))) _
  · exact ignores_when (((hkeywords (by decide)).and (hkeyword (by decide))).and
      (hkeywords (by decide))) _

theorem ignores_accepts?_emailDomain (hC : IsOuter C)
    (hdomain : ∀ c, C c → Phrase.isDomain c = false) : Ignores C emailDomain.accepts? :=
  ignores_phrase (Phrase.overlooks_emailDomain? hC hdomain) _

end Rule

/-! ## Questions -/

theorem findSome?_accepts?_congr {group : List Rule}
    (h : ∀ rule ∈ group, rule.accepts? u = rule.accepts? t) :
    group.findSome? (·.accepts? u) = group.findSome? (·.accepts? t) := by
  induction group with
  | nil => rfl
  | cons rule group ih =>
    rw [List.forall_mem_cons] at h
    rw [List.findSome?_cons, List.findSome?_cons, h.1, ih h.2]

/-- The rule about domains matters only where no earlier rule accepts. -/
theorem classifyLowered_congr
    (hothers : ∀ rule ∈ rules.take 10 ++ rules.drop 11, rule.accepts? u = rule.accepts? t)
    (hdomain : (∀ earlier ∈ rules.take 10, earlier.accepts? t = none) →
      Rule.emailDomain.accepts? u = Rule.emailDomain.accepts? t) :
    classifyLowered u = classifyLowered t := by
  rw [List.forall_mem_append] at hothers
  have hsplit : rules = rules.take 10 ++ (.emailDomain :: rules.drop 11) := rfl
  rw [classifyLowered, classifyLowered, hsplit, List.findSome?_append, List.findSome?_append,
    findSome?_accepts?_congr hothers.1]
  cases hfound : (rules.take 10).findSome? (·.accepts? t) with
  | some intent => rfl
  | none =>
    rw [List.findSome?_cons, List.findSome?_cons, hdomain (List.findSome?_eq_none_iff.mp hfound),
      findSome?_accepts?_congr hothers.2]

theorem ignores_classifyLowered (hC : IsOuter C) (hdomain : ∀ c, C c → Phrase.isDomain c = false) :
    Ignores C classifyLowered := by
  intro u v t hu hv
  exact classifyLowered_congr
    (fun rule hrule => Rule.ignores_accepts?_of_mem hC hrule u v t hu hv)
    fun _ => Rule.ignores_accepts?_emailDomain hC hdomain u v t hu hv

/-! ## Blanks around a question -/

theorem isOuter_isBlank : IsOuter (isBlank · = true) where
  isWord_eq_false c hc := by
    have h := Text.of_forall_blankRanges (fun n => isWord (Char.ofNat n) = false)
      (by decide +kernel) hc
    rwa [Char.ofNat_toNat] at h
  ne_equals := by
    rintro c hc rfl
    exact absurd hc (by decide)

theorem isDomain_eq_false_of_isBlank {c : Char} (h : isBlank c = true) :
    Phrase.isDomain c = false := by
  refine Bool.eq_false_iff.mpr fun hdomain => ?_
  rw [Phrase.isBlank_eq_false_of_isDomain hdomain] at h
  cases h

/-- Neither the case of the letters of a question nor the blanks around it matter. -/
theorem heuristicSql_between_blanks {question question' u v : Text}
    (hcase : Text.equalsIgnoringCase question question' = true)
    (hu : ∀ c ∈ u, isBlank c = true) (hv : ∀ c ∈ v, isBlank c = true) :
    heuristicSql (u ++ question' ++ v) = heuristicSql question := by
  have hlower : Text.lowercase (u ++ question' ++ v) = u ++ (Text.lowercase question ++ v) := by
    rw [List.append_assoc, Text.lowercase_between (fun c hc => Text.isCaseless_of_isBlank (hu c hc))
      (fun c hc => Text.isCaseless_of_isBlank (hv c hc)),
      Text.lowercase_eq_of_equalsIgnoringCase hcase]
  rw [heuristicSql, heuristicSql, classify, classify, hlower,
    ignores_classifyLowered isOuter_isBlank (fun _ => isDomain_eq_false_of_isBlank) u v _ hu hv]

/-- A tab in front, a line end behind and other letters. -/
theorem heuristicSql_count_between_blanks :
    Text.equalsIgnoringCase "How many users?" "how MANY users?" = true ∧
      (∀ c ∈ ("\t" : Text), isBlank c = true) ∧ (∀ c ∈ ("\u2003\r\n" : Text), isBlank c = true) ∧
      heuristicSql ("\t" ++ "how MANY users?" ++ "\u2003\r\n") =
        heuristicSql "How many users?" := by
  have hcase : Text.equalsIgnoringCase "How many users?" "how MANY users?" = true := by decide
  have hu : ∀ c ∈ ("\t" : Text), isBlank c = true := List.all_eq_true.mp (by decide)
  have hv : ∀ c ∈ ("\u2003\r\n" : Text), isBlank c = true := List.all_eq_true.mp (by decide)
  exact ⟨hcase, hu, hv, heuristicSql_between_blanks hcase hu hv⟩

/-! ## Marks behind a question -/

/-- No mark that ends a sentence is a character of a word. -/
theorem isOuter_mark (hmark : mark ∈ ['.', '?', '!']) : IsOuter (· = mark) := by
  simp only [List.mem_cons, List.not_mem_nil, or_false] at hmark
  rcases hmark with rfl | rfl | rfl <;>
    exact ⟨fun c hc => by rw [hc]; decide, fun c hc => by rw [hc]; decide⟩

theorem isCaseless_mark (hmark : mark ∈ ['.', '?', '!']) : Text.IsCaseless mark := by
  simp only [List.mem_cons, List.not_mem_nil, or_false] at hmark
  rcases hmark with rfl | rfl | rfl <;> exact ⟨by decide, by decide⟩

theorem isDomain_eq_false_of_mark (hmark : mark ∈ ['.', '?', '!']) (hne : mark ≠ '.') :
    Phrase.isDomain mark = false := by
  simp only [List.mem_cons, List.not_mem_nil, or_false, hne, false_or] at hmark
  rcases hmark with rfl | rfl <;> decide

/-- The text asks for the emails of the domain with which it ends. No earlier rule accepts it. -/
def AsksForLastDomain (t : Text) : Prop :=
  (∀ earlier ∈ rules.take 10, earlier.accepts? t = none) ∧ Phrase.EndsWithDomain t

theorem accepts?_concat_mark (hmark : mark ∈ ['.', '?', '!'])
    (hrule : rule ∈ rules.take 10 ++ rules.drop 11) :
    rule.accepts? (t ++ [mark]) = rule.accepts? t :=
  Rule.ignores_accepts?_of_mem (isOuter_mark hmark) hrule [] [mark] t (List.forall_mem_nil _)
    (List.forall_mem_singleton.mpr rfl)

/-- Other texts ask for the same with a mark behind them. -/
theorem classifyLowered_concat_mark (hmark : mark ∈ ['.', '?', '!'])
    (hnot : ¬ (mark = '.' ∧ AsksForLastDomain t)) :
    classifyLowered (t ++ [mark]) = classifyLowered t := by
  refine classifyLowered_congr (fun rule => accepts?_concat_mark hmark) fun hearlier => ?_
  by_cases hpoint : mark = '.'
  · subst hpoint
    have hends : ¬ Phrase.EndsWithDomain t := fun hends => hnot ⟨rfl, hearlier, hends⟩
    exact congrArg (Option.map Intent.emailDomain)
      (Phrase.leftmost?_emailDomain?_concat_point_iff.mpr hends)
  · have hdomain : ∀ c, c = mark → Phrase.isDomain c = false := fun c hc =>
      hc ▸ isDomain_eq_false_of_mark hmark hpoint
    exact Rule.ignores_accepts?_emailDomain (isOuter_mark hmark) hdomain [] [mark] t
      (List.forall_mem_nil _) (List.forall_mem_singleton.mpr rfl)

/-- A text that asks for its last domain asks for another one with a point behind it. -/
theorem AsksForLastDomain.classifyLowered_concat_point (h : AsksForLastDomain t) :
    ∃ domain, classifyLowered (t ++ ['.']) = .emailDomain domain ∧
      classifyLowered t ≠ .emailDomain domain := by
  obtain ⟨hearlier, hends⟩ := h
  obtain ⟨domain, hdomain⟩ := hends.exists_leftmost?_concat_point
  have heleventh : rules[10]? = some Rule.emailDomain := rfl
  have hread : Rule.emailDomain.accepts? (t ++ ['.']) = some (.emailDomain domain) :=
    congrArg (Option.map Intent.emailDomain) hdomain
  refine ⟨domain, classifyLowered_eq_of_accepts? heleventh (fun earlier hmem => ?_) hread, ?_⟩
  · rw [accepts?_concat_mark List.mem_cons_self (List.mem_append_left _ hmem), hearlier _ hmem]
  · intro hsame
    obtain ⟨-, haccepts⟩ := (classifyLowered_eq_iff heleventh rfl).mp hsame
    obtain ⟨domain', hdomain', heq⟩ := Option.map_eq_some_iff.mp haccepts
    obtain rfl := Intent.emailDomain.inj heq
    exact Phrase.leftmost?_emailDomain?_concat_point_iff.mp (hdomain.trans hdomain'.symm) hends

/-- A mark behind a question does not matter, unless it is a point behind the domain that the
question asks for. Then the point is taken for a part of the domain. -/
theorem heuristicSql_concat_mark_iff (question : Text) (hmark : mark ∈ ['.', '?', '!']) :
    heuristicSql (question ++ [mark]) = heuristicSql question ↔
      ¬ (mark = '.' ∧ AsksForLastDomain (Text.lowercase question)) := by
  have hlower : Text.lowercase (question ++ [mark]) = Text.lowercase question ++ [mark] :=
    Text.lowercase_between (List.forall_mem_nil _)
      (List.forall_mem_singleton.mpr (isCaseless_mark hmark)) question
  rw [heuristicSql, heuristicSql, classify, classify, hlower]
  refine ⟨?_, fun hnot => congrArg Intent.toSql (classifyLowered_concat_mark hmark hnot)⟩
  rintro hsql ⟨rfl, hasks⟩
  obtain ⟨domain, hread, hne⟩ := hasks.classifyLowered_concat_point
  -- Other intents have other statements.
  rcases Intent.sqlText_inj (capturedIn_classifyLowered _) (capturedIn_classifyLowered _)
    (congrArg Sql.Statement.text hsql) with heq | ⟨hcounts, -⟩
  · exact hne (heq ▸ hread)
  · rw [hread] at hcounts
    rcases hcounts with h | h <;> cases h

/-- Behind a domain, a question mark is no part of it. -/
theorem heuristicSql_domain_concat_question_mark :
    '?' ∈ ['.', '?', '!'] ∧
      heuristicSql ("emails with domain gmail.com" ++ ['?']) =
        heuristicSql "emails with domain gmail.com" := by
  have hmark : '?' ∈ ['.', '?', '!'] := by decide
  refine ⟨hmark, (heuristicSql_concat_mark_iff _ hmark).mpr ?_⟩
  rintro ⟨h, -⟩
  exact absurd h (by decide)

/-- The point behind the domain is read as a part of it. -/
theorem not_forall_heuristicSql_concat_mark :
    ¬ ∀ (question : Text) (mark : Char), mark ∈ ['.', '?', '!'] →
      heuristicSql (question ++ [mark]) = heuristicSql question := by
  intro h
  have hpoint : heuristicSql "emails with domain gmail.com." ≠
      heuristicSql "emails with domain gmail.com" := by decide +kernel
  exact hpoint (h "emails with domain gmail.com" '.' (by decide))

end AskTable
