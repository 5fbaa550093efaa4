import AskTable.Proofs.Sql.Token
import AskTable.Proofs.Text.Search
import Mathlib.Data.List.TakeWhile
/-!
# Tokens of arbitrary texts

Not every text is made of tokens, but every text can be cut into tokens and single characters that
belong to none. Nothing that looks like a name gets lost in this: a name that occurs in a text
occurs in one of its words, or in one of its literals.

## Main definitions

* `Sql.lex` - the tokens of a text, and the characters between them
* `Sql.Token.mentions` - a name occurs in a word or in a literal

## Main results

* `Sql.lex_eq_of_scan` - where a text is made of tokens, these are they
* `Sql.exists_mentions_of_includes` - a name in a text is in a token of the text
-/

namespace AskTable.Sql

open Text (after? after?_eq_some_iff includes includes_iff_infix infix_append_cons_iff isBlank)
open Phrase (isDigit isDigit_iff)

/-- The token that a text begins with, and what follows it. A character that begins no token stands
for itself. -/
def nextToken (c : Char) (t : Text) : Token × Text := (readToken? (c :: t)).getD (.mark [c], t)

/-- The tokens of a text of which the first `skip` characters belong to the token before. -/
def lexFrom : (skip : Nat) → Text → List Token
  | _, [] => []
  | skip + 1, _ :: t => lexFrom skip t
  | 0, c :: t =>
    if isBlank c then lexFrom 0 t
    else
      let (token, rest) := nextToken c t
      token :: lexFrom (t.length - rest.length) t

/-- The tokens of a text, and the characters that belong to none. -/
def lex (t : Text) : List Token := lexFrom 0 t

/-! ## One token -/

theorem isAlpha_eq_false_of_isDigit {c : Char} (h : isDigit c = true) : c.isAlpha = false := by
  have hbounds := isDigit_iff.mp h
  refine Bool.eq_false_iff.mpr fun halpha => ?_
  have := Text.isAlpha_iff.mp halpha
  omega

/-- What the reading of a token takes away: a literal, the longest run of characters of names, or
characters of which none is a letter. -/
theorem nextToken_cases {c : Char} {t rest : Text} {token : Token}
    (h : nextToken c t = (token, rest)) :
    (∃ content, c = '\'' ∧ token = .literal content ∧ readLiteral? t = some (content, rest)) ∨
    (∃ w, token = .word w ∧ c :: t = w ++ rest ∧ w ≠ [] ∧ ∀ d ∈ rest.head?, isNameChar d = false) ∨
    ∃ run, run ≠ [] ∧ c :: t = run ++ rest ∧ ∀ d ∈ run, d.isAlpha = false := by
  rw [nextToken, readToken?] at h
  -- A literal, digits, a word or a mark, in the order in which they are tried.
  split_ifs at h with hquote hdigit halpha
  · cases hliteral : readLiteral? t with
    | some p =>
      rw [hliteral] at h
      obtain ⟨rfl, rfl⟩ := Prod.mk.inj h
      exact Or.inl ⟨p.1, hquote, rfl, rfl⟩
    | none =>
      -- The quote of a literal that does not end stands for itself.
      rw [hliteral] at h
      obtain ⟨rfl, rfl⟩ := Prod.mk.inj h
      subst hquote
      exact Or.inr (Or.inr ⟨['\''], by simp, rfl, by simp⟩)
  · obtain ⟨rfl, rfl⟩ := Prod.mk.inj h
    refine Or.inr (Or.inr ⟨(c :: t).takeWhile isDigit, ?_, List.takeWhile_append_dropWhile.symm,
      fun d hd => isAlpha_eq_false_of_isDigit (List.mem_takeWhile_imp hd)⟩)
    rw [List.takeWhile_cons_of_pos hdigit]
    exact List.cons_ne_nil _ _
  · obtain ⟨rfl, rfl⟩ := Prod.mk.inj h
    refine Or.inr (Or.inl ⟨_, rfl, List.takeWhile_append_dropWhile.symm, ?_, fun d hd => ?_⟩)
    · rw [List.takeWhile_cons_of_pos (by simp [isNameChar, halpha])]
      exact List.cons_ne_nil _ _
    · have hnot := List.head?_dropWhile_not isNameChar (c :: t)
      rw [Option.mem_def.mp hd] at hnot
      exact hnot
  · cases hmark : marks.findSome? fun m => (after? m (c :: t)).map fun rest => (Token.mark m, rest) with
    | some p =>
      rw [hmark] at h
      obtain ⟨m, hm, hrest⟩ := List.exists_of_findSome?_eq_some hmark
      obtain ⟨r, hr, rfl⟩ := Option.map_eq_some_iff.mp hrest
      obtain ⟨rfl, rfl⟩ := Prod.mk.inj h
      have hletters : ∀ m ∈ marks, ∀ d ∈ m, d.isAlpha = false := by simp [marks]
      exact Or.inr (Or.inr ⟨m, ne_nil_of_mem_marks m hm, after?_eq_some_iff.mp hr, hletters m hm⟩)
    | none =>
      rw [hmark] at h
      obtain ⟨rfl, rfl⟩ := Prod.mk.inj h
      refine Or.inr (Or.inr ⟨[c], by simp, rfl, fun d hd => ?_⟩)
      rw [List.mem_singleton.mp hd]
      exact Bool.eq_false_iff.mpr halpha

theorem suffix_of_readLiteral? {t content rest : Text}
    (h : readLiteral? t = some (content, rest)) : rest <:+ t := by
  fun_induction readLiteral? t generalizing content with
  | case1 => cases h
  | case2 u =>
    obtain ⟨-, rfl⟩ := Prod.mk.inj (Option.some.inj h)
    exact List.suffix_cons _ u
  | case3 c u ih =>
    obtain ⟨⟨v, r⟩, hv, hr⟩ := Option.map_eq_some_iff.mp h
    obtain ⟨-, rfl⟩ := Prod.mk.inj hr
    exact ((ih hv).trans (List.suffix_cons c u)).trans (List.suffix_cons _ _)
  | case4 c u _ _ ih =>
    obtain ⟨⟨v, r⟩, hv, hr⟩ := Option.map_eq_some_iff.mp h
    obtain ⟨-, rfl⟩ := Prod.mk.inj hr
    exact (ih hv).trans (List.suffix_cons c u)

/-- What follows a part that is not empty is an end of the text without its first character. -/
theorem suffix_of_cons_eq_append {c : Char} {t run rest : Text} (hne : run ≠ [])
    (h : c :: t = run ++ rest) : rest <:+ t := by
  obtain ⟨d, run, rfl⟩ := List.exists_cons_of_ne_nil hne
  obtain ⟨-, rfl⟩ := List.cons.inj h
  exact List.suffix_append run rest

theorem suffix_nextToken (c : Char) (t : Text) : (nextToken c t).2 <:+ t := by
  rcases nextToken_cases (rfl : nextToken c t = ((nextToken c t).1, (nextToken c t).2)) with
    ⟨content, -, -, hliteral⟩ | ⟨w, -, hw, hne, -⟩ | ⟨run, hne, hrun, -⟩
  · exact suffix_of_readLiteral? hliteral
  · exact suffix_of_cons_eq_append hne hw
  · exact suffix_of_cons_eq_append hne hrun

/-! ## All tokens -/

theorem lexFrom_eq (skip : Nat) (t : Text) : lexFrom skip t = lex (t.drop skip) := by
  induction t generalizing skip with
  | nil => cases skip <;> rfl
  | cons c t ih =>
    cases skip with
    | zero => rfl
    | succ skip => exact ih skip

@[simp] theorem lex_nil : lex [] = [] := rfl

theorem lex_cons_of_isBlank {c : Char} (hc : isBlank c = true) (t : Text) :
    lex (c :: t) = lex t := by
  rw [lex, lexFrom, if_pos hc, lex]

theorem lex_cons {c : Char} (hc : isBlank c = false) (t : Text) :
    lex (c :: t) = (nextToken c t).1 :: lex (nextToken c t).2 := by
  have hrest := List.suffix_iff_eq_drop.mp (suffix_nextToken c t)
  rw [lex, lexFrom, hc, if_neg Bool.false_ne_true]
  simp only [lexFrom_eq, ← hrest]

/-- Where a text is made of tokens, these are they. -/
theorem lex_eq_of_scan {t : Text} {tokens : List Token} (h : scan t = some tokens) :
    lex t = tokens := by
  induction hlength : t.length using Nat.strongRecOn generalizing t tokens with
  | _ n ih =>
    cases t with
    | nil => simpa using h
    | cons c t =>
      cases hc : isBlank c with
      | true =>
        rw [scan_cons_of_isBlank hc] at h
        rw [lex_cons_of_isBlank hc]
        exact ih t.length (by simp [← hlength]) h rfl
      | false =>
        rw [scan_of_dropWhile_cons (List.dropWhile_cons_of_neg (by simp [hc]))] at h
        obtain ⟨⟨token, rest⟩, hread, hrest⟩ := Option.bind_eq_some_iff.mp h
        obtain ⟨tokens, hscan, rfl⟩ := Option.map_eq_some_iff.mp hrest
        rw [lex_cons hc, nextToken, hread, Option.getD_some]
        rw [ih rest.length (hlength ▸ length_readToken? hread) hscan rfl]

/-! ## Names in a text -/

/-- Does the name occur in the token? It can occur in a word or in a literal. -/
def Token.mentions (name : Text) : Token → Bool
  | .word w => includes w name
  | .literal content => includes content name
  | .number _ | .mark _ => false

/-- A name: a letter, and then characters of names. -/
structure IsName (name : Text) : Prop where
  head : ∃ c rest, name = c :: rest ∧ c.isAlpha = true
  chars : ∀ c ∈ name, isNameChar c = true

variable {name t rest content : Text}

/-- Characters of names do not begin a text whose first character is none. -/
theorem eq_nil_of_prefix_cons {start : Text} {c : Char}
    (hstart : ∀ d ∈ start, isNameChar d = true) (hc : isNameChar c = false)
    (hstarts : start <+: c :: t) : start = [] := by
  refine (List.prefix_cons_iff.mp hstarts).resolve_right ?_
  rintro ⟨start, rfl, -⟩
  rw [hstart c List.mem_cons_self] at hc
  cases hc

/-- A beginning of what stands behind a quote is a beginning of the literal, if its characters are
those of names. -/
theorem prefix_of_readLiteral? {start : Text} (hstart : ∀ c ∈ start, isNameChar c = true)
    (h : readLiteral? t = some (content, rest)) (hstarts : start <+: t) : start <+: content := by
  fun_induction readLiteral? t generalizing content start with
  | case1 => cases h
  | case2 u =>
    rw [eq_nil_of_prefix_cons hstart (by decide) hstarts]
    exact List.nil_prefix
  | case3 c u ih =>
    rw [eq_nil_of_prefix_cons hstart (by decide) hstarts]
    exact List.nil_prefix
  | case4 c u _ _ ih =>
    obtain ⟨⟨v, r⟩, hv, hr⟩ := Option.map_eq_some_iff.mp h
    obtain ⟨rfl, rfl⟩ := Prod.mk.inj hr
    rcases List.prefix_cons_iff.mp hstarts with rfl | ⟨start, rfl, htail⟩
    · exact List.nil_prefix
    · have hchars : ∀ d ∈ start, isNameChar d = true :=
        fun d hd => hstart d (List.mem_cons_of_mem c hd)
      exact (List.prefix_cons_inj c).mpr (ih hchars hv htail)

/-- A name behind a quote is in the literal or behind it. -/
theorem infix_of_readLiteral? (hname : IsName name)
    (h : readLiteral? t = some (content, rest)) (hfound : name <:+: t) :
    name <:+: content ∨ name <:+: rest := by
  obtain ⟨d, u, rfl, hd⟩ := hname.head
  -- A name that begins with the next character of the literal goes on inside of it.
  have hnext {w v : Text} (hv : readLiteral? w = some (v, rest)) (hstarts : u <+: w) :
      d :: u <:+: d :: v := by
    have hchars : ∀ c ∈ u, isNameChar c = true :=
      fun c hc => hname.chars c (List.mem_cons_of_mem d hc)
    exact ((List.prefix_cons_inj d).mpr (prefix_of_readLiteral? hchars hv hstarts)).isInfix
  fun_induction readLiteral? t generalizing content with
  | case1 => cases h
  | case2 w =>
    obtain ⟨-, rfl⟩ := Prod.mk.inj (Option.some.inj h)
    rcases List.infix_cons_iff.mp hfound with hstarts | hfound
    · obtain ⟨rfl, -⟩ := List.cons_prefix_cons.mp hstarts
      exact absurd hd (by decide)
    · exact Or.inr hfound
  | case3 c w ih =>
    obtain ⟨⟨v, r⟩, hv, hr⟩ := Option.map_eq_some_iff.mp h
    obtain ⟨rfl, rfl⟩ := Prod.mk.inj hr
    rcases List.infix_cons_iff.mp hfound with hstarts | hfound
    · obtain ⟨rfl, -⟩ := List.cons_prefix_cons.mp hstarts
      exact absurd hd (by decide)
    · -- The escaped character may be the first one of the name.
      rcases List.infix_cons_iff.mp hfound with hstarts | hfound
      · obtain ⟨rfl, htail⟩ := List.cons_prefix_cons.mp hstarts
        exact Or.inl (hnext hv htail)
      · exact (ih hv hfound).imp_left List.infix_cons
  | case4 c w _ _ ih =>
    obtain ⟨⟨v, r⟩, hv, hr⟩ := Option.map_eq_some_iff.mp h
    obtain ⟨rfl, rfl⟩ := Prod.mk.inj hr
    rcases List.infix_cons_iff.mp hfound with hstarts | hfound
    · obtain ⟨rfl, htail⟩ := List.cons_prefix_cons.mp hstarts
      exact Or.inl (hnext hv htail)
    · exact (ih hv hfound).imp_left List.infix_cons

/-- A name does not begin among characters of which none is a letter. -/
theorem infix_of_infix_append (hname : IsName name) {run : Text}
    (hrun : ∀ c ∈ run, c.isAlpha = false) (hfound : name <:+: run ++ rest) : name <:+: rest := by
  obtain ⟨d, u, rfl, hd⟩ := hname.head
  have hnot : d ∉ run := by
    intro hmem
    rw [hrun d hmem] at hd
    cases hd
  induction run with
  | nil => exact hfound
  | cons c run ih =>
    rcases List.infix_cons_iff.mp hfound with hstarts | hfound
    · obtain ⟨rfl, -⟩ := List.cons_prefix_cons.mp hstarts
      exact absurd List.mem_cons_self hnot
    · exact ih (fun c hc => hrun c (List.mem_cons_of_mem _ hc)) hfound
        fun hmem => hnot (List.mem_cons_of_mem c hmem)

/-- A name that stands in a word and what follows it is in one of the two. -/
theorem infix_of_infix_word (hname : IsName name) {w : Text}
    (hend : ∀ d ∈ rest.head?, isNameChar d = false) (hfound : name <:+: w ++ rest) :
    name <:+: w ∨ name <:+: rest := by
  cases rest with
  | nil => exact Or.inl (by simpa using hfound)
  | cons d rest =>
    have hd : d ∉ name := by
      intro hmem
      have hnot := hend d rfl
      rw [hname.chars d hmem] at hnot
      cases hnot
    exact ((infix_append_cons_iff hd).mp hfound).imp_right List.infix_cons

/-- A name in a text is in its first token or in what follows. -/
theorem mentions_or_infix_of_nextToken (hname : IsName name) {c : Char} {token : Token}
    (hnext : nextToken c t = (token, rest)) (hfound : name <:+: c :: t) :
    token.mentions name = true ∨ name <:+: rest := by
  rcases nextToken_cases hnext with
    ⟨content, rfl, rfl, hliteral⟩ | ⟨w, rfl, hw, -, hend⟩ | ⟨run, -, hrun, hletters⟩
  · rcases List.infix_cons_iff.mp hfound with hstarts | hfound
    · -- The quote of a literal is in no name.
      rw [eq_nil_of_prefix_cons hname.chars (by decide) hstarts]
      exact Or.inr List.nil_infix
    · exact (infix_of_readLiteral? hname hliteral hfound).imp_left includes_iff_infix.mpr
  · rw [hw] at hfound
    exact (infix_of_infix_word hname hend hfound).imp_left includes_iff_infix.mpr
  · rw [hrun] at hfound
    exact Or.inr (infix_of_infix_append hname hletters hfound)

/-- Characters of names are visible characters of ASCII. -/
theorem toNat_of_isNameChar {c : Char} (hc : isNameChar c = true) :
    0x20 < c.toNat ∧ c.toNat < 0x80 := by
  simp only [isNameChar, Bool.or_eq_true, decide_eq_true_eq] at hc
  rcases hc with ((halpha | hdigit) | rfl) | rfl
  · have := Text.isAlpha_iff.mp halpha
    omega
  · have := isDigit_iff.mp hdigit
    omega
  · decide
  · decide

theorem isNameChar_eq_false_of_isBlank {c : Char} (hc : isBlank c = true) :
    isNameChar c = false := by
  refine Bool.eq_false_iff.mpr fun hname => ?_
  have hvisible := toNat_of_isNameChar hname
  rw [Text.isBlank_eq_false hvisible.1 hvisible.2] at hc
  cases hc

/-- A name that occurs in a text occurs in one of its tokens. -/
theorem exists_mentions_of_includes (hname : IsName name) (h : includes t name = true) :
    ∃ token ∈ lex t, token.mentions name = true := by
  have hfound := includes_iff_infix.mp h
  clear h
  induction hlength : t.length using Nat.strongRecOn generalizing t with
  | _ n ih =>
    cases t with
    | nil =>
      obtain ⟨c, rest, rfl, -⟩ := hname.head
      cases List.infix_nil.mp hfound
    | cons c t =>
      cases hc : isBlank c with
      | true =>
        rw [lex_cons_of_isBlank hc]
        refine ih t.length (hlength ▸ Nat.lt_succ_self _) ?_ rfl
        rcases List.infix_cons_iff.mp hfound with hstarts | hfound
        · rw [eq_nil_of_prefix_cons hname.chars (isNameChar_eq_false_of_isBlank hc) hstarts]
          exact List.nil_infix
        · exact hfound
      | false =>
        rw [lex_cons hc]
        rcases mentions_or_infix_of_nextToken hname rfl hfound with hmentions | hrest
        · exact ⟨_, List.mem_cons_self, hmentions⟩
        · have hlt : (nextToken c t).2.length < (c :: t).length :=
            Nat.lt_succ_of_le (suffix_nextToken c t).length_le
          obtain ⟨token, htoken, hmentions⟩ := ih _ (hlength ▸ hlt) hrest rfl
          exact ⟨token, List.mem_cons_of_mem _ htoken, hmentions⟩

end AskTable.Sql
