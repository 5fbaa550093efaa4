import AskTable.Proofs.Intent.Margin
/-!
# Domains of emails

A question names a domain behind an opening such as "emails with domain". The domain is the longest
word behind the opening that has only letters, digits, points and hyphens. As a point belongs to
domains, a point that ends the question belongs to a domain that stands right before it.

## Main definitions

* `Phrase.OpensDomain` - the words before a domain
* `Phrase.SaysDomain` - the opening and the domain
* `Phrase.EndsInDomain`, `Phrase.EndsWithDomain` - a domain, perhaps still empty, up to the end

## Main results

* `Phrase.emailDomain?_eq_some_iff` - the domain that is read
* `Phrase.overlooks_emailDomain?` - what is no part of a domain may stand around the text
* `Phrase.leftmost?_emailDomain?_concat_point_iff` - when a point behind the text does not matter
-/

namespace AskTable.Phrase

open Text (after? after?_eq_some_iff isBlank)

variable {C : Char → Prop} {t v opening rest domain : Text}

/-! ## The phrase -/

/-- The words before a domain: "email" or its plural, perhaps a word between, and "domain", with gaps.
-/
def OpensDomain (opening : Text) : Prop :=
  ∃ plural ∈ (["", "s"] : List Text), ∃ filler ∈ (["", "with", "having"] : List Text),
    ∃ gap inner gap', IsGap gap ∧ (∀ c ∈ inner, isBlank c = true) ∧ IsGap gap' ∧
      opening = "email" ++ (plural ++ (gap ++ (filler ++ (inner ++ ("domain" ++ gap')))))

/-- The text begins with an opening and a domain, which ends where the word ends. -/
def SaysDomain (t domain : Text) : Prop :=
  ∃ opening rest, OpensDomain opening ∧ t = opening ++ (domain ++ rest) ∧ domain ≠ [] ∧
    (∀ c ∈ domain, isDomain c = true) ∧ ∀ c ∈ rest.head?, isDomain c = false

/-- What is left behind a word that may be missing. -/
theorem exists_eq_append_getD (words : List Text) (t : Text) :
    ∃ word ∈ ("" : Text) :: words, t = word ++ (anyWord? words t).getD t := by
  cases h : anyWord? words t with
  | none => exact ⟨_, List.mem_cons_self, rfl⟩
  | some rest =>
    obtain ⟨word, hmem, hword⟩ := List.exists_of_findSome?_eq_some h
    exact ⟨word, List.mem_cons_of_mem _ hmem, after?_eq_some_iff.mp hword⟩

theorem isBlank_eq_false_of_isDomain {c : Char} (h : isDomain c = true) : isBlank c = false :=
  Text.isBlank_eq_false (toNat_of_isDomain h).1 (toNat_of_isDomain h).2

theorem IsGap.append_blanks {gap inner : Text} (h : IsGap gap)
    (hinner : ∀ c ∈ inner, isBlank c = true) : IsGap (gap ++ inner) :=
  ⟨List.append_ne_nil_of_left_ne_nil h.ne_nil _, List.forall_mem_append.mpr ⟨h.blank, hinner⟩⟩

/-- A plural is passed over, and nothing is where there is none. -/
theorem after?_s_getD {plural gap : Text} (hplural : plural ∈ (["", "s"] : List Text))
    (hgap : IsGap gap) (u : Text) :
    (after? "s" (plural ++ (gap ++ u))).getD (plural ++ (gap ++ u)) = gap ++ u := by
  simp only [List.mem_cons, List.not_mem_nil, or_false] at hplural
  rcases hplural with rfl | rfl
  · cases gap with
    | nil => exact absurd rfl hgap.ne_nil
    | cons c gap =>
      have hne : 's' ≠ c := by
        rintro rfl
        exact absurd (hgap.blank _ List.mem_cons_self) (by decide)
      have hnone : after? "s" (c :: (gap ++ u)) = none := if_neg hne
      rw [List.cons_append]
      exact congrArg (Option.getD · _) hnone
  · rfl

/-- The word between is passed over with the gaps around it. -/
theorem exists_blanks?_filler {gap filler inner : Text} (hgap : IsGap gap)
    (hfiller : filler ∈ (["", "with", "having"] : List Text))
    (hinner : ∀ c ∈ inner, isBlank c = true) (u : Text) :
    ∃ t, blanks? (gap ++ (filler ++ (inner ++ ("domain" ++ u)))) = some t ∧
      ((anyWord? ["with", "having"] t).getD t).dropWhile isBlank = "domain" ++ u := by
  have hdomain : areVisible ["domain"] = true := by decide
  have hvisible := isBlank_head_of_mem hdomain List.mem_cons_self u
  have hdrop : (inner ++ ("domain" ++ u)).dropWhile isBlank = "domain" ++ u :=
    (Text.span_append hinner hvisible).2
  simp only [List.mem_cons, List.not_mem_nil, or_false] at hfiller
  rcases hfiller with rfl | hword
  · -- Without a word between there is only one gap.
    refine ⟨"domain" ++ u, blanks?_eq_some_iff.mpr ⟨gap ++ inner, hgap.append_blanks hinner, ?_,
      hvisible⟩, ?_⟩
    · exact (List.append_assoc gap inner _).symm
    · exact Text.dropWhile_eq_self hvisible
  · have hmem : filler ∈ (["with", "having"] : List Text) := by simpa using hword
    refine ⟨filler ++ (inner ++ ("domain" ++ u)),
      blanks?_eq_some_iff.mpr ⟨gap, hgap, rfl, isBlank_head_of_mem (by decide) hmem _⟩, ?_⟩
    have hapart : AreApart ["with", "having"] := by decide
    rw [(anyWord?_eq_some_iff hapart).mpr ⟨filler, hmem, rfl⟩]
    exact hdrop

/-- A domain is read behind every opening. -/
theorem emailDomain?_of_opensDomain (h : OpensDomain opening)
    (hrest : ∀ c ∈ rest.head?, isBlank c = false) :
    emailDomain? (opening ++ rest) = (run? isDomain rest).map Prod.fst := by
  obtain ⟨plural, hplural, filler, hfiller, gap, inner, gap', hgap, hinner, hgap', rfl⟩ := h
  have hend : blanks? (gap' ++ rest) = some rest :=
    blanks?_eq_some_iff.mpr ⟨gap', hgap', rfl, hrest⟩
  obtain ⟨u, hu, hdomain⟩ := exists_blanks?_filler hgap hfiller hinner (gap' ++ rest)
  simp only [List.append_assoc]
  rw [emailDomain?, after?_eq_some_iff.mpr rfl]
  simp only [bind, Option.bind_some, after?_s_getD hplural hgap, hu, hdomain,
    after?_eq_some_iff.mpr rfl, hend]
  cases run? isDomain rest <;> rfl

/-- What is read for a domain was said. -/
theorem saysDomain_of_emailDomain? (h : emailDomain? t = some domain) : SaysDomain t domain := by
  simp only [emailDomain?, bind, Option.bind_eq_some_iff, Prod.exists, Option.some.injEq] at h
  obtain ⟨t₁, h₁, t₂, h₂, t₃, h₃, t₄, h₄, word, rest, hrun, rfl⟩ := h
  have hplural := exists_eq_append_getD ["s"] t₁
  rw [anyWord?, List.findSome?_singleton] at hplural
  obtain ⟨plural, hplural, ht₁⟩ := hplural
  obtain ⟨gap, hgap, hrest₁, -⟩ := blanks?_eq_some_iff.mp h₂
  obtain ⟨filler, hfiller, ht₂⟩ := exists_eq_append_getD ["with", "having"] t₂
  generalize (anyWord? ["with", "having"] t₂).getD t₂ = u at h₃ ht₂
  have hinner : u.takeWhile isBlank ++ u.dropWhile isBlank = u := List.takeWhile_append_dropWhile
  rw [after?_eq_some_iff.mp h₃] at hinner
  obtain ⟨gap', hgap', rfl, -⟩ := blanks?_eq_some_iff.mp h₄
  obtain ⟨hne, hchars, rfl, hend⟩ := run?_eq_some_iff.mp hrun
  refine ⟨_, rest, ⟨plural, hplural, filler, hfiller, gap, u.takeWhile isBlank, gap', hgap,
    List.all_eq_true.mp List.all_takeWhile, hgap', rfl⟩, ?_, hne, hchars, hend⟩
  rw [after?_eq_some_iff.mp h₁, ht₁, hrest₁, ht₂.trans (congrArg (filler ++ ·) hinner.symm)]
  simp only [List.append_assoc]

theorem emailDomain?_eq_some_iff : emailDomain? t = some domain ↔ SaysDomain t domain := by
  refine ⟨saysDomain_of_emailDomain?, ?_⟩
  rintro ⟨opening, rest, hopening, rfl, hne, hchars, hend⟩
  have hhead : ∀ c ∈ (domain ++ rest).head?, isBlank c = false := by
    intro c hc
    rw [List.head?_append_of_ne_nil _ hne] at hc
    exact isBlank_eq_false_of_isDomain (hchars c (List.mem_of_head? hc))
  rw [emailDomain?_of_opensDomain hopening hhead,
    run?_eq_some_iff.mpr ⟨hne, hchars, rfl, hend⟩]
  rfl

/-! ## What stands behind the text -/

/-- Characters of another kind behind a text are no part of what the text begins with. -/
theorem exists_of_append_eq {part : Text} (h : t ++ v = part ++ rest)
    (hlast : ∀ c ∈ part.getLast?, c ∉ v) : ∃ rest', t = part ++ rest' ∧ rest = rest' ++ v := by
  rcases List.append_eq_append_iff.mp h with ⟨more, rfl, hv⟩ | ⟨rest', ht, hrest⟩
  · cases more with
    | nil => exact ⟨[], by rw [List.append_nil, List.append_nil], hv.symm⟩
    | cons c more =>
      rw [List.getLast?_append_of_ne_nil _ (List.cons_ne_nil _ _)] at hlast
      have hmem := List.getLast_mem (List.cons_ne_nil c more)
      exact absurd (hv ▸ List.mem_append_left rest hmem)
        (hlast _ (List.getLast?_eq_some_getLast (List.cons_ne_nil c more)))
  · exact ⟨rest', ht, hrest⟩

theorem forall_head?_append_iff {p : Char → Bool} (hv : ∀ c ∈ v, p c = false) (rest : Text) :
    (∀ c ∈ (rest ++ v).head?, p c = false) ↔ ∀ c ∈ rest.head?, p c = false := by
  cases rest with
  | cons c rest => rfl
  | nil => exact iff_of_true (fun c hc => hv c (List.mem_of_head? hc)) nofun

/-- What is no part of a domain may stand behind the text. -/
theorem saysDomain_append_iff (hv : ∀ c ∈ v, isDomain c = false) :
    SaysDomain (t ++ v) domain ↔ SaysDomain t domain := by
  constructor
  · rintro ⟨opening, rest, hopening, h, hne, hchars, hend⟩
    rw [← List.append_assoc] at h
    have hlast : ∀ c ∈ (opening ++ domain).getLast?, c ∉ v := by
      intro c hc hmem
      rw [List.getLast?_append_of_ne_nil _ hne] at hc
      have hdomain := hchars c (List.mem_of_getLast? hc)
      rw [hv c hmem] at hdomain
      cases hdomain
    obtain ⟨rest', rfl, rfl⟩ := exists_of_append_eq h hlast
    exact ⟨opening, rest', hopening, List.append_assoc _ _ _, hne, hchars,
      (forall_head?_append_iff hv rest').mp hend⟩
  · rintro ⟨opening, rest, hopening, rfl, hne, hchars, hend⟩
    exact ⟨opening, rest ++ v, hopening, by simp only [List.append_assoc], hne, hchars,
      (forall_head?_append_iff hv rest).mpr hend⟩

theorem overlooks_emailDomain? (hC : IsOuter C) (hdomain : ∀ c, C c → isDomain c = false) :
    Overlooks C emailDomain? where
  carries := by
    refine ⟨fun t v hv => ?_, rfl⟩
    rw [Option.map_id']
    refine Option.ext fun domain => ?_
    rw [emailDomain?_eq_some_iff, emailDomain?_eq_some_iff,
      saysDomain_append_iff fun c hc => hdomain c (hv c hc)]
  ahead c t hc := by
    rw [emailDomain?, after?_cons_eq_none hC rfl hc]
    rfl

/-! ## A point behind the text -/

/-- The text is an opening and what a domain may begin with, up to the end. -/
def EndsInDomain (t domain : Text) : Prop :=
  ∃ opening, OpensDomain opening ∧ t = opening ++ domain ∧ ∀ c ∈ domain, isDomain c = true

/-- The first domain that the text names, or is about to name, ends the text. -/
def EndsWithDomain (t : Text) : Prop :=
  ∃ before rest domain, t = before ++ rest ∧ EndsInDomain rest domain ∧
    ∀ before' rest' domain', t = before' ++ rest' → SaysDomain rest' domain' →
      before.length ≤ before'.length

theorem OpensDomain.point_notMem (h : OpensDomain opening) : '.' ∉ opening := by
  obtain ⟨plural, hplural, filler, hfiller, gap, inner, gap', hgap, hinner, hgap', rfl⟩ := h
  have hblank {gap : Text} (h : ∀ c ∈ gap, isBlank c = true) : '.' ∉ gap := fun hmem =>
    absurd (h _ hmem) (by decide)
  have hplurals : ∀ plural ∈ (["", "s"] : List Text), '.' ∉ plural := by decide
  have hfillers : ∀ filler ∈ (["", "with", "having"] : List Text), '.' ∉ filler := by decide
  have hemail : '.' ∉ ("email" : Text) := by decide
  have hdomain : '.' ∉ ("domain" : Text) := by decide
  simp only [List.mem_append, not_or]
  exact ⟨hemail, hplurals _ hplural, hblank hgap.blank, hfillers _ hfiller, hblank hinner, hdomain,
    hblank hgap'.blank⟩

/-- The point becomes the end of a domain that ends the text. -/
theorem EndsInDomain.emailDomain?_concat (h : EndsInDomain t domain) :
    emailDomain? (t ++ ['.']) = some (domain ++ ['.']) := by
  obtain ⟨opening, hopening, rfl, hchars⟩ := h
  refine emailDomain?_eq_some_iff.mpr ⟨opening, [], hopening, ?_, List.concat_ne_nil _ _, ?_, nofun⟩
  · rw [List.append_nil, List.append_assoc]
  · exact List.forall_mem_append.mpr ⟨hchars, List.forall_mem_singleton.mpr rfl⟩

/-- Without the point there is the domain, unless it is still empty. -/
theorem EndsInDomain.emailDomain?_eq (h : EndsInDomain t domain) :
    emailDomain? t = if domain = [] then none else some domain := by
  obtain ⟨opening, hopening, rfl, hchars⟩ := h
  have hhead : ∀ c ∈ domain.head?, isBlank c = false := fun c hc =>
    isBlank_eq_false_of_isDomain (hchars c (List.mem_of_head? hc))
  rw [emailDomain?_of_opensDomain hopening hhead]
  split_ifs with hnil
  · subst hnil
    rfl
  · rw [run?_eq_some_iff.mpr ⟨hnil, hchars, (List.append_nil domain).symm, nofun⟩]
    rfl

/-- A point behind other texts is behind the domain. -/
theorem emailDomain?_concat_of_not (h : ∀ domain, ¬ EndsInDomain t domain) :
    emailDomain? (t ++ ['.']) = emailDomain? t := by
  refine Option.ext fun domain => ?_
  rw [emailDomain?_eq_some_iff, emailDomain?_eq_some_iff]
  constructor
  · rintro ⟨opening, rest, hopening, hsplit, hne, hchars, hend⟩
    rcases List.eq_nil_or_concat' rest with rfl | ⟨rest', c, rfl⟩
    · -- The domain goes on to the point, so that without it the text ended in a domain.
      obtain ⟨domain', c, rfl⟩ := (List.eq_nil_or_concat' domain).resolve_left hne
      rw [List.append_nil, ← List.append_assoc] at hsplit
      exact absurd ⟨opening, hopening, (List.append_inj' hsplit rfl).1,
        (List.forall_mem_append.mp hchars).1⟩ (h domain')
    · rw [← List.append_assoc, ← List.append_assoc] at hsplit
      obtain ⟨rfl, hc⟩ := List.append_inj' hsplit rfl
      obtain rfl := List.singleton_inj.mp hc
      cases rest' with
      | nil => exact absurd (hend '.' rfl) (by decide)
      | cons c rest' =>
        exact ⟨opening, c :: rest', hopening, List.append_assoc _ _ _, hne, hchars, hend⟩
  · rintro ⟨opening, rest, hopening, rfl, hne, hchars, hend⟩
    cases rest with
    | nil => exact absurd ⟨opening, hopening, by rw [List.append_nil], hchars⟩ (h domain)
    | cons c rest =>
      exact ⟨opening, c :: rest ++ ['.'], hopening, by simp only [List.append_assoc], hne, hchars,
        hend⟩

/-- No domain is named by an opening alone. -/
theorem leftmost?_ne_point {c : Char} (h : OpensDomain (c :: t)) :
    leftmost? emailDomain? t ≠ some ['.'] := by
  intro hpoint
  obtain ⟨rest, hsuffix, hread⟩ := exists_suffix_of_leftmost? hpoint
  have hpiece := ((isCapture_of_emailDomain? hread).of_suffix hsuffix).piece
  exact h.point_notMem (List.mem_cons_of_mem c (hpiece.mem (List.mem_singleton_self '.')))

theorem EndsInDomain.ne_nil (h : EndsInDomain t domain) : t ≠ [] := by
  obtain ⟨opening, ⟨_, _, _, _, _, _, _, _, _, _, rfl⟩, rfl, -⟩ := h
  exact List.append_ne_nil_of_left_ne_nil (List.append_ne_nil_of_left_ne_nil (by decide) _) _

/-- A point behind a domain that ends the text, or behind an opening that does, is seen. -/
theorem EndsInDomain.leftmost?_concat_ne {c : Char} (h : EndsInDomain (c :: t) domain) :
    leftmost? emailDomain? (c :: t ++ ['.']) ≠ leftmost? emailDomain? (c :: t) := by
  have hwith := h.emailDomain?_concat
  rw [List.cons_append] at hwith
  rw [List.cons_append, leftmost?, leftmost?, hwith, h.emailDomain?_eq]
  by_cases hnil : domain = []
  · subst hnil
    obtain ⟨opening, hopening, hsplit, -⟩ := h
    rw [List.append_nil] at hsplit
    rw [if_pos rfl]
    exact (leftmost?_ne_point (hsplit ▸ hopening)).symm
  · rw [if_neg hnil]
    simp

/-- Where no domain is named at the beginning of the text, the rest decides. -/
theorem endsWithDomain_cons_iff {c : Char} (hnot : ∀ domain, ¬ EndsInDomain (c :: t) domain)
    (hread : emailDomain? (c :: t) = none) : EndsWithDomain (c :: t) ↔ EndsWithDomain t := by
  constructor
  · rintro ⟨before, rest, domain, hsplit, hends, hfirst⟩
    cases before with
    | nil => exact absurd (hsplit ▸ hends) (hnot domain)
    | cons d before =>
      rw [List.cons_append, List.cons.injEq] at hsplit
      refine ⟨before, rest, domain, hsplit.2, hends, fun before' rest' domain' h hsays => ?_⟩
      exact Nat.le_of_succ_le_succ
        (hfirst (c :: before') rest' domain' (congrArg (c :: ·) h) hsays)
  · rintro ⟨before, rest, domain, rfl, hends, hfirst⟩
    refine ⟨c :: before, rest, domain, rfl, hends, fun before' rest' domain' h hsays => ?_⟩
    cases before' with
    | nil =>
      rw [← emailDomain?_eq_some_iff, ← List.nil_append rest', ← h, hread] at hsays
      cases hsays
    | cons d before' =>
      exact Nat.succ_le_succ (hfirst before' rest' domain' (List.cons.inj h).2 hsays)

/-- A point behind the text matters to the first domain only if this ends the text. -/
theorem leftmost?_emailDomain?_concat_point_iff :
    leftmost? emailDomain? (t ++ ['.']) = leftmost? emailDomain? t ↔ ¬ EndsWithDomain t := by
  induction t with
  | nil =>
    refine iff_of_true (by decide) ?_
    rintro ⟨before, rest, domain, hsplit, hends, -⟩
    exact hends.ne_nil (List.append_eq_nil_iff.mp hsplit.symm).2
  | cons c t ih =>
    -- The point is seen where nothing but a domain is left, unless a domain was found before.
    by_cases hends : ∃ domain, EndsInDomain (c :: t) domain
    · obtain ⟨domain, hends⟩ := hends
      exact iff_of_false hends.leftmost?_concat_ne fun hnot => hnot
        ⟨[], c :: t, domain, rfl, hends, fun _ _ _ _ _ => Nat.zero_le _⟩
    · rw [not_exists] at hends
      have hsame := emailDomain?_concat_of_not hends
      rw [List.cons_append] at hsame
      rw [List.cons_append, leftmost?, leftmost?, hsame]
      cases hread : emailDomain? (c :: t) with
      | none => exact ih.trans (not_congr (endsWithDomain_cons_iff hends hread).symm)
      | some domain =>
        refine iff_of_true rfl ?_
        rintro ⟨before, rest, domain', hsplit, hrest, hfirst⟩
        have hle := hfirst [] (c :: t) domain rfl (emailDomain?_eq_some_iff.mp hread)
        obtain rfl := List.length_eq_zero_iff.mp (Nat.le_zero.mp hle)
        exact hends domain' (hsplit ▸ hrest)

/-- With a point behind it, a text that ends with a domain names one. -/
theorem EndsWithDomain.exists_leftmost?_concat_point (h : EndsWithDomain t) :
    ∃ domain, leftmost? emailDomain? (t ++ ['.']) = some domain := by
  obtain ⟨before, rest, domain, rfl, hends, -⟩ := h
  refine Option.ne_none_iff_exists'.mp fun hnone => ?_
  have hread := leftmost?_eq_none_iff.mp hnone before (rest ++ ['.']) (List.append_assoc _ _ _)
  rw [hends.emailDomain?_concat] at hread
  cases hread

end AskTable.Phrase
