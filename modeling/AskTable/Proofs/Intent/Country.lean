import AskTable.Proofs.Intent.Phrase
import AskTable.Proofs.Intent.Priority
import AskTable.Proofs.Text.Line
import Mathlib.Data.Option.Basic
/-!
# Which country a question names

A country is named behind a connective, on a line that has "user" somewhere before it. Only where the
connective begins counts: the blanks behind it, and with them the code, may go on with the next line.
Of several such lines the first decides, and on this line the last connective.

## Main definitions

* `Phrase.Connects` - a connective and a code, behind a given character
* `Phrase.NamesCountry` - a line on which a connective follows "user"
* `Phrase.CountryIn` - the code behind the last connective of the first such line

## Main results

* `Phrase.lastConnective?_eq_some_iff` - the last connective of what is left of a line
* `Phrase.leftmost?_countryCode?_eq_some_iff` - the search finds the country of the text
* `classify_eq_country_iff` - which questions ask for a country, and for which one
-/

namespace AskTable

namespace Phrase

open Text (isBlank atWordEdge IsLine)

variable {t code above line below : Text} {before : Option Char} {c : Char}

/-! ## Connectives -/

/-- Behind the character `before`, the text begins at the edge of a word with a connective, a gap and
a word of two letters. -/
structure Connects (before : Option Char) (t code : Text) : Prop where
  edge : atWordEdge before t = true
  reads : ∃ connective ∈ (["from", "in"] : List Text), ∃ gap rest, IsGap gap ∧
    t = connective ++ (gap ++ (code ++ rest)) ∧ atWordEdge code.getLast? rest = true
  length_eq : code.length = 2
  letter : ∀ c ∈ code, isLetter c = true

theorem connective?_eq_some_iff : connective? c t = some code ↔ Connects (some c) t code := by
  have hwords : AreApart ["from", "in"] := by decide
  simp only [connective?, bind, Option.bind_eq_some_iff, Option.guard_eq_some',
    anyWord?_eq_some_iff hwords]
  constructor
  · rintro ⟨-, hedge, u, ⟨connective, hmem, rfl⟩, v, hv, h⟩
    obtain ⟨gap, hgap, rfl, -⟩ := blanks?_eq_some_iff.mp hv
    split at h
    · rename_i a b rest
      obtain ⟨hcond, hcode⟩ := Option.ite_none_right_eq_some.mp h
      obtain rfl := Option.some.inj hcode
      simp only [Bool.and_eq_true] at hcond
      refine ⟨hedge, ⟨connective, hmem, gap, rest, hgap, rfl, hcond.2⟩, rfl, ?_⟩
      simpa using hcond.1
    · cases h
  · rintro ⟨hedge, ⟨connective, hmem, gap, rest, hgap, rfl, hend⟩, hlen, hletter⟩
    obtain ⟨a, b, rfl⟩ := List.length_eq_two.mp hlen
    have hletters : isLetter a = true ∧ isLetter b = true := by simpa using hletter
    have hhead : ∀ c ∈ ([a, b] ++ rest).head?, isBlank c = false := by
      intro c hc
      obtain rfl := Option.some.inj hc
      exact isBlank_of_isLetter hletters.1
    refine ⟨(), hedge, _, ⟨connective, hmem, rfl⟩, _,
      blanks?_eq_some_iff.mpr ⟨gap, hgap, rfl, hhead⟩, ?_⟩
    simp only [List.cons_append, List.nil_append]
    rw [if_pos]
    simpa [hletters] using hend

theorem Connects.ne_nil (h : Connects before t code) : t ≠ [] := by
  obtain ⟨connective, -, gap, rest, hgap, rfl, -⟩ := h.reads
  exact List.append_ne_nil_of_right_ne_nil _ (List.append_ne_nil_of_left_ne_nil hgap.ne_nil _)

/-- One place has one code. -/
theorem Connects.unique {code' : Text} (h : Connects before t code) (h' : Connects before t code') :
    code = code' := by
  cases before with
  | some c =>
    exact Option.some.inj
      ((connective?_eq_some_iff.mpr h).symm.trans (connective?_eq_some_iff.mpr h'))
  | none =>
    -- The start of a text is an edge just as the start of a line is.
    have hfeed {code : Text} (h : Connects none t code) : Connects (some '\n') t code :=
      ⟨h.edge, h.reads, h.length_eq, h.letter⟩
    exact Option.some.inj
      ((connective?_eq_some_iff.mpr (hfeed h)).symm.trans (connective?_eq_some_iff.mpr (hfeed h')))

/-! ## The last connective of a line -/

/-- Behind `c`, a connective with the code begins after `mid`, before the line ends. -/
def ConnectsAfter (c : Char) (t mid code : Text) : Prop :=
  ∃ rest, t = mid ++ rest ∧ '\n' ∉ mid ∧ Connects (c :: mid).getLast? rest code

theorem not_connectsAfter_nil (c : Char) (mid code : Text) : ¬ ConnectsAfter c [] mid code := by
  rintro ⟨rest, ht, -, h⟩
  exact h.ne_nil (List.nil_eq_append_iff.mp ht).2

theorem connectsAfter_here_iff : ConnectsAfter c t [] code ↔ connective? c t = some code := by
  rw [connective?_eq_some_iff]
  constructor
  · rintro ⟨rest, rfl, -, h⟩
    exact h
  · intro h
    exact ⟨t, rfl, List.not_mem_nil, h⟩

theorem connectsAfter_cons_iff {d e : Char} {mid : Text} :
    ConnectsAfter c (d :: t) (e :: mid) code ↔ e = d ∧ d ≠ '\n' ∧ ConnectsAfter d t mid code := by
  constructor
  · rintro ⟨rest, ht, hmid, h⟩
    obtain ⟨rfl, rfl⟩ := List.cons.inj ht
    obtain ⟨hd, hmid⟩ := not_or.mp (mt List.mem_cons.mpr hmid)
    exact ⟨rfl, Ne.symm hd, rest, rfl, hmid, by rwa [List.getLast?_cons_cons] at h⟩
  · rintro ⟨rfl, hd, rest, rfl, hmid, h⟩
    refine ⟨rest, rfl, List.not_mem_cons_of_ne_of_not_mem (Ne.symm hd) hmid, ?_⟩
    rwa [List.getLast?_cons_cons]

/-- The search goes on to the end of the line before it looks at a place. -/
theorem lastConnective?_cons (c d : Char) (t : Text) :
    lastConnective? c (d :: t) =
      (if d = '\n' then none else lastConnective? d t).or (connective? c (d :: t)) := by
  rw [lastConnective?]
  cases (if d = '\n' then none else lastConnective? d t) <;> rfl

theorem lastConnective?_eq_none_iff :
    lastConnective? c t = none ↔ ∀ mid code, ¬ ConnectsAfter c t mid code := by
  induction t generalizing c with
  | nil => exact iff_of_true rfl (not_connectsAfter_nil c)
  | cons d t ih =>
    rw [lastConnective?_cons, Option.or_eq_none_iff]
    constructor
    · rintro ⟨hlater, hhere⟩ mid code h
      cases mid with
      | nil =>
        rw [connectsAfter_here_iff.mp h] at hhere
        cases hhere
      | cons e mid =>
        obtain ⟨-, hd, h⟩ := connectsAfter_cons_iff.mp h
        rw [if_neg hd] at hlater
        exact ih.mp hlater mid code h
    · intro hall
      constructor
      · split_ifs with hd
        · rfl
        · exact ih.mpr fun mid code h => hall (d :: mid) code (connectsAfter_cons_iff.mpr ⟨rfl, hd, h⟩)
      · exact Option.eq_none_iff_forall_ne_some.mpr fun code hcode =>
          hall [] code (connectsAfter_here_iff.mpr hcode)

/-- The last connective that begins before the line ends. -/
theorem lastConnective?_eq_some_iff : lastConnective? c t = some code ↔
    ∃ mid, ConnectsAfter c t mid code ∧
      ∀ mid' code', ConnectsAfter c t mid' code' → mid'.length ≤ mid.length := by
  induction t generalizing c code with
  | nil =>
    refine iff_of_false (by simp [lastConnective?]) ?_
    rintro ⟨mid, h, -⟩
    exact not_connectsAfter_nil c mid code h
  | cons d t ih =>
    rw [lastConnective?_cons]
    cases hlater : (if d = '\n' then none else lastConnective? d t) with
    | none =>
      -- There is none further on, so the place at hand is the last, if it is one.
      have hhere : ∀ mid code, ConnectsAfter c (d :: t) mid code → mid = [] := by
        intro mid code h
        cases mid with
        | nil => rfl
        | cons e mid =>
          obtain ⟨-, hd, h⟩ := connectsAfter_cons_iff.mp h
          rw [if_neg hd] at hlater
          exact absurd h (lastConnective?_eq_none_iff.mp hlater mid code)
      rw [Option.none_or, ← connectsAfter_here_iff]
      constructor
      · intro h
        refine ⟨[], h, fun mid' code' h' => ?_⟩
        rw [hhere mid' code' h']
      · rintro ⟨mid, h, -⟩
        rwa [hhere mid code h] at h
    | some found =>
      obtain ⟨hd, hfound⟩ := Option.ite_none_left_eq_some.mp hlater
      rw [Option.some_or, ← hfound, ih]
      constructor
      · rintro ⟨mid, h, hlast⟩
        refine ⟨d :: mid, connectsAfter_cons_iff.mpr ⟨rfl, hd, h⟩, fun mid' code' h' => ?_⟩
        cases mid' with
        | nil => exact Nat.zero_le _
        | cons e mid' =>
          exact Nat.succ_le_succ (hlast mid' code' (connectsAfter_cons_iff.mp h').2.2)
      · rintro ⟨mid, h, hlast⟩
        have hcons {mid' code' : Text} (h' : ConnectsAfter d t mid' code') :
            (d :: mid').length ≤ mid.length :=
          hlast _ code' (connectsAfter_cons_iff.mpr ⟨rfl, hd, h'⟩)
        -- There is one further on, so that the last is further on, too.
        obtain ⟨mid₁, h₁, -⟩ := ih.mp hfound
        cases mid with
        | nil => cases hcons h₁
        | cons e mid =>
          exact ⟨mid, (connectsAfter_cons_iff.mp h).2.2, fun mid' code' h' =>
            Nat.le_of_succ_le_succ (hcons h')⟩

/-! ## The country of a text -/

/-- On the line stands "user", and behind it begins a connective with a code. -/
def NamesCountry (above line below : Text) : Prop :=
  ∃ left mid right code, line = left ++ ("user" ++ (mid ++ right)) ∧
    Connects (above ++ (left ++ ("user" ++ mid))).getLast? (right ++ below) code

/-- The line is the first of the text that names a country. -/
structure IsFirstNaming (t above line below : Text) : Prop where
  isLine : IsLine t above line below
  names : NamesCountry above line below
  first : ∀ above' line' below', IsLine t above' line' below' →
    NamesCountry above' line' below' → above.length ≤ above'.length

/-- The last connective that begins on the line has the code. -/
def ConnectsLast (above line below code : Text) : Prop :=
  ∃ left right, line = left ++ right ∧ Connects (above ++ left).getLast? (right ++ below) code ∧
    ∀ left' right' code', line = left' ++ right' →
      Connects (above ++ left').getLast? (right' ++ below) code' → left'.length ≤ left.length

/-- The code is that of the last connective on the first line that names a country. -/
def CountryIn (t code : Text) : Prop :=
  ∃ above line below, IsFirstNaming t above line below ∧ ConnectsLast above line below code

theorem ConnectsLast.unique {code' : Text} (h : ConnectsLast above line below code)
    (h' : ConnectsLast above line below code') : code = code' := by
  obtain ⟨left, right, rfl, hconnects, hlast⟩ := h
  obtain ⟨left', right', heq, hconnects', hlast'⟩ := h'
  have hlen := Nat.le_antisymm (hlast' _ _ _ rfl hconnects) (hlast _ _ _ heq hconnects')
  obtain ⟨rfl, rfl⟩ := List.append_inj heq hlen
  exact hconnects.unique hconnects'

theorem CountryIn.unique {code' : Text} (h : CountryIn t code) (h' : CountryIn t code') :
    code = code' := by
  obtain ⟨above, line, below, hfirst, hlast⟩ := h
  obtain ⟨above', line', below', hfirst', hlast'⟩ := h'
  have hlen := Nat.le_antisymm (hfirst.first _ _ _ hfirst'.isLine hfirst'.names)
    (hfirst'.first _ _ _ hfirst.isLine hfirst.names)
  obtain ⟨rfl, rfl, rfl⟩ := hfirst.isLine.unique hfirst'.isLine hlen
  exact hlast.unique hlast'

theorem countryCode?_eq_some_iff : countryCode? t = some code ↔
    ∃ u, t = "user" ++ u ∧ lastConnective? 'r' u = some code := by
  simp only [countryCode?, bind, Option.bind_eq_some_iff, Text.after?_eq_some_iff]

/-- Behind "user" stands its last letter. -/
theorem getLast?_append_user (a mid : Text) :
    (a ++ ("user" ++ mid)).getLast? = ('r' :: mid).getLast? := by
  have hsplit : a ++ ("user" ++ mid) = (a ++ "use".toList) ++ 'r' :: mid := by
    rw [List.append_assoc]
    rfl
  rw [hsplit, List.getLast?_append_of_ne_nil _ (List.cons_ne_nil _ _)]

/-- A line that names a country has a place where a country is read. -/
theorem NamesCountry.exists_countryCode? (h : NamesCountry above line below)
    (hline : IsLine t above line below) : ∃ left rest code, t = (above ++ left) ++ rest ∧
      left.length ≤ line.length ∧ countryCode? rest = some code := by
  obtain ⟨left, mid, right, code, rfl, hconnects⟩ := h
  have hmid : '\n' ∉ mid := by
    refine fun hmem => hline.feed_notMem ?_
    simp [hmem]
  rw [← List.append_assoc, getLast?_append_user] at hconnects
  have hafter : ConnectsAfter 'r' (mid ++ (right ++ below)) mid code :=
    ⟨right ++ below, rfl, hmid, hconnects⟩
  -- There is a connective behind this "user", though the one that is read may come later.
  have hsome : lastConnective? 'r' (mid ++ (right ++ below)) ≠ none := fun hnone =>
    lastConnective?_eq_none_iff.mp hnone mid code hafter
  obtain ⟨found, hfound⟩ := Option.ne_none_iff_exists'.mp hsome
  refine ⟨left, "user".toList ++ (mid ++ (right ++ below)), found, ?_, ?_,
    countryCode?_eq_some_iff.mpr ⟨_, rfl, hfound⟩⟩
  · rw [hline.text_eq]
    simp only [List.append_assoc]
  · simp

/-- The last connective behind a "user" is the last of its line. -/
theorem connectsLast_of_forall_le {left mid right : Text}
    (hfeed : '\n' ∉ left ++ ("user" ++ (mid ++ right)))
    (hconnects : Connects ('r' :: mid).getLast? (right ++ below) code)
    (hmax : ∀ mid' code', ConnectsAfter 'r' (mid ++ (right ++ below)) mid' code' →
      mid'.length ≤ mid.length) :
    ConnectsLast above (left ++ ("user" ++ (mid ++ right))) below code := by
  refine ⟨left ++ ("user" ++ mid), right, by simp only [List.append_assoc],
    by rwa [← List.append_assoc, getLast?_append_user], ?_⟩
  intro left' right' code' heq hconnects'
  by_contra hlt
  -- A later connective on the line would be one behind the same "user".
  have hlonger : left ++ ("user".toList ++ mid) <+: left' := by
    refine List.prefix_of_prefix_length_le ⟨right, ?_⟩ ⟨right', heq.symm⟩
      (Nat.le_of_lt (Nat.lt_of_not_le hlt))
    simp only [List.append_assoc]
  obtain ⟨extra, rfl⟩ := hlonger
  obtain rfl : right = extra ++ right' := by
    simpa only [List.append_assoc, List.append_cancel_left_eq] using heq
  have hmid : '\n' ∉ mid ++ extra := by
    refine fun hmem => hfeed ?_
    rcases List.mem_append.mp hmem with hmem | hmem <;> simp [hmem]
  have hafter : ConnectsAfter 'r' (mid ++ (extra ++ right' ++ below)) (mid ++ extra) code' := by
    refine ⟨right' ++ below, by simp only [List.append_assoc], hmid, ?_⟩
    rwa [List.append_assoc left, List.append_assoc "user".toList, ← List.append_assoc above,
      getLast?_append_user] at hconnects'
  have hle := hmax _ _ hafter
  simp only [List.length_append] at hle hlt
  omega

/-- The first place where a country is read lies on the first line that names one. -/
theorem countryIn_of_standsFirst
    (h : StandsFirst (fun t code => countryCode? t = some code) t code) : CountryIn t code := by
  obtain ⟨before, rest, rfl, hcode, hfirst⟩ := h
  obtain ⟨u, rfl, hlast⟩ := countryCode?_eq_some_iff.mp hcode
  obtain ⟨mid, ⟨tail, rfl, hmid, hconnects⟩, hmax⟩ := lastConnective?_eq_some_iff.mp hlast
  have huser : '\n' ∉ ("user".toList ++ mid) := List.not_mem_append (by decide) hmid
  obtain ⟨above, left, right, below, rfl, rfl, hline⟩ := Text.exists_isLine huser before tail
  simp only [List.append_assoc] at hline hfirst ⊢
  have hplace : Connects (above ++ (left ++ ("user" ++ mid))).getLast? (right ++ below) code := by
    rwa [← List.append_assoc, getLast?_append_user]
  refine ⟨above, _, below, ⟨hline, ⟨left, mid, right, code, rfl, hplace⟩, ?_⟩,
    connectsLast_of_forall_le hline.feed_notMem hconnects hmax⟩
  intro above' line' below' hline' hnames
  by_contra hlt
  -- A line further up would have a place before the first.
  obtain ⟨left', rest', code', htext, hlen, hread⟩ := hnames.exists_countryCode? hline'
  have hle := hfirst _ _ _ htext hread
  have habove := hline'.length_lt hline (Nat.lt_of_not_le hlt)
  simp only [List.length_append] at hle habove
  omega

/-- The search finds the country of the text. -/
theorem leftmost?_countryCode?_eq_some_iff :
    leftmost? countryCode? t = some code ↔ CountryIn t code := by
  have hsearch {code : Text} : leftmost? countryCode? t = some code → CountryIn t code := by
    rw [leftmost?_eq_some_iff fun _ _ => Iff.rfl]
    exact countryIn_of_standsFirst
  refine ⟨hsearch, fun h => ?_⟩
  -- Something is found on the line that names a country, and there is only one country.
  obtain ⟨above, line, below, hfirst, -⟩ := id h
  obtain ⟨left, rest, found, htext, -, hread⟩ := hfirst.names.exists_countryCode? hfirst.isLine
  have hsome : leftmost? countryCode? t ≠ none := by
    intro hnone
    have hplace := leftmost?_eq_none_iff.mp hnone _ _ htext
    rw [hread] at hplace
    cases hplace
  obtain ⟨code', hcode'⟩ := Option.ne_none_iff_exists'.mp hsome
  rw [hcode', (hsearch hcode').unique h]

theorem CountryIn.isUpper (h : CountryIn t code) :
    (code.map Char.toUpper).length = 2 ∧ ∀ c ∈ code.map Char.toUpper, c.isUpper = true := by
  obtain ⟨above, line, below, -, left, right, -, hconnects, -⟩ := h
  refine ⟨by rw [List.length_map, hconnects.length_eq], fun c hc => ?_⟩
  obtain ⟨d, hd, rfl⟩ := List.mem_map.mp hc
  have hletter := hconnects.letter d hd
  have hascii : d.toNat < 0x80 := (toNat_of_isDomain (isDomain_of_isLetter hletter)).2
  exact Text.of_forall_ascii (fun d => isLetter d = true → d.toUpper.isUpper = true)
    (by decide +kernel) hascii hletter

end Phrase

open Phrase (CountryIn NamesCountry)
open Text (IsLine lowercase)

/-- A question asks for a country exactly when none of the rules before accepts it and its lower case
names a country. The code is two capital letters of ASCII, those behind the last connective on the
first line that has "user" and a connective behind it. Without such a line, no country is asked
for. -/
theorem classify_eq_country_iff (question code : Text) :
    (classify question = .country code ↔
      (∀ earlier ∈ rules.take 8, earlier.accepts? (lowercase question) = none) ∧
        ∃ word, CountryIn (lowercase question) word ∧ code = word.map Char.toUpper) ∧
    (classify question = .country code → code.length = 2 ∧ ∀ c ∈ code, c.isUpper = true) ∧
    ((∀ above line below, IsLine (lowercase question) above line below →
      ¬ NamesCountry above line below) → classify question ≠ .country code) := by
  have hninth : rules[8]? = some Rule.country := rfl
  have hiff : classify question = .country code ↔
      (∀ earlier ∈ rules.take 8, earlier.accepts? (lowercase question) = none) ∧
        ∃ word, CountryIn (lowercase question) word ∧ code = word.map Char.toUpper := by
    refine (classifyLowered_eq_iff hninth rfl).trans (and_congr_right fun _ => ?_)
    refine Option.map_eq_some_iff.trans (exists_congr fun word => ?_)
    exact and_congr Phrase.leftmost?_countryCode?_eq_some_iff
      ⟨fun h => (Intent.country.inj h).symm, fun h => congrArg Intent.country h.symm⟩
  refine ⟨hiff, fun h => ?_, fun hnone h => ?_⟩
  · obtain ⟨-, word, hword, rfl⟩ := hiff.mp h
    exact hword.isUpper
  · obtain ⟨-, word, ⟨above, line, below, hfirst, -⟩, -⟩ := hiff.mp h
    exact hnone above line below hfirst.isLine hfirst.names

/-- Of three lines, the first has no connective, and the second has two. The name of a city is no
code. -/
theorem classify_eq_country_last :
    classify "Every user\nand all users in us or in de\nand users in fr" = .country "DE" ∧
      ("DE".toList.length = 2 ∧ ∀ c ∈ "DE".toList, c.isUpper = true) ∧
      classify "Users in Rome" ≠ .country "RO" := by
  have hcode : classify "Every user\nand all users in us or in de\nand users in fr" =
      .country "DE" := by decide +kernel
  have hcity : Phrase.leftmost? Phrase.countryCode? (lowercase "Users in Rome") = none := by
    decide +kernel
  refine ⟨hcode, (classify_eq_country_iff _ _).2.1 hcode, (classify_eq_country_iff _ _).2.2 ?_⟩
  intro above line below hline hnames
  obtain ⟨left, rest, code, htext, -, hread⟩ := hnames.exists_countryCode? hline
  rw [Phrase.leftmost?_eq_none_iff.mp hcity _ _ htext] at hread
  cases hread

end AskTable
