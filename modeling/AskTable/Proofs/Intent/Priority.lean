import AskTable.Intent.Rule
import AskTable.Proofs.Text.Search
/-!
# Which rule decides

A question belongs to the first rule that accepts it. As every rule gives intents of its own name,
an intent tells which rule gave it, and so which rules did not accept before.

The rule about counting rows comes first and looks for its keywords anywhere in the text. One of
them, "count", is the beginning of "country", so a question about numbers per country is taken by
that rule as soon as it names what there are rows of.

## Main definitions

* `AsksPerCountry` - a text that asks for a number per country, without keywords of earlier rules

## Main results

* `classifyLowered_eq_iff` - a rule decides when it accepts and no earlier one does
* `exists_mem_accepts?_classifyLowered` - the same of rules that stand next to each other
* `classify_of_asksPerCountry` - which questions about numbers per country are grouped by country
-/

namespace AskTable

open Text (includes includesAny lowercase)

variable {t : Text} {intent : Intent} {rule : Rule} {i : Nat}

/-! ## Priority -/

theorem Rule.when_eq_none_iff {condition : Bool} :
    Rule.when condition intent = none ↔ condition = false := by
  cases condition <;> simp [Rule.when]

theorem nodup_map_name_rules : (rules.map Rule.name).Nodup := by decide

theorem name_fallback_notMem : Intent.fallback.name ∉ rules.map Rule.name := by decide

/-- Rules with the same name are the same entry of the list. -/
theorem index_eq_of_name_eq {j : Nat} {rule' : Rule} (hi : rules[i]? = some rule)
    (hj : rules[j]? = some rule') (hname : rule.name = rule'.name) : i = j := by
  have hget (k : Nat) : (rules.map Rule.name)[k]? = rules[k]?.map Rule.name := List.getElem?_map
  have hlt : i < (rules.map Rule.name).length := by
    rw [List.length_map]
    exact (List.getElem?_eq_some_iff.mp hi).1
  refine (List.getElem?_inj hlt nodup_map_name_rules).mp ?_
  rw [hget, hget, hi, hj, Option.map_some, Option.map_some, hname]

/-- A rule decides with an intent of its name when it accepts and no earlier rule does. -/
theorem classifyLowered_eq_iff (hi : rules[i]? = some rule) (hname : intent.name = rule.name) :
    classifyLowered t = intent ↔
      (∀ earlier ∈ rules.take i, earlier.accepts? t = none) ∧ rule.accepts? t = some intent := by
  rw [classifyLowered]
  constructor
  · intro h
    cases hfound : rules.findSome? (·.accepts? t) with
    | none =>
      -- Without a rule that accepts, the intent has a name that no rule has.
      rw [hfound] at h
      obtain rfl : Intent.fallback = intent := h
      refine absurd (List.mem_map.mpr ⟨rule, List.mem_of_getElem? hi, hname.symm⟩) ?_
      exact name_fallback_notMem
    | some found =>
      rw [hfound] at h
      obtain rfl : found = intent := h
      obtain ⟨before, first, after, hrules, haccepts, hbefore⟩ :=
        List.findSome?_eq_some_iff.mp hfound
      -- The name of the intent tells which entry of the list has accepted.
      have hfirst : rules[before.length]? = some first := by simp [hrules]
      have hnames : rule.name = first.name :=
        hname.symm.trans (name_of_mem_rules (List.mem_of_getElem? hfirst) haccepts)
      obtain rfl := index_eq_of_name_eq hi hfirst hnames
      obtain rfl := Option.some.inj (hfirst.symm.trans hi)
      have htake : rules.take before.length = before := by simp [hrules]
      rw [htake]
      exact ⟨hbefore, haccepts⟩
  · rintro ⟨hearlier, haccepts⟩
    obtain ⟨hlt, rfl⟩ := List.getElem?_eq_some_iff.mp hi
    have hrules : rules = rules.take i ++ rules[i] :: rules.drop (i + 1) := by
      rw [List.cons_getElem_drop_succ, List.take_append_drop]
    rw [List.findSome?_eq_some_iff.mpr ⟨_, _, _, hrules, haccepts, hearlier⟩]
    rfl

theorem classifyLowered_eq_of_accepts? (hi : rules[i]? = some rule)
    (hearlier : ∀ earlier ∈ rules.take i, earlier.accepts? t = none)
    (h : rule.accepts? t = some intent) : classifyLowered t = intent :=
  (classifyLowered_eq_iff hi (name_of_mem_rules (List.mem_of_getElem? hi) h)).mpr ⟨hearlier, h⟩

/-- Of rules that stand next to each other, one decides when one accepts and none before them
does. -/
theorem exists_mem_accepts?_classifyLowered {before group after : List Rule}
    (hrules : rules = before ++ (group ++ after))
    (hbefore : ∀ earlier ∈ before, earlier.accepts? t = none)
    (hgroup : ∃ rule ∈ group, (rule.accepts? t).isSome = true) :
    ∃ rule ∈ group, rule.accepts? t = some (classifyLowered t) := by
  obtain ⟨intent, hintent⟩ := Option.isSome_iff_exists.mp (List.findSome?_isSome_iff.mpr hgroup)
  have hfound : rules.findSome? (·.accepts? t) = some intent := by
    rw [hrules, List.findSome?_append, List.findSome?_eq_none_iff.mpr hbefore, Option.none_or,
      List.findSome?_append, hintent, Option.some_or]
  obtain ⟨rule, hmem, haccepts⟩ := List.exists_of_findSome?_eq_some hintent
  exact ⟨rule, hmem, by rw [classifyLowered, hfound, haccepts, Option.getD_some]⟩

/-! ## Numbers per country -/

/-- The text asks for a number per country. It has no keyword of an earlier rule, apart from the
"count" that "country" begins with. -/
structure AsksPerCountry (t : Text) : Prop where
  number : includes t "number" = true
  country : includes t "country" = true
  grouped : includesAny t ["per", "by"] = true
  others : includesAny t ["how many", "average", "avg", "sum", "total", "active"] = false
  count : ∀ rest ∈ t.tails, "count".toList <+: rest → "country".toList <+: rest

instance (t : Text) : Decidable (AsksPerCountry t) :=
  decidable_of_iff (includes t "number" = true ∧ includes t "country" = true ∧
      includesAny t ["per", "by"] = true ∧
      includesAny t ["how many", "average", "avg", "sum", "total", "active"] = false ∧
      ∀ rest ∈ t.tails, "count".toList <+: rest → "country".toList <+: rest)
    ⟨fun ⟨hnumber, hcountry, hgrouped, hothers, hcount⟩ =>
        ⟨hnumber, hcountry, hgrouped, hothers, hcount⟩,
      fun h => ⟨h.number, h.country, h.grouped, h.others, h.count⟩⟩

theorem AsksPerCountry.lacks (h : AsksPerCountry t) {parts : List Text}
    (hsub : parts ⊆ ["how many", "average", "avg", "sum", "total", "active"]) :
    includesAny t parts = false :=
  Text.includesAny_eq_false_of_subset hsub h.others

/-- The rules before the one about numbers per country accept no such text, unless it names what
there are rows of. -/
theorem AsksPerCountry.accepts?_eq_none (h : AsksPerCountry t)
    (hrows : includesAny t ["user", "record", "rows", "entries"] = false) :
    ∀ earlier ∈ rules.take 4, earlier.accepts? t = none := by
  have haverage : includesAny t ["average", "avg"] = false := h.lacks (by simp)
  have hsum : includesAny t ["sum", "total"] = false := h.lacks (by simp)
  have hactive : includesAny t ["active"] = false := h.lacks (by simp)
  simp only [includesAny, List.any_cons, List.any_nil, Bool.or_false] at hactive
  intro earlier hearlier
  simp only [rules, List.take_succ_cons, List.take_zero, List.mem_cons, List.not_mem_nil,
    or_false] at hearlier
  -- Each of the four asks for a keyword that the text lacks.
  rcases hearlier with rfl | rfl | rfl | rfl
  · exact Rule.when_eq_none_iff.mpr (by rw [hrows, Bool.and_false])
  · exact Rule.when_eq_none_iff.mpr (by rw [haverage, Bool.false_and])
  · exact Rule.when_eq_none_iff.mpr (by rw [hsum, Bool.false_and])
  · exact Rule.when_eq_none_iff.mpr (by rw [hactive, Bool.false_and])

/-- A question about numbers per country is grouped by country, unless it names what there are rows
of. Then it is one about the number of all rows, since "country" begins with "count". -/
theorem classify_of_asksPerCountry {question : Text} (h : AsksPerCountry (lowercase question)) :
    classify question =
      if includesAny (lowercase question) ["user", "record", "rows", "entries"]
      then .countRows else .countPerCountry := by
  -- Both rules that ask for "count" find it in "country".
  have hcount : includes (lowercase question) "count" = true :=
    Text.includes_of_infix (by decide) h.country
  have hcounts (others : List Text) :
      includesAny (lowercase question) ("count".toList :: others) = true :=
    Text.includesAny_of_mem List.mem_cons_self hcount
  split_ifs with hrows
  · have hfirst : rules[0]? = some Rule.countRows := rfl
    refine classifyLowered_eq_of_accepts? hfirst (List.forall_mem_nil _) ?_
    exact Rule.when_eq_some_iff.mpr ⟨by rw [hcounts, hrows, Bool.and_true], rfl⟩
  · have hfifth : rules[4]? = some Rule.countPerCountry := rfl
    refine classifyLowered_eq_of_accepts? hfifth
      (h.accepts?_eq_none (Bool.eq_false_iff.mpr hrows)) ?_
    refine Rule.when_eq_some_iff.mpr ⟨?_, rfl⟩
    rw [hcounts, h.country, h.grouped, Bool.and_true, Bool.and_true]

/-- Signups are nothing that there are rows of. -/
theorem classify_signups_per_country :
    AsksPerCountry (lowercase "Number of signups per country") ∧
      classify "Number of signups per country" = .countPerCountry := by
  have hasks : AsksPerCountry (lowercase "Number of signups per country") := by decide +kernel
  exact ⟨hasks, (classify_of_asksPerCountry hasks).trans (by decide +kernel)⟩

/-- Not every question about numbers per country is grouped: that about users is taken for one about
all rows. -/
theorem not_forall_classify_of_asksPerCountry :
    ¬ ∀ question : Text, AsksPerCountry (lowercase question) →
      classify question = .countPerCountry := by
  intro h
  have hgrouped := h "Number of users per country" (by decide +kernel)
  have hrows : classify "Number of users per country" = .countRows := by decide +kernel
  rw [hgrouped] at hrows
  cases hrows

end AskTable
