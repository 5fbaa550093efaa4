import AskTable.Proofs.Intent.Phrase
import AskTable.Proofs.Intent.Priority
import AskTable.Proofs.Intent.Template
import AskTable.Proofs.Sql.Verdict
/-!
# Numbers in statements

Two phrases put a number into a statement: the window of a sum of balances and the limit of rows. In
both, the digits are those of the first such phrase of the question, wherever it stands, and they are
written as they were read.

## Main definitions

* `sinceClause` - the end of a statement about a window
* `Sql.HasLimitClause`, `Sql.EndsWithLimit` - statements with a limit of rows
* `Intent.rows?`, `Intent.AsksForRows` - the limit of an intent, and intents that may have one

## Main results

* `heuristicSql_of_balance` - the statement of a question about a total balance
* `hasLimitClause_heuristicSql_iff` - which questions get a limit of rows, and which limit
-/

namespace AskTable

open Phrase (Occurs StandsFirst SaysWindow SaysRowLimit leftmost? timeWindow?_eq_some_iff
  rowLimit?_eq_some_iff leftmost?_eq_some_iff leftmost?_eq_none_iff_not_occurs)
open Text (includes includesAny lowercase)

variable {t digits : Text} {intent : Intent}

/-! ## Windows of balances -/

/-- What a statement about the balances of a window has at its end. -/
def sinceClause : TimeWindow → Text
  | ⟨amount, .hours⟩ => " WHERE signup_date >= subtractHours(now(), " ++ amount ++ ")"
  | ⟨amount, .days⟩ => " WHERE signup_date >= subtractDays(now(), " ++ amount ++ ")"

theorem sqlText_sumBalance_some (window : TimeWindow) :
    (Intent.sumBalance (some window)).sqlText =
      "SELECT sum(balance) FROM default.MOCK_DATA" ++ sinceClause window := by
  obtain ⟨amount, unit⟩ := window
  cases unit <;> rfl

/-- A question about a total balance that is not one about a number of rows or an average age gets
the sum of all balances, or of those in the window that the question names first. -/
theorem heuristicSql_of_balance {question : Text}
    (hrows : Rule.countRows.accepts? (lowercase question) = none)
    (hage : Rule.averageAge.accepts? (lowercase question) = none)
    (hsum : includes (lowercase question) "sum" = true ∨ includes (lowercase question) "total" = true)
    (hbalance : includes (lowercase question) "balance" = true) :
    (¬ Occurs SaysWindow (lowercase question) →
      (heuristicSql question).text = "SELECT sum(balance) FROM default.MOCK_DATA") ∧
    (Occurs SaysWindow (lowercase question) →
      ∃! window, StandsFirst SaysWindow (lowercase question) window) ∧
    ∀ window, StandsFirst SaysWindow (lowercase question) window →
      (heuristicSql question).text =
        "SELECT sum(balance) FROM default.MOCK_DATA" ++ sinceClause window := by
  have hphrase : ∀ t window, Phrase.timeWindow? t = some window ↔ SaysWindow t window :=
    fun _ _ => timeWindow?_eq_some_iff
  have hthird : rules[2]? = some Rule.sumBalance := rfl
  have hclassify : classify question =
      .sumBalance (leftmost? Phrase.timeWindow? (lowercase question)) := by
    refine (classifyLowered_eq_iff hthird rfl).mpr ⟨?_, Rule.when_eq_some_iff.mpr ⟨?_, rfl⟩⟩
    · simp only [rules, List.take_succ_cons, List.take_zero, List.forall_mem_cons]
      exact ⟨hrows, hage, List.forall_mem_nil _⟩
    · have hany : includesAny (lowercase question) ["sum", "total"] = true := by
        rcases hsum with hsum | htotal
        · exact Text.includesAny_of_mem List.mem_cons_self hsum
        · exact Text.includesAny_of_mem (List.mem_cons_of_mem _ List.mem_cons_self) htotal
      rw [hany, hbalance, Bool.and_true]
  refine ⟨fun hnot => ?_, Occurs.existsUnique hphrase, fun window hwindow => ?_⟩
  · rw [heuristicSql, hclassify, (leftmost?_eq_none_iff_not_occurs hphrase).mpr hnot]
    rfl
  · rw [heuristicSql, hclassify, (leftmost?_eq_some_iff hphrase).mpr hwindow]
    exact sqlText_sumBalance_some window

/-- A number of four digits is no amount, and the window behind it is the first. -/
theorem heuristicSql_of_balance_window :
    (heuristicSql "Total balance of the last 2024 days, last 007 days, last 5 hours").text =
      "SELECT sum(balance) FROM default.MOCK_DATA WHERE signup_date >= subtractDays(now(), 007)" := by
  have hfound : leftmost? Phrase.timeWindow?
      (lowercase "Total balance of the last 2024 days, last 007 days, last 5 hours") =
        some ⟨"007", .days⟩ := by decide +kernel
  have hfirst := (leftmost?_eq_some_iff fun _ _ => timeWindow?_eq_some_iff).mp hfound
  have hbalance := @heuristicSql_of_balance
    "Total balance of the last 2024 days, last 007 days, last 5 hours"
    (by decide +kernel) (by decide +kernel) (Or.inr (by decide +kernel)) (by decide +kernel)
  exact (hbalance.2.2 _ hfirst).trans (by decide +kernel)

/-! ## Clauses that limit the rows -/

namespace Sql

/-- The statement has the keyword of a limit, in some letter case, and a number behind it. -/
def HasLimitClause (sql : Text) : Prop :=
  ∃ tokens keyword digits, scan sql = some tokens ∧ lowered keyword = "limit" ∧
    [.word keyword, .number digits] <:+: tokens

/-- The statement ends with a limit, and has no other before it. -/
def EndsWithLimit (sql digits : Text) : Prop :=
  ∃ front tokens, sql = front ++ (" LIMIT " ++ digits) ∧ scan front = some tokens ∧
    scan sql = some (tokens ++ [.word "LIMIT", .number digits]) ∧ ¬ HasLimitClause front

theorem EndsWithLimit.hasLimitClause {sql : Text} (h : EndsWithLimit sql digits) :
    HasLimitClause sql := by
  obtain ⟨front, tokens, -, -, hscan, -⟩ := h
  exact ⟨_, "LIMIT", digits, hscan, by decide, (List.suffix_append _ _).isInfix⟩

end Sql

open Sql (HasLimitClause EndsWithLimit)

namespace Template

/-- Is none of the fixed tokens the keyword of a limit? -/
def isUnlimited (template : Template) : Bool :=
  template.all fun
    | .fixed (.word w) => Sql.lowered w ≠ "limit"
    | _ => true

/-- What fills the places of a template is no keyword. -/
theorem not_hasLimitClause {template : Template} (h : template.isUnlimited = true)
    {sql literalText : Text} (hscan : Sql.scan sql = some (template.fill literalText digits)) :
    ¬ HasLimitClause sql := by
  rintro ⟨tokens, keyword, number, htokens, hkeyword, hclause⟩
  obtain rfl := Option.some.inj (hscan.symm.trans htokens)
  -- The keyword stands at a place of the template, and only a fixed token puts a word there.
  obtain ⟨slot, hslot, hfill⟩ := List.mem_map.mp (hclause.subset List.mem_cons_self)
  cases slot with
  | fixed token =>
    obtain rfl : token = .word keyword := hfill
    have hnot := List.all_eq_true.mp h _ hslot
    exact absurd hkeyword (of_decide_eq_true hnot)
  | number => cases hfill
  | literal before after => cases hfill

end Template

namespace Intent

/-- The number of rows to which the intent is limited. -/
def rows? : Intent → Option Text
  | .nameFilter _ rows => rows
  | .limit rows => some rows
  | _ => none

/-- The tokens of the intent's statement are its filled template. -/
theorem scan_sqlText (h : intent.CapturedIn t) :
    Sql.scan intent.sqlText = some (intent.template.fill intent.literalText intent.digits) := by
  obtain ⟨query, hquery⟩ := exists_query h
  rw [sqlText_eq_write, ← hquery, Sql.scan_write_tokens]

theorem isUnlimited_template (h : intent.rows? = none) : intent.template.isUnlimited = true := by
  cases intent with
  | sumBalance window =>
    rcases window with _ | ⟨_, unit⟩
    · rfl
    · cases unit <;> rfl
  | nameFilter pattern rows =>
    obtain rfl : rows = none := h
    cases pattern <;> rfl
  | limit rows => cases h
  | _ => rfl

/-- A name is looked for in the same way whether the rows are limited or not. -/
theorem endsWithLimit_nameFilter {pattern : NamePattern}
    (h : (nameFilter pattern (some digits)).CapturedIn t) :
    EndsWithLimit (nameFilter pattern (some digits)).sqlText digits := by
  have hfront : (nameFilter pattern none).CapturedIn t := ⟨h.1, fun _ hnone => by cases hnone⟩
  have htext : (nameFilter pattern (some digits)).sqlText =
      (nameFilter pattern none).sqlText ++ (" LIMIT " ++ digits) := List.append_assoc _ _ _
  have htokens : (nameFilter pattern (some digits)).template.fill pattern.literalText digits =
      (nameFilter pattern none).template.fill pattern.literalText [] ++
        [.word "LIMIT", .number digits] := by
    cases pattern <;> rfl
  have hscan := scan_sqlText hfront
  refine ⟨_, _, htext, hscan, (scan_sqlText h).trans (congrArg some htokens), ?_⟩
  exact Template.not_hasLimitClause (isUnlimited_template rfl) hscan

/-- All rows are asked for in the same way whether they are limited or not. -/
theorem endsWithLimit_limit (h : (limit digits).CapturedIn t) :
    EndsWithLimit (limit digits).sqlText digits := by
  have htext : (limit digits).sqlText =
      Sql.write (Template.selectAll.fill [] []) ++ (" LIMIT " ++ digits) := List.append_assoc _ _ _
  have hscan : Sql.scan (Sql.write (Template.selectAll.fill [] [])) =
      some (Template.selectAll.fill [] []) := Sql.scan_write_tokens (rowsWhere none none)
  have hunlimited : Template.selectAll.isUnlimited = true := rfl
  exact ⟨_, _, htext, hscan, scan_sqlText h, Template.not_hasLimitClause hunlimited hscan⟩

/-- The statement of an intent has a limit exactly when the intent has one, and then it ends so. -/
theorem endsWithLimit_of_rows? (h : intent.CapturedIn t) (hrows : intent.rows? = some digits) :
    EndsWithLimit intent.sqlText digits := by
  cases intent with
  | nameFilter pattern rows =>
    obtain rfl : rows = some digits := hrows
    exact endsWithLimit_nameFilter h
  | limit rows =>
    obtain rfl : rows = digits := Option.some.inj hrows
    exact endsWithLimit_limit h
  | _ => cases hrows

theorem hasLimitClause_sqlText_iff (h : intent.CapturedIn t) :
    HasLimitClause intent.sqlText ↔ ∃ digits, intent.rows? = some digits := by
  constructor
  · intro hclause
    refine Option.ne_none_iff_exists'.mp fun hnone => ?_
    exact Template.not_hasLimitClause (isUnlimited_template hnone) (scan_sqlText h) hclause
  · rintro ⟨digits, hrows⟩
    exact (endsWithLimit_of_rows? h hrows).hasLimitClause

end Intent

/-! ## Limits of questions

The rules about names and the rule about all rows look for a limit in the same way. -/

/-- The rules about names. -/
def nameRules : List Rule := [.nameStartsWith, .nameContains, .nameEndsWith]

/-- The question asks for rows, by their names or for all of them. -/
def Intent.AsksForRows (intent : Intent) : Prop :=
  (∃ pattern rows, intent = .nameFilter pattern rows) ∨ ∃ rows, intent = .limit rows

theorem exists_eq_nameFilter_of_accepts? {rule : Rule} (hmem : rule ∈ nameRules)
    (h : rule.accepts? t = some intent) :
    ∃ pattern, intent = .nameFilter pattern (Rule.rowLimit? t) := by
  simp only [nameRules, List.mem_cons, List.not_mem_nil, or_false] at hmem
  rcases hmem with rfl | rfl | rfl
  · obtain ⟨letter, -, rfl⟩ := Option.map_eq_some_iff.mp h
    exact ⟨.startsWith letter.toUpper, rfl⟩
  · obtain ⟨part, -, rfl⟩ := Option.map_eq_some_iff.mp h
    exact ⟨.contains part, rfl⟩
  · obtain ⟨ending, -, rfl⟩ := Option.map_eq_some_iff.mp h
    exact ⟨.endsWith ending, rfl⟩

theorem rows_eq_of_classifyLowered {pattern : NamePattern} {rows : Option Text}
    (h : classifyLowered t = .nameFilter pattern rows) : rows = Rule.rowLimit? t := by
  -- The kind of pattern tells which of the three rules gave the intent.
  have hrule : ∃ i : Nat, ∃ rule ∈ nameRules, rules[i]? = some rule ∧
      (Intent.nameFilter pattern rows).name = rule.name := by
    cases pattern with
    | startsWith => exact ⟨5, .nameStartsWith, by simp [nameRules], rfl, rfl⟩
    | contains => exact ⟨6, .nameContains, by simp [nameRules], rfl, rfl⟩
    | endsWith => exact ⟨7, .nameEndsWith, by simp [nameRules], rfl, rfl⟩
  obtain ⟨i, rule, hmem, hi, hname⟩ := hrule
  obtain ⟨_, heq⟩ :=
    exists_eq_nameFilter_of_accepts? hmem ((classifyLowered_eq_iff hi hname).mp h).2
  exact (Intent.nameFilter.inj heq).2

theorem rowLimit?_of_classifyLowered {rows : Text} (h : classifyLowered t = .limit rows) :
    Rule.rowLimit? t = some rows := by
  have hrule : rules[11]? = some Rule.limit := rfl
  obtain ⟨_, hfound, heq⟩ := Option.map_eq_some_iff.mp ((classifyLowered_eq_iff hrule rfl).mp h).2
  rw [hfound, Intent.limit.inj heq]

/-- The limit of a question is the first of the limits that it names, if it asks for rows. -/
theorem rows?_classifyLowered_eq_some_iff : (classifyLowered t).rows? = some digits ↔
    (classifyLowered t).AsksForRows ∧ StandsFirst SaysRowLimit t digits := by
  have hsearch : Rule.rowLimit? t = some digits ↔ StandsFirst SaysRowLimit t digits :=
    leftmost?_eq_some_iff fun _ _ => rowLimit?_eq_some_iff
  rw [← hsearch]
  constructor
  · intro h
    cases hintent : classifyLowered t with
    | nameFilter pattern rows =>
      rw [hintent] at h
      exact ⟨Or.inl ⟨pattern, rows, rfl⟩, (rows_eq_of_classifyLowered hintent).symm.trans h⟩
    | limit rows =>
      rw [hintent] at h
      exact ⟨Or.inr ⟨rows, rfl⟩, (rowLimit?_of_classifyLowered hintent).trans h⟩
    | _ =>
      rw [hintent] at h
      cases h
  · rintro ⟨⟨pattern, rows, hintent⟩ | ⟨rows, hintent⟩, hfound⟩
    · rw [hintent]
      exact (rows_eq_of_classifyLowered hintent).trans hfound
    · rw [hintent]
      exact (rowLimit?_of_classifyLowered hintent).symm.trans hfound

/-- Behind the first five rules, those about names come before that about all rows. -/
theorem exists_nameFilter_of_accepts? {rule : Rule} (hmem : rule ∈ nameRules)
    (haccepts : (rule.accepts? t).isSome = true)
    (hearlier : ∀ earlier ∈ rules.take 5, earlier.accepts? t = none) :
    ∃ pattern rows, classifyLowered t = .nameFilter pattern rows := by
  have hrules : rules = rules.take 5 ++ (nameRules ++ rules.drop 8) := rfl
  obtain ⟨first, hfirst, haccepts⟩ :=
    exists_mem_accepts?_classifyLowered hrules hearlier ⟨rule, hmem, haccepts⟩
  obtain ⟨pattern, heq⟩ := exists_eq_nameFilter_of_accepts? hfirst haccepts
  exact ⟨pattern, _, heq⟩

/-- A statement is limited exactly when its question asks for rows and names a limit. It then ends
with the limit that the question names first, wherever that stands. A question about names that no
earlier rule accepts is never one about all rows, whatever limit it names. -/
theorem hasLimitClause_heuristicSql_iff (question : Text) :
    (HasLimitClause (heuristicSql question).text ↔
      (classify question).AsksForRows ∧ Occurs SaysRowLimit (lowercase question)) ∧
    (HasLimitClause (heuristicSql question).text →
      ∃ digits, StandsFirst SaysRowLimit (lowercase question) digits ∧
        EndsWithLimit (heuristicSql question).text digits) ∧
    ∀ rule ∈ nameRules, (rule.accepts? (lowercase question)).isSome = true →
      (∀ earlier ∈ rules.take 5, earlier.accepts? (lowercase question) = none) →
      ∃ pattern rows, classify question = .nameFilter pattern rows := by
  have hcaptured := capturedIn_classify question
  have hclause : HasLimitClause (heuristicSql question).text ↔
      ∃ digits, (classify question).AsksForRows ∧
        StandsFirst SaysRowLimit (lowercase question) digits :=
    (Intent.hasLimitClause_sqlText_iff hcaptured).trans
      (exists_congr fun _ => rows?_classifyLowered_eq_some_iff)
  refine ⟨hclause.trans ⟨?_, ?_⟩, fun h => ?_, fun _ => exists_nameFilter_of_accepts?⟩
  · rintro ⟨digits, hrows, hfirst⟩
    exact ⟨hrows, hfirst.occurs⟩
  · rintro ⟨hrows, hoccurs⟩
    obtain ⟨digits, hfirst, -⟩ := hoccurs.existsUnique fun _ _ => Phrase.rowLimit?_eq_some_iff
    exact ⟨digits, hrows, hfirst⟩
  · obtain ⟨digits, hrows, hfirst⟩ := hclause.mp h
    exact ⟨digits, hfirst, Intent.endsWithLimit_of_rows? hcaptured
      (rows?_classifyLowered_eq_some_iff.mpr ⟨hrows, hfirst⟩)⟩

/-- The limit stands behind the name, and another one behind it does not count. -/
theorem hasLimitClause_heuristicSql_name :
    (∃ pattern rows, classify "Name contains bob, top 10 users, show 5 rows" =
      .nameFilter pattern rows) ∧
    StandsFirst SaysRowLimit (lowercase "Name contains bob, top 10 users, show 5 rows") "10" ∧
    EndsWithLimit (heuristicSql "Name contains bob, top 10 users, show 5 rows").text "10" := by
  obtain ⟨hiff, hends, hnames⟩ :=
    hasLimitClause_heuristicSql_iff "Name contains bob, top 10 users, show 5 rows"
  have hname := hnames .nameContains (by simp [nameRules]) (by decide +kernel) (by decide +kernel)
  have hsearch {t digits : Text} : Rule.rowLimit? t = some digits ↔
      StandsFirst SaysRowLimit t digits := leftmost?_eq_some_iff fun _ _ => rowLimit?_eq_some_iff
  have hfound : Rule.rowLimit? (lowercase "Name contains bob, top 10 users, show 5 rows") =
      some "10" := by decide +kernel
  have hfirst := hsearch.mp hfound
  obtain ⟨digits, hdigits, hsql⟩ := hends (hiff.mpr ⟨Or.inl hname, hfirst.occurs⟩)
  obtain rfl : "10".toList = digits :=
    Option.some.inj (hfound.symm.trans (hsearch.mpr hdigits))
  exact ⟨hname, hfirst, hsql⟩

end AskTable
