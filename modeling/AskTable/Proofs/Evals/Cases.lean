import AskTable.Evals.Case
import AskTable.Proofs.Json.TextRecord
import AskTable.Proofs.Text.Line
/-!
# Cases as they may be written

Cases are written one to a line, each as an object. The lines end with a line feed, or with a
carriage return and a line feed, the last one may have no end, and blank lines may stand anywhere.
However the cases are written, they are read back, all of them and in order. If there is a line that
is neither blank nor a case, there is an error instead, and it is that of the first such line.

## Main definitions

* `Evals.IsCaseLine` - the ways to write a line, and the case in it if there is one
* `Evals.IsLayout` - the ways to write a list of cases
* `Evals.FailsFirst` - the error of the first line that is neither blank nor a case

## Main results

* `Evals.exists_isLayout` - every list of cases can be written
* `Evals.IsLayout.readLines_eq` - written cases are read back
* `Evals.readLines_eq_error_iff` - which error there is
* `Evals.readCases_eq_ok_and_eq_error_iff` - the cases of a text, or its error
-/

namespace AskTable.Evals

open Json (IsSpaces SpellsMember SpellsObject)

variable {t line : Text} {lines : List Text} {case : Case} {cases others : List Case} {e : Error}
  {written : List (Text × Text)}

/-! ## One line -/

/-- The members of a case. -/
def Case.members (case : Case) : List (Text × Text) :=
  [("id", case.id), ("question", case.question), ("expect_sql_regex", case.pattern)]

/-- A line in which a case is written, in any of the ways, is read as the case. -/
theorem Case.read_of_spellsObject (h : SpellsObject line written)
    (hperm : written.Perm case.members) : Case.read line = .ok case := by
  have hkeys : (case.members.map (·.1)).Nodup :=
    (by decide : (["id", "question", "expect_sql_regex"] : List Text).Nodup)
  have hparse : shape.parse line = .ok (.obj (Json.textFields case.members)) :=
    h.parse_record hperm hkeys "EvalCase"
  rw [Case.read, hparse]
  rfl

theorem isBlankOnly_of_spellsObject (h : SpellsObject line written) :
    Text.isBlankOnly line = false := by
  cases h with
  | mk => exact List.all_eq_false.mpr ⟨'\x7b', by simp, by decide⟩

/-- The ways to write a line: it is blank, or a case is written in it. -/
inductive IsCaseLine : Text → List Case → Prop
  | blank {line : Text} (h : ∀ c ∈ line, Text.isBlank c = true) : IsCaseLine line []
  | case {line : Text} {written : List (Text × Text)} {case : Case} (h : SpellsObject line written)
      (hperm : written.Perm case.members) : IsCaseLine line [case]

/-- A carriage return at its end does not matter to a line. -/
theorem IsCaseLine.dropLineEnd (h : IsCaseLine line cases) :
    IsCaseLine (Text.dropLineEnd (line ++ ['\n'])) cases := by
  obtain ⟨rest, hline, hrest⟩ := Text.exists_eq_dropLineEnd line
  have hspaces : IsSpaces rest := by
    intro c hc
    rw [hrest c hc]
    decide
  cases h with
  | blank hblank => exact .blank fun c hc => hblank c (hline ▸ List.mem_append_left rest hc)
  | case hobject hperm =>
    rw [hline] at hobject
    exact .case (hobject.of_append hspaces) hperm

/-! ## Lines one after another -/

/-- The cases of lines, or what is wrong with the first line that is no case. -/
def readLines (lines : List Text) : Except Error (List Case) :=
  (lines.filter (!Text.isBlankOnly ·)).mapM Case.read

theorem readCases_eq_readLines (t : Text) : readCases t = readLines (Text.lines t) := rfl

theorem readLines_cons_of_blank (h : Text.isBlankOnly line = true) :
    readLines (line :: lines) = readLines lines := by
  rw [readLines, List.filter_cons_of_neg (by simp [h]), readLines]

theorem readLines_cons_of_ok (hblank : Text.isBlankOnly line = false)
    (h : Case.read line = .ok case) :
    readLines (line :: lines) = (readLines lines).map (case :: ·) := by
  rw [readLines, List.filter_cons_of_pos (by simp [hblank]), List.mapM_cons, h]
  rfl

theorem readLines_cons_of_error (hblank : Text.isBlankOnly line = false)
    (h : Case.read line = .error e) : readLines (line :: lines) = .error e := by
  rw [readLines, List.filter_cons_of_pos (by simp [hblank]), List.mapM_cons, h]
  rfl

/-- A line that comes first is read in front of the others. -/
theorem IsCaseLine.readLines_cons (h : IsCaseLine line cases)
    (hlines : readLines lines = .ok others) :
    readLines (line :: lines) = .ok (cases ++ others) := by
  cases h with
  | blank hblank => rwa [readLines_cons_of_blank (List.all_eq_true.mpr hblank)]
  | case hobject hperm =>
    rw [readLines_cons_of_ok (isBlankOnly_of_spellsObject hobject)
      (Case.read_of_spellsObject hobject hperm), hlines]
    rfl

/-! ## Written cases -/

/-- The ways to write cases: line by line, where the last line has no end and may be empty. -/
inductive IsLayout : Text → List Case → Prop
  | last {line : Text} {cases : List Case} (hfeed : '\n' ∉ line) (h : IsCaseLine line cases) :
      IsLayout line cases
  | cons {line ending rest : Text} {cases others : List Case} (hfeed : '\n' ∉ line)
      (h : IsCaseLine line cases) (hending : ending ∈ (["\n", "\r\n"] : List Text))
      (hrest : IsLayout rest others) : IsLayout (line ++ (ending ++ rest)) (cases ++ others)

/-- A line with its end is cut off, and the same is written in it without the end. -/
theorem IsCaseLine.exists_lines_append {ending : Text} (h : IsCaseLine line cases)
    (hfeed : '\n' ∉ line) (hending : ending ∈ (["\n", "\r\n"] : List Text)) (rest : Text) :
    ∃ first, Text.lines (line ++ (ending ++ rest)) = first :: Text.lines rest ∧
      IsCaseLine first cases := by
  rw [List.mem_cons, List.mem_singleton] at hending
  rcases hending with rfl | rfl
  · -- The line may end with a carriage return itself, which is then taken for a part of its end.
    exact ⟨_, Text.lines_append_feed hfeed rest, h.dropLineEnd⟩
  · have hreturn : '\n' ∉ line ++ ['\r'] := List.not_mem_append hfeed (by decide)
    refine ⟨line, ?_, h⟩
    have hcut := Text.lines_append_feed hreturn rest
    rwa [List.append_assoc, List.append_assoc, List.singleton_append, List.singleton_append,
      Text.dropLineEnd_return_feed] at hcut

/-- Cases are read back, however they are written. -/
theorem IsLayout.readLines_eq (h : IsLayout t cases) : readLines (Text.lines t) = .ok cases := by
  induction h with
  | @last line cases hfeed hline =>
    have hread : readLines [line] = .ok (cases ++ []) := hline.readLines_cons rfl
    rw [List.append_nil] at hread
    by_cases hne : line = []
    · -- An empty end after the last line feed is not a line, but an empty line would be blank.
      subst hne
      exact hread
    · rwa [Text.lines_of_notMem hfeed hne]
  | @cons line ending rest cases others hfeed hline hending _ ih =>
    obtain ⟨first, hcut, hfirst⟩ := hline.exists_lines_append hfeed hending rest
    rw [hcut]
    exact hfirst.readLines_cons ih

/-- Every list of cases can be written. -/
theorem exists_isLayout (cases : List Case) : ∃ t, IsLayout t cases := by
  have hquote (t : Text) : '\n' ∉ Json.quote t := (Json.spellsString_quote t).feed_notMem
  induction cases with
  | nil => exact ⟨[], .last List.not_mem_nil (.blank nofun)⟩
  | cons case cases ih =>
    obtain ⟨rest, hrest⟩ := ih
    have hline : IsCaseLine (Json.print (.obj (Json.textFields case.members))) [case] :=
      .case (Json.spellsObject_print case.members) (.refl _)
    refine ⟨_, .cons ?_ hline List.mem_cons_self hrest⟩
    simp [Case.members, Json.textFields, Json.print, Json.printFields, hquote]

/-! ## Errors -/

/-- The error is that of the first line that is neither blank nor a case. -/
inductive FailsFirst : List Text → Error → Prop
  | here {line : Text} {lines : List Text} {e : Error} (hblank : Text.isBlankOnly line = false)
      (h : Case.read line = .error e) : FailsFirst (line :: lines) e
  | later {line : Text} {lines : List Text} {e : Error}
      (hnot : Text.isBlankOnly line = true ∨ ∃ case, Case.read line = .ok case)
      (h : FailsFirst lines e) : FailsFirst (line :: lines) e

theorem not_failsFirst_nil : ¬ FailsFirst [] e := nofun

/-- Either the first line fails, or it does not and one of the others does. -/
theorem failsFirst_cons_iff :
    FailsFirst (line :: lines) e ↔
      (Text.isBlankOnly line = false ∧ Case.read line = .error e) ∨
        ((Text.isBlankOnly line = true ∨ ∃ case, Case.read line = .ok case) ∧
          FailsFirst lines e) := by
  constructor
  · intro h
    cases h with
    | here hblank h => exact Or.inl ⟨hblank, h⟩
    | later hnot h => exact Or.inr ⟨hnot, h⟩
  · rintro (⟨hblank, h⟩ | ⟨hnot, h⟩)
    · exact .here hblank h
    · exact .later hnot h

/-- Lines are read with an error, if it is that of the first of them that fails. -/
theorem readLines_eq_error_iff : readLines lines = .error e ↔ FailsFirst lines e := by
  induction lines with
  | nil => exact iff_of_false nofun not_failsFirst_nil
  | cons line lines ih =>
    rw [failsFirst_cons_iff, ← ih]
    cases hblank : Text.isBlankOnly line with
    | true => simp [readLines_cons_of_blank hblank]
    | false =>
      cases hread : Case.read line with
      | error fault => simp [readLines_cons_of_error hblank hread]
      | ok case =>
        -- A case is put in front of the others, which does not change their error.
        rw [readLines_cons_of_ok hblank hread]
        cases readLines lines <;> simp [Except.map]

/-- There is a first line that fails where there is one that does. -/
theorem exists_failsFirst_iff :
    (∃ e, FailsFirst lines e) ↔
      ∃ line ∈ lines, Text.isBlankOnly line = false ∧ ∃ e, Case.read line = .error e := by
  constructor
  · rintro ⟨e, h⟩
    induction h with
    | here hblank h => exact ⟨_, List.mem_cons_self, hblank, _, h⟩
    | later _ _ ih =>
      obtain ⟨line, hmem, hfails⟩ := ih
      exact ⟨line, List.mem_cons_of_mem _ hmem, hfails⟩
  · rintro ⟨line, hmem, hfails⟩
    induction lines with
    | nil => cases hmem
    | cons first lines ih =>
      by_cases hfirst : Text.isBlankOnly first = false ∧ ∃ e, Case.read first = .error e
      · obtain ⟨hblank, e, h⟩ := hfirst
        exact ⟨e, .here hblank h⟩
      · rcases List.mem_cons.mp hmem with rfl | hmem
        · exact absurd hfails hfirst
        · obtain ⟨e, hothers⟩ := ih hmem
          refine ⟨e, .later ?_ hothers⟩
          cases hread : Case.read first with
          | ok case => exact Or.inr ⟨case, rfl⟩
          | error fault => exact Or.inl (by simpa [hread] using hfirst)

/-- Cases are read back, however they are written. A text has an error if a line of it is neither
blank nor a case, and it is the error of the first such line. -/
theorem readCases_eq_ok_and_eq_error_iff (t : Text) :
    (∀ cases, IsLayout t cases → readCases t = .ok cases) ∧
      ((∃ e, readCases t = .error e) ↔
        ∃ line ∈ Text.lines t, Text.isBlankOnly line = false ∧ ∃ e, Case.read line = .error e) ∧
      ∀ e, readCases t = .error e ↔ FailsFirst (Text.lines t) e := by
  rw [readCases_eq_readLines]
  refine ⟨fun cases h => h.readLines_eq, ?_, fun e => readLines_eq_error_iff⟩
  simp only [readLines_eq_error_iff]
  exact exists_failsFirst_iff

theorem readCases_two_lines :
    readCases
      ("\x7b\"id\":\"a\",\"question\":\"\\n\",\"expect_sql_regex\":\"x\"\x7d" ++
        ("\r\n" ++ ("\t\u3000" ++ ("\n" ++
        "\x7b \"question\" : \"\\uD83D\\ude00\",\"expect_sql_regex\":\".\",\"id\":\"b\"\x7d\r")))) =
        .ok [⟨"a", "\n", "x"⟩, ⟨"b", [Char.ofNat 0x1F600], "."⟩] ∧
      readCases "\n\x7b\x7d\nx" = .error (.json ⟨.missingMember "id", 1, 2⟩) := by
  constructor
  · -- The first case is written as it is printed, the second one in another order and with blanks.
    have hfirst : IsCaseLine "\x7b\"id\":\"a\",\"question\":\"\\n\",\"expect_sql_regex\":\"x\"\x7d"
        [⟨"a", "\n", "x"⟩] := by
      have hprint :
          ("\x7b\"id\":\"a\",\"question\":\"\\n\",\"expect_sql_regex\":\"x\"\x7d" : Text) =
            Json.print (.obj (Json.textFields (Case.members ⟨"a", "\n", "x"⟩))) := rfl
      rw [hprint]
      exact .case (Json.spellsObject_print _) (.refl _)
    have hblank : IsCaseLine "\t\u3000" [] := .blank (List.all_eq_true.mp (by decide))
    have hhigh : Json.IsHexQuad "D83D" 0xD83D :=
      .mk (k := 13) (l := 8) (m := 3) (n := 13) ⟨by decide, Or.inr (by decide)⟩
        ⟨by decide, Or.inl (by decide)⟩ ⟨by decide, Or.inl (by decide)⟩
        ⟨by decide, Or.inr (by decide)⟩
    have hlow : Json.IsHexQuad "de00" 0xDE00 :=
      .mk (k := 13) (l := 14) (m := 0) (n := 0) ⟨by decide, Or.inl (by decide)⟩
        ⟨by decide, Or.inl (by decide)⟩ ⟨by decide, Or.inl (by decide)⟩
        ⟨by decide, Or.inl (by decide)⟩
    have hspace : IsSpaces " " := by decide
    have hquestion : SpellsMember " \"question\" : \"\\uD83D\\ude00\""
        ("question", [Char.ofNat 0x1F600]) :=
      .mk (a := " ") (b := " ") (c := " ") hspace hspace hspace Json.isSpaces_nil
        (Json.spellsString_quote "question")
        (.mk (.cons (.pair hhigh hlow (by decide) (by decide) (by decide)) .nil))
    have hsecond : IsCaseLine
        "\x7b \"question\" : \"\\uD83D\\ude00\",\"expect_sql_regex\":\".\",\"id\":\"b\"\x7d\r"
        [⟨"b", [Char.ofNat 0x1F600], "."⟩] :=
      .case (.mk (a := []) (b := "\r") Json.isSpaces_nil (by decide)
        (.cons hquestion (.cons (Json.spellsMember_quote ("expect_sql_regex", "."))
          (.cons (Json.spellsMember_quote ("id", "b")) .nil)))) (by decide)
    exact (readCases_eq_ok_and_eq_error_iff _).1 _ (.cons (by decide) hfirst (by decide)
      (.cons (by decide) hblank (by decide) (.last (by decide) hsecond)))
  · have hread : Case.read "\x7b\x7d" = .error (.json ⟨.missingMember "id", 1, 2⟩) := rfl
    have hfails : FailsFirst [[], "\x7b\x7d", "x"] (.json ⟨.missingMember "id", 1, 2⟩) :=
      .later (Or.inl rfl) (.here (by decide) hread)
    exact ((readCases_eq_ok_and_eq_error_iff _).2.2 _).mpr hfails

end AskTable.Evals
