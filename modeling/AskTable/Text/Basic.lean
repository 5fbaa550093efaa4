/-!
# Texts

A text is the list of its Unicode scalar values, so that every fact about texts is a fact about
lists. This file holds the operations that do not look inside a character class: searching,
cutting at a mark and lines. Blank characters, words and letter case have files of their
own.

## Main definitions

* `Text` - a list of characters; a string literal stands for its list
* `Text.includes` - one text occurs inside another, at any place
* `Text.lines` - the lines of a text, without their ends

## Main results

* `Text.includes_iff` - to include a text is to be of the form `before ++ text ++ after`
* `Text.flatten_lineRuns` - cutting into lines loses nothing
-/

namespace AskTable

/-- A text is the list of its characters. -/
abbrev Text := List Char

instance : Coe String Text := ⟨String.toList⟩

namespace Text

/-- What follows `start` in a text that begins with it. -/
def after? : (start : Text) → Text → Option Text
  | [], t => some t
  | _ :: _, [] => none
  | s :: start, c :: t => if s = c then after? start t else none

theorem after?_eq_some_iff {start t rest : Text} :
    after? start t = some rest ↔ t = start ++ rest := by
  induction start generalizing t with
  | nil => simp [after?]
  | cons s start ih =>
    cases t with
    | nil => simp [after?]
    | cons c t =>
      by_cases h : s = c
      · simp [after?, h, ih]
      · simp [after?, h, Ne.symm h]

/-- Does the text begin with `start`? -/
def beginsWith (t start : Text) : Bool := (after? start t).isSome

theorem beginsWith_iff {t start : Text} :
    beginsWith t start = true ↔ ∃ rest, t = start ++ rest := by
  simp [beginsWith, Option.isSome_iff_exists, after?_eq_some_iff]

/-- Does `part` occur in the text, at any place? -/
def includes : Text → (part : Text) → Bool
  | [], part => part.isEmpty
  | c :: t, part => beginsWith (c :: t) part || includes t part

theorem includes_iff {t part : Text} :
    includes t part = true ↔ ∃ before rest, t = before ++ (part ++ rest) := by
  induction t with
  | nil =>
    cases part <;> simp [includes]
  | cons c t ih =>
    simp only [includes, Bool.or_eq_true, beginsWith_iff, ih]
    constructor
    · rintro (⟨rest, h⟩ | ⟨before, rest, h⟩)
      · exact ⟨[], rest, h⟩
      · exact ⟨c :: before, rest, by simp [h]⟩
    · rintro ⟨before, rest, h⟩
      cases before with
      | nil => exact Or.inl ⟨rest, h⟩
      | cons b before =>
        simp only [List.cons_append, List.cons.injEq] at h
        exact Or.inr ⟨before, rest, h.2⟩

/-- Does the text include one of the `parts`? -/
def includesAny (t : Text) (parts : List Text) : Bool := parts.any (includes t)

/-- The parts of a text before and after the first `mark`. -/
def cutAt? (mark : Char) : Text → Option (Text × Text)
  | [] => none
  | c :: t =>
    if c = mark then some ([], t)
    else (cutAt? mark t).map fun (before, rest) => (c :: before, rest)

theorem eq_of_cutAt? {mark : Char} {t before rest : Text}
    (h : cutAt? mark t = some (before, rest)) : t = before ++ mark :: rest := by
  induction t generalizing before with
  | nil => simp [cutAt?] at h
  | cons c t ih =>
    by_cases hc : c = mark
    · simp only [cutAt?, hc, if_true, Option.some.injEq, Prod.mk.injEq] at h
      obtain ⟨rfl, rfl⟩ := h
      simp [hc]
    · simp only [cutAt?, hc, if_false, Option.map_eq_some_iff, Prod.exists, Prod.mk.injEq] at h
      obtain ⟨b, r, hb, rfl, rfl⟩ := h
      simp [ih hb]

/-- The longest end of the text in which every character satisfies `p` is taken away. -/
def dropEnd (p : Char → Bool) (t : Text) : Text := (t.reverse.dropWhile p).reverse

/-- The text cut after each line feed. Only the last piece may lack one. -/
def lineRuns : Text → List Text
  | [] => []
  | c :: t =>
    if c = '\n' then [c] :: lineRuns t
    else match lineRuns t with
      | [] => [[c]]
      | run :: runs => (c :: run) :: runs

theorem flatten_lineRuns (t : Text) : (lineRuns t).flatten = t := by
  induction t with
  | nil => rfl
  | cons c t ih =>
    by_cases h : c = '\n'
    · simp [lineRuns, h, ih]
    · cases hr : lineRuns t with
      | nil => simp_all [lineRuns]
      | cons run runs => simp_all [lineRuns]

/-- A line without its end: a line feed, or a carriage return and a line feed. A carriage return
that no line feed follows belongs to the line. -/
def dropLineEnd (run : Text) : Text :=
  match run.reverse with
  | '\n' :: '\r' :: rest => rest.reverse
  | '\n' :: rest => rest.reverse
  | _ => run

/-- The lines of a text. An empty end after the last line feed is not a line. -/
def lines (t : Text) : List Text := (lineRuns t).map dropLineEnd

/-- The texts one after another, with a separator between two of them. -/
def join (separator : Text) (parts : List Text) : Text := separator.intercalate parts

/-- The text `n` times over. -/
def times (n : Nat) (t : Text) : Text := (List.replicate n t).flatten

end Text

end AskTable
