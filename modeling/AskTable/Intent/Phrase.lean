import AskTable.Text.Blank
import AskTable.Text.Word
import AskTable.Intent.Basic
/-!
# Phrases

A phrase is recognised at one place of a text, or looked for at its leftmost place. Words of a
phrase are separated by one or more blanks of any kind. Every phrase here can be read in one way
only, from left to right, with two exceptions: a plan may be named after a filler word or without
one, and a country is named by the last connective of the line.

## Main definitions

* `Phrase.leftmost?` - looks for a phrase
* `Phrase.timeWindow?`, `Phrase.rowLimit?`, `Phrase.nameStart?`, `Phrase.namePart?`,
  `Phrase.nameEnd?`, `Phrase.countryCode?`, `Phrase.planName?`, `Phrase.emailDomain?` - the phrases

## Main results

* `Phrase.leftmost?_eq_none_iff` - a phrase is not found exactly when it is nowhere
-/

namespace AskTable.Phrase

open Text (after? isBlank isWord atWordEdge)

/-- The result of a phrase at the leftmost place where it is recognised. -/
def leftmost? {α : Type} (phrase : Text → Option α) : Text → Option α
  | [] => phrase []
  | c :: t =>
    match phrase (c :: t) with
    | some a => some a
    | none => leftmost? phrase t

theorem leftmost?_eq_none_iff {α : Type} {phrase : Text → Option α} {t : Text} :
    leftmost? phrase t = none ↔ ∀ before rest, t = before ++ rest → phrase rest = none := by
  induction t with
  | nil =>
    simp only [leftmost?, List.nil_eq_append_iff]
    exact ⟨fun h before rest ⟨_, hr⟩ => hr ▸ h, fun h => h [] [] ⟨rfl, rfl⟩⟩
  | cons c t ih =>
    simp only [leftmost?]
    cases hp : phrase (c :: t) with
    | some a =>
      simp only [reduceCtorEq, false_iff]
      exact fun h => by simpa [hp] using h [] (c :: t) rfl
    | none =>
      simp only [ih]
      constructor
      · intro h before rest ht
        cases before with
        | nil => simpa [← show c :: t = rest from ht] using hp
        | cons b before =>
          simp only [List.cons_append, List.cons.injEq] at ht
          exact h before rest ht.2
      · intro h before rest ht
        exact h (c :: before) rest (by simp [ht])

/-! ## Pieces of phrases -/

/-- Passes over one or more blanks. -/
def blanks? : Text → Option Text
  | [] => none
  | c :: t => if isBlank c then some (t.dropWhile isBlank) else none

/-- Passes over the first of the given words that the text begins with. -/
def anyWord? (words : List Text) (t : Text) : Option Text := words.findSome? (after? · t)

/-- The longest start of the text made of characters that satisfy `p`, if it is not empty, and the
rest. -/
def run? (p : Char → Bool) (t : Text) : Option (Text × Text) :=
  if (t.takeWhile p).isEmpty then none else some (t.takeWhile p, t.dropWhile p)

/-- A lowercase letter of ASCII. -/
def isLetter (c : Char) : Bool := 'a' ≤ c && c ≤ 'z'

/-- A digit of ASCII. -/
def isDigit (c : Char) : Bool := '0' ≤ c && c ≤ '9'

/-- A letter or digit of ASCII, a point or a hyphen. -/
def isDomain (c : Char) : Bool := isLetter c || isDigit c || c = '.' || c = '-'

/-- An amount of one to three digits, with blanks around it. -/
def amount? (t : Text) : Option (Text × Text) := do
  let t ← blanks? t
  let (digits, t) ← run? isDigit t
  let t ← blanks? t
  if digits.length ≤ 3 then some (digits, t) else none

/-! ## The phrases -/

/-- The phrase "last N hours" or "last N days". -/
def timeWindow? (t : Text) : Option TimeWindow := do
  let t ← after? "last" t
  let (amount, t) ← amount? t
  if Text.beginsWith t "hour" then some ⟨amount, .hours⟩
  else if Text.beginsWith t "day" then some ⟨amount, .days⟩
  else none

/-- The phrase "first N users", with its synonyms; it gives the digits. -/
def rowLimit? (t : Text) : Option Text := do
  let t ← anyWord? ["first", "top", "show"] t
  let (amount, t) ← amount? t
  let _ ← anyWord? ["user", "rows", "records"] t
  some amount

/-- The phrase "name starts with L", with its synonyms; it gives the letter. -/
def nameStart? (t : Text) : Option Char := do
  let t ← after? "name" t
  let t ← blanks? t
  let t ← anyWord? ["starts", "starting", "begins"] t
  let t ← blanks? t
  let t ← after? "with" t
  let t ← blanks? t
  t.head?.filter isLetter

/-- The phrase "name contains P"; it gives the part. -/
def namePart? (t : Text) : Option Text := do
  let t ← after? "name" t
  let t ← blanks? t
  let t ← after? "contains" t
  let t ← blanks? t
  let (part, _) ← run? (fun c => isLetter c || isDigit c) t
  some part

/-- The phrase "name ends with E"; it gives the ending. -/
def nameEnd? (t : Text) : Option Text := do
  let t ← after? "name" t
  let t ← blanks? t
  let t ← after? "ends" t
  let t ← blanks? t
  let t ← after? "with" t
  let t ← blanks? t
  let (ending, _) ← run? isLetter t
  some ending

/-- A connective, "from" or "in", at the start of a word, and after it a word of two letters, which
is given. -/
def connective? (before : Char) (t : Text) : Option Text := do
  guard (atWordEdge (some before) t)
  let t ← anyWord? ["from", "in"] t
  match ← blanks? t with
  | a :: b :: t =>
    if isLetter a && isLetter b && atWordEdge (some b) t then some [a, b] else none
  | _ => none

/-- The last connective that begins on the line. -/
def lastConnective? (before : Char) : Text → Option Text
  | [] => none
  | c :: t =>
    match if c = '\n' then none else lastConnective? c t with
    | some code => some code
    | none => connective? before (c :: t)

/-- The phrase "users from XX": a connective somewhere after the word, on the same line. It gives
the two letters after the last one. -/
def countryCode? (t : Text) : Option Text := do
  let t ← after? "user" t
  lastConnective? 'r' t

/-- The name of a plan after one of the filler words. -/
def planAfterFiller? (t : Text) : Option Text := do
  let t ← blanks? t
  let t ← anyWord? ["is", "="] t
  let t ← blanks? t
  let (name, _) ← run? isLetter t
  some name

/-- The name of a plan without a filler word. -/
def planDirectly? (t : Text) : Option Text := do
  let t ← blanks? t
  let (name, _) ← run? isLetter t
  some name

/-- The start of a phrase about a plan. -/
def planWord? (t : Text) : Option Text :=
  match after? "plan" t with
  | some t => some t
  | none => do
    let t ← after? "subscription" t
    let t ← blanks? t
    after? "plan" t

/-- The phrase "plan is P" or "plan P"; it gives the name. -/
def planName? (t : Text) : Option Text := do
  let t ← planWord? t
  match planAfterFiller? t with
  | some name => some name
  | none => planDirectly? t

/-- The phrase "emails with domain D"; it gives the domain. -/
def emailDomain? (t : Text) : Option Text := do
  let t ← after? "email" t
  let t ← blanks? ((after? "s" t).getD t)
  let t := ((anyWord? ["with", "having"] t).getD t).dropWhile isBlank
  let t ← after? "domain" t
  let t ← blanks? t
  let (domain, _) ← run? isDomain t
  some domain

end AskTable.Phrase
