import AskTable.Text.Basic
import AskTable.Text.LetterCaseTable
/-!
# Letter case

Full case conversion of the Unicode standard, without the rules of single languages. A character may
become several (`İ` in lower case, `ß` in upper case), and a capital sigma becomes a final sigma at
the end of a word.

## Main definitions

* `Text.lowercase`, `Text.uppercase` - the text in lower case and in upper case
* `Text.equalsIgnoringCase` - equality up to the case of ASCII letters

## Main results

* `Text.lowercase_ascii` - a text of ASCII characters is lowercased letter by letter
-/

namespace AskTable.Text

/-- The code point at the distance that the first fitting run gives. -/
def partner? : List CaseRun → Nat → Option Nat
  | [], _ => none
  | (first, last, step, distance) :: runs, n =>
    if n < first then none
    else if n ≤ last && (n - first) % step = 0 then some (n + distance).toNat
    else partner? runs n

/-- The lower case of one character where its neighbours do not matter. -/
def lowerOf (c : Char) : Text :=
  if c.toNat < 0x80 then [c.toLower]
  else if c = 'İ' then ['i', '\u0307']
  else [((partner? lowerRuns c.toNat).map Char.ofNat).getD c]

/-- The upper case of one character. -/
def upperOf (c : Char) : Text :=
  if c.toNat < 0x80 then [c.toUpper]
  else match upperSequences.lookup c.toNat with
    | some codes => codes.map Char.ofNat
    | none => [((partner? upperRuns c.toNat).map Char.ofNat).getD c]

/-- Is the next character that counts, after those to be passed over, a cased letter? -/
def meetsCased (t : Text) : Bool :=
  match t.dropWhile fun c => CodeRange.covers caseIgnorableRanges c.toNat with
  | [] => false
  | c :: _ => CodeRange.covers casedRanges c.toNat

/-- The lower case of `t` where `before` is what stands before it, last character first. A capital
sigma that a cased letter precedes and none follows ends its word. -/
def lowercaseFrom (before : Text) : Text → Text
  | [] => []
  | c :: t =>
    (if c = 'Σ' then [if meetsCased before && !meetsCased t then 'ς' else 'σ'] else lowerOf c)
      ++ lowercaseFrom (c :: before) t

/-- The text in lower case. -/
def lowercase (t : Text) : Text := lowercaseFrom [] t

/-- The text in upper case. -/
def uppercase (t : Text) : Text := t.flatMap upperOf

/-- Are the texts equal up to the case of ASCII letters? -/
def equalsIgnoringCase (t u : Text) : Bool := t.map Char.toLower == u.map Char.toLower

theorem lowercaseFrom_ascii {t : Text} (h : ∀ c ∈ t, c.toNat < 0x80) (before : Text) :
    lowercaseFrom before t = t.map Char.toLower := by
  induction t generalizing before with
  | nil => rfl
  | cons c t ih =>
    have hc : c.toNat < 0x80 := h c (by simp)
    have hs : c ≠ 'Σ' := by rintro rfl; exact absurd hc (by decide)
    simp [lowercaseFrom, hs, lowerOf, hc, ih (fun d hd => h d (List.mem_cons_of_mem _ hd))]

theorem lowercase_ascii {t : Text} (h : ∀ c ∈ t, c.toNat < 0x80) :
    lowercase t = t.map Char.toLower := lowercaseFrom_ascii h []

end AskTable.Text
