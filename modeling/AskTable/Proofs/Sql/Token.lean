import AskTable.Sql.Literal
import AskTable.Proofs.Text.Ascii
import AskTable.Proofs.Text.Search
/-!
# Tokens of statements

A statement is read from left to right, and there is one way to read it: blanks separate tokens, a
word or a number is as long as it can be, and a literal ends at the first quote that no backslash
precedes. Tokens are written with one blank between two of them, except around parentheses and
before commas.

## Main definitions

* `Sql.Token` - words, numbers, string literals and marks
* `Sql.scan` - the tokens of a text
* `Sql.write` - the text of tokens

## Main results

* `Sql.scan_write` - what is written is read back, whatever the literals hold
-/

namespace AskTable.Sql

open Text (after? after?_eq_some_iff isBlank isBlank_eq_false)
open Phrase (isDigit isDigit_iff)

/-- A token. A literal stands for its content, without quotes and escapes. -/
inductive Token where
  | word (w : Text)
  | number (digits : Text)
  | literal (content : Text)
  | mark (m : Text)
deriving DecidableEq, Repr

/-- The marks. One that another begins with comes later. -/
def marks : List Text := ["<=", ">=", "!=", "<", ">", "=", "*", ",", "(", ")"]

/-- Can the character continue a word? A point belongs to the name of a table in its database. -/
def isNameChar (c : Char) : Bool := c.isAlpha || isDigit c || c = '_' || c = '.'

/-- The token that a text begins with, and what follows it. -/
def readToken? (t : Text) : Option (Token × Text) :=
  match t with
  | [] => none
  | c :: u =>
    if c = '\'' then (readLiteral? u).map fun (content, rest) => (.literal content, rest)
    else if isDigit c then some (.number (t.takeWhile isDigit), t.dropWhile isDigit)
    else if c.isAlpha then some (.word (t.takeWhile isNameChar), t.dropWhile isNameChar)
    else marks.findSome? fun m => (after? m t).map fun rest => (.mark m, rest)

theorem length_readLiteral? {t content rest : Text} (h : readLiteral? t = some (content, rest)) :
    rest.length < t.length := by
  fun_induction readLiteral? t generalizing content with
  | case1 => cases h
  | case2 u =>
    obtain ⟨-, rfl⟩ := Prod.mk.inj (Option.some.inj h)
    simp
  | case3 c u ih =>
    obtain ⟨⟨v, r⟩, hv, hr⟩ := Option.map_eq_some_iff.mp h
    obtain ⟨-, rfl⟩ := Prod.mk.inj hr
    have := ih hv
    simp only [List.length_cons]
    omega
  | case4 c u _ _ ih =>
    obtain ⟨⟨v, r⟩, hv, hr⟩ := Option.map_eq_some_iff.mp h
    obtain ⟨-, rfl⟩ := Prod.mk.inj hr
    have := ih hv
    simp only [List.length_cons]
    omega

theorem length_dropWhile_cons {p : Char → Bool} {c : Char} (hc : p c = true) (t : Text) :
    ((c :: t).dropWhile p).length < (c :: t).length := by
  rw [List.dropWhile_cons_of_pos hc, List.length_cons]
  exact Nat.lt_succ_of_le (List.dropWhile_sublist p).length_le

theorem ne_nil_of_mem_marks : ∀ m ∈ marks, m ≠ [] := by decide

/-- A token takes at least one character. -/
theorem length_readToken? {t rest : Text} {token : Token}
    (h : readToken? t = some (token, rest)) : rest.length < t.length := by
  cases t with
  | nil => cases h
  | cons c u =>
    simp only [readToken?] at h
    -- A literal, digits, a word or a mark, in the order in which they are tried.
    split_ifs at h with hquote hdigit halpha
    · obtain ⟨⟨content, r⟩, hr, he⟩ := Option.map_eq_some_iff.mp h
      obtain ⟨-, rfl⟩ := Prod.mk.inj he
      exact (length_readLiteral? hr).trans (Nat.lt_succ_self _)
    · obtain ⟨-, rfl⟩ := Prod.mk.inj (Option.some.inj h)
      exact length_dropWhile_cons hdigit u
    · obtain ⟨-, rfl⟩ := Prod.mk.inj (Option.some.inj h)
      exact length_dropWhile_cons (by simp [isNameChar, halpha]) u
    · obtain ⟨m, hm, hrest⟩ := List.exists_of_findSome?_eq_some h
      obtain ⟨r, hr, he⟩ := Option.map_eq_some_iff.mp hrest
      obtain ⟨-, rfl⟩ := Prod.mk.inj he
      have hpos := List.length_pos_of_ne_nil (ne_nil_of_mem_marks m hm)
      rw [after?_eq_some_iff.mp hr, List.length_append]
      omega

/-- The tokens of a text, if it can be read to its end. -/
def scan (t : Text) : Option (List Token) :=
  match h : t.dropWhile isBlank with
  | [] => some []
  | c :: u =>
    match hr : readToken? (c :: u) with
    | none => none
    | some (token, rest) =>
      -- The rest is shorter, since a token takes at least one character.
      have : rest.length < t.length := by
        have hlt := length_readToken? hr
        rw [← h] at hlt
        exact hlt.trans_le (List.dropWhile_sublist isBlank).length_le
      (scan rest).map (token :: ·)
termination_by t.length

theorem scan_of_dropWhile_nil {t : Text} (h : t.dropWhile isBlank = []) : scan t = some [] := by
  rw [scan]
  split
  · rfl
  · rename_i hcons
    rw [h] at hcons
    cases hcons

theorem scan_of_dropWhile_cons {t u : Text} {c : Char} (h : t.dropWhile isBlank = c :: u) :
    scan t = (readToken? (c :: u)).bind fun (token, rest) => (scan rest).map (token :: ·) := by
  rw [scan]
  split
  · rename_i hnil
    rw [h] at hnil
    cases hnil
  · rename_i d v hcons
    rw [h] at hcons
    obtain ⟨rfl, rfl⟩ := List.cons.inj hcons
    split
    · rename_i hnone
      rw [hnone]
      rfl
    · rename_i token rest hsome
      simp only [hsome, Option.bind_some]

@[simp] theorem scan_nil : scan [] = some [] := scan_of_dropWhile_nil rfl

/-- A blank ahead of a token does not count. -/
theorem scan_cons_of_isBlank {c : Char} (hc : isBlank c = true) (t : Text) :
    scan (c :: t) = scan t := by
  have hdrop : (c :: t).dropWhile isBlank = t.dropWhile isBlank := List.dropWhile_cons_of_pos hc
  cases h : t.dropWhile isBlank with
  | nil => rw [scan_of_dropWhile_nil (hdrop.trans h), scan_of_dropWhile_nil h]
  | cons d u => rw [scan_of_dropWhile_cons (hdrop.trans h), scan_of_dropWhile_cons h]

theorem scan_of_readToken? {c : Char} {t rest : Text} {token : Token} (hc : isBlank c = false)
    (h : readToken? (c :: t) = some (token, rest)) :
    scan (c :: t) = (scan rest).map (token :: ·) := by
  rw [scan_of_dropWhile_cons (List.dropWhile_cons_of_neg (by simp [hc])), h]
  rfl

/-! ## Writing tokens -/

namespace Token

/-- A token as it stands in a statement. -/
def written : Token → Text
  | .word w => w
  | .number digits => digits
  | .literal content => quote content
  | .mark m => m

/-- Is the token one that can be read? A word begins with a letter. -/
def isReadable : Token → Bool
  | .word w => w.head?.any Char.isAlpha && w.all isNameChar
  | .number digits => !digits.isEmpty && digits.all isDigit
  | .literal _ => true
  | .mark m => m ∈ marks

@[simp] theorem isReadable_word (w : Text) :
    (word w).isReadable = (w.head?.any Char.isAlpha && w.all isNameChar) := rfl

@[simp] theorem isReadable_literal (content : Text) : (literal content).isReadable = true := rfl

@[simp] theorem isReadable_mark (m : Text) : (mark m).isReadable = decide (m ∈ marks) := rfl

/-- Do the two tokens stand next to each other without a blank? -/
def isTight (a b : Token) : Bool := a = .mark "(" || b ∈ [.mark "(", .mark ")", .mark ","]

/-- What stands between a token and those behind it. -/
def gap (a : Token) : List Token → Text
  | [] => []
  | b :: _ => if isTight a b then [] else [' ']

end Token

/-- The text of tokens. -/
def write : List Token → Text
  | [] => []
  | token :: tokens => token.written ++ (token.gap tokens ++ write tokens)

/-- A text at which a token ends: nothing, or a blank, a parenthesis or a comma first. -/
def EndsToken (rest : Text) : Prop := ∀ c ∈ rest.head?, c ∈ [' ', '(', ')', ',']

/-- A run of characters of a class ends where tokens end. -/
theorem span_of_endsToken {p : Char → Bool} {w rest : Text} (hw : ∀ c ∈ w, p c = true)
    (hp : ∀ c ∈ [' ', '(', ')', ','], p c = false) (hr : EndsToken rest) :
    (w ++ rest).takeWhile p = w ∧ (w ++ rest).dropWhile p = rest :=
  Text.span_append hw fun d hd => hp d (hr d hd)

/-- A readable word begins with a letter and has only characters of names. -/
theorem isReadable_word_iff {w : Text} : (Token.word w).isReadable = true ↔
    (∃ c u, w = c :: u ∧ c.isAlpha = true) ∧ ∀ c ∈ w, isNameChar c = true := by
  cases w <;> simp [Token.isReadable]

theorem isReadable_number_iff {digits : Text} : (Token.number digits).isReadable = true ↔
    digits ≠ [] ∧ ∀ c ∈ digits, isDigit c = true := by
  simp [Token.isReadable]

theorem readToken?_word {w rest : Text} (hw : (Token.word w).isReadable = true)
    (hr : EndsToken rest) : readToken? (w ++ rest) = some (.word w, rest) := by
  obtain ⟨⟨c, u, rfl, hc⟩, hall⟩ := isReadable_word_iff.mp hw
  obtain ⟨htake, hdrop⟩ := span_of_endsToken hall (by simp [isNameChar, isDigit]) hr
  have hbounds := Text.isAlpha_iff.mp hc
  -- A letter is neither a quote nor a digit, so the earlier branches do not apply.
  have hquote : c ≠ '\'' := by
    rintro rfl
    exact absurd hc (by decide)
  have hdigit : isDigit c = false := by
    refine Bool.eq_false_iff.mpr fun hd => ?_
    have := isDigit_iff.mp hd
    omega
  rw [List.cons_append] at htake hdrop ⊢
  simp [readToken?, hquote, hdigit, hc, htake, hdrop]

theorem readToken?_number {digits rest : Text} (hd : (Token.number digits).isReadable = true)
    (hr : EndsToken rest) : readToken? (digits ++ rest) = some (.number digits, rest) := by
  obtain ⟨hne, hall⟩ := isReadable_number_iff.mp hd
  obtain ⟨c, u, rfl⟩ := List.exists_cons_of_ne_nil hne
  obtain ⟨htake, hdrop⟩ := span_of_endsToken hall (by simp [isDigit]) hr
  have hc : isDigit c = true := hall c List.mem_cons_self
  -- A digit is not a quote, so the branch of literals does not apply.
  have hquote : c ≠ '\'' := by
    rintro rfl
    exact absurd hc (by decide)
  rw [List.cons_append] at htake hdrop ⊢
  simp [readToken?, hquote, hc, htake, hdrop]

theorem readToken?_literal (content rest : Text) :
    readToken? (quote content ++ rest) = some (.literal content, rest) := by
  have h := readLiteral?_quote content rest
  rw [quote, List.cons_append, List.drop_one, List.tail_cons] at h
  rw [quote, List.cons_append, readToken?, if_pos rfl, h]
  rfl

/-- No mark goes on with an equality sign where tokens end. -/
theorem after?_eq_none_of_endsToken {rest : Text} (hr : EndsToken rest) :
    after? ['='] rest = none := by
  cases rest with
  | nil => rfl
  | cons d u =>
    have hd : '=' ≠ d := by
      rintro rfl
      exact absurd (hr '=' rfl) (by decide)
    rw [after?, if_neg hd]

/-- An opening parenthesis may have anything after it. Other marks end where tokens end. -/
theorem readToken?_mark {m rest : Text} (hm : m ∈ marks) (hr : m = ['('] ∨ EndsToken rest) :
    readToken? (m ++ rest) = some (.mark m, rest) := by
  rcases hr with rfl | hr
  · simp [readToken?, marks, after?, isDigit]
  · -- A mark that is tried earlier would have to go on with an equality sign.
    have heq := after?_eq_none_of_endsToken hr
    simp only [marks, List.mem_cons, List.not_mem_nil, or_false] at hm
    rcases hm with rfl | rfl | rfl | rfl | rfl | rfl | rfl | rfl | rfl | rfl <;>
      simp [readToken?, marks, after?, isDigit, heq]

/-- A readable token is read back from what is written, where the token can end. -/
theorem readToken?_written {token : Token} {rest : Text} (ht : token.isReadable = true)
    (hr : token = .mark ['('] ∨ EndsToken rest) :
    readToken? (token.written ++ rest) = some (token, rest) := by
  cases token with
  | word w => exact readToken?_word ht (hr.resolve_left (by simp))
  | number digits => exact readToken?_number ht (hr.resolve_left (by simp))
  | literal content => exact readToken?_literal content rest
  | mark m => exact readToken?_mark (of_decide_eq_true ht) (hr.imp_left Token.mark.inj)

/-- A readable token begins with a character that is not blank. -/
theorem exists_written_eq_cons {token : Token} (ht : token.isReadable = true) :
    ∃ c u, token.written = c :: u ∧ isBlank c = false := by
  cases token with
  | word w =>
    obtain ⟨⟨c, u, rfl, hc⟩, -⟩ := isReadable_word_iff.mp ht
    have := Text.isAlpha_iff.mp hc
    exact ⟨c, u, rfl, isBlank_eq_false (by omega) (by omega)⟩
  | number digits =>
    obtain ⟨hne, hall⟩ := isReadable_number_iff.mp ht
    obtain ⟨c, u, rfl⟩ := List.exists_cons_of_ne_nil hne
    have := isDigit_iff.mp (hall c List.mem_cons_self)
    exact ⟨c, u, rfl, isBlank_eq_false (by omega) (by omega)⟩
  | literal content => exact ⟨'\'', _, rfl, by decide⟩
  | mark m =>
    simp only [Token.isReadable, marks, List.mem_cons, List.not_mem_nil, or_false,
      decide_eq_true_eq] at ht
    rcases ht with rfl | rfl | rfl | rfl | rfl | rfl | rfl | rfl | rfl | rfl <;>
      exact ⟨_, _, rfl, by decide⟩

/-- Behind a token stand an end, a blank, a parenthesis or a comma, unless the token opens a
parenthesis. -/
theorem endsToken_gap (token : Token) (tokens : List Token) :
    token = .mark ['('] ∨ EndsToken (token.gap tokens ++ write tokens) := by
  cases tokens with
  | nil => exact Or.inr fun c hc => by simp [Token.gap, write] at hc
  | cons next tokens =>
    -- Without a blank, one of the two tokens is a parenthesis or the next one is a comma.
    by_cases htight : token.isTight next
    · simp only [Token.isTight, Bool.or_eq_true, decide_eq_true_eq, List.mem_cons,
        List.not_mem_nil, or_false] at htight
      refine htight.imp_right fun hnext => ?_
      rcases hnext with rfl | rfl | rfl <;>
        simp [EndsToken, Token.gap, Token.isTight, write, Token.written]
    · refine Or.inr fun c hc => ?_
      rw [Token.gap, if_neg htight] at hc
      obtain rfl := Option.some.inj hc
      exact List.mem_cons_self

/-- The blank between two tokens does not count. -/
theorem scan_gap (token : Token) (tokens : List Token) :
    scan (token.gap tokens ++ write tokens) = scan (write tokens) := by
  cases tokens with
  | nil => rfl
  | cons next tokens =>
    rw [Token.gap]
    split
    · rfl
    · exact scan_cons_of_isBlank (by decide) _

/-- What is written is read back, token by token. -/
theorem scan_write {tokens : List Token} (h : ∀ token ∈ tokens, token.isReadable = true) :
    scan (write tokens) = some tokens := by
  induction tokens with
  | nil => exact scan_nil
  | cons token tokens ih =>
    have htoken := h token List.mem_cons_self
    have hread := readToken?_written htoken (endsToken_gap token tokens)
    obtain ⟨c, u, hcu, hc⟩ := exists_written_eq_cons htoken
    rw [write]
    -- The text has to be seen to begin with a character that is not blank.
    rw [hcu, List.cons_append] at hread ⊢
    rw [scan_of_readToken? hc hread, scan_gap,
      ih fun t ht => h t (List.mem_cons_of_mem token ht), Option.map_some]

end AskTable.Sql
