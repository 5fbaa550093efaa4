import AskTable.Proofs.Json.Grammar
import AskTable.Proofs.Json.Record
/-!
# Spellings of a string

A text can be written as a JSON string in many ways. A character stands for itself, unless it is a
quote, a backslash or a control character; some have an escape of one letter, and each one can be
escaped by the digits of its code point, or by those of two surrogates if it has more than 16 bits.
The reader takes every spelling for the text that is spelled, and the printer chooses one of them.
Around strings and the other tokens there may be spaces, which the reader passes over.

## Main definitions

* `Json.IsHexQuad` - four hexadecimal digits that write a number
* `Json.SpellsCharacter` - what may stand for a character in a string
* `Json.Spells`, `Json.SpellsString` - the spellings of a text, without its quotes and with them
* `Json.IsSpaces` - what may stand between tokens

## Main results

* `Json.SpellsCharacter.readString_append` - a spelled character is read
* `Json.Spells.readString_append` - a spelled text is read, whatever follows
* `Json.SpellsString.feed_notMem` - a string is written on one line, whatever its spelling
* `Json.SpellsString.nextKey_true`, `Json.SpellsString.nextKey_false` - a spelled key is read
* `Json.spells_flatMap_escape` - the printer spells the text that it writes
-/

namespace AskTable.Json

variable {digits piece spelled t : Text} {c : Char} {n : Nat}

/-! ## Hexadecimal digits -/

/-- A hexadecimal digit, in either letter case. -/
def IsHexDigit (c : Char) (n : Nat) : Prop :=
  n < 16 ∧ (c = Nat.digitChar n ∨ c = (Nat.digitChar n).toUpper)

theorem hexDigit?_toUpper_digitChar :
    ∀ n < 16, Text.hexDigit? (Nat.digitChar n).toUpper = some n := by
  decide +kernel

theorem IsHexDigit.hexDigit?_eq (h : IsHexDigit c n) : Text.hexDigit? c = some n := by
  obtain ⟨hn, rfl | rfl⟩ := h
  · exact hexDigit?_digitChar n hn
  · exact hexDigit?_toUpper_digitChar n hn

/-- Four hexadecimal digits that write a number. -/
inductive IsHexQuad : Text → Nat → Prop
  | mk {a b c d : Char} {k l m n : Nat} (ha : IsHexDigit a k) (hb : IsHexDigit b l)
      (hc : IsHexDigit c m) (hd : IsHexDigit d n) :
      IsHexQuad [a, b, c, d] (((k * 16 + l) * 16 + m) * 16 + n)

theorem IsHexQuad.exists_hexCode? (h : IsHexQuad digits n) :
    ∃ a b c d, digits = [a, b, c, d] ∧ hexCode? a b c d = some n := by
  obtain ⟨ha, hb, hc, hd⟩ := h
  refine ⟨_, _, _, _, rfl, ?_⟩
  rw [hexCode?, ha.hexDigit?_eq, hb.hexDigit?_eq, hc.hexDigit?_eq, hd.hexDigit?_eq]
  rfl

/-- The two digits of a code point below 256, behind two zeros, write the code point. -/
theorem isHexQuad_hexPair (h : n < 0x100) : IsHexQuad ('0' :: '0' :: hexPair n) n := by
  have hdigit {k : Nat} (hk : k < 16) : IsHexDigit (Nat.digitChar k) k := ⟨hk, Or.inl rfl⟩
  have hquad := IsHexQuad.mk (hdigit (by decide : 0 < 16)) (hdigit (by decide : 0 < 16))
    (hdigit (by omega : n / 16 < 16)) (hdigit (by omega : n % 16 < 16))
  have hvalue : ((0 * 16 + 0) * 16 + n / 16) * 16 + n % 16 = n := by omega
  rwa [hvalue] at hquad

/-! ## Characters -/

/-- The letters that stand for a character behind a backslash. -/
def shortEscapes : List (Char × Char) :=
  [('"', '"'), ('\\', '\\'), ('/', '/'), ('b', '\x08'), ('f', '\x0c'), ('n', '\n'), ('r', '\r'),
    ('t', '\t')]

/-- What may stand for a character in a string. -/
inductive SpellsCharacter : Text → Char → Prop
  | plain {c : Char} (hcontrol : 0x20 ≤ c.toNat) (hquote : c ≠ '"') (hbackslash : c ≠ '\\') :
      SpellsCharacter [c] c
  | short {letter c : Char} (h : (letter, c) ∈ shortEscapes) : SpellsCharacter ['\\', letter] c
  | code {digits : Text} {c : Char} (h : IsHexQuad digits c.toNat) :
      SpellsCharacter ('\\' :: 'u' :: digits) c
  | pair {first second : Text} {c : Char} {high low : Nat} (hfirst : IsHexQuad first high)
      (hsecond : IsHexQuad second low) (hhigh : 0xD800 ≤ high ∧ high ≤ 0xDBFF)
      (hlow : 0xDC00 ≤ low ∧ low ≤ 0xDFFF)
      (hc : c.toNat = (high - 0xD800) * 0x400 + (low - 0xDC00) + 0x10000) :
      SpellsCharacter ('\\' :: 'u' :: (first ++ '\\' :: 'u' :: second)) c

theorem IsHexDigit.le_toNat (h : IsHexDigit c n) : 0x20 ≤ c.toNat := by
  have hdigits : ∀ n < 16, 0x20 ≤ (Nat.digitChar n).toNat ∧
      0x20 ≤ (Nat.digitChar n).toUpper.toNat := by decide
  obtain ⟨hn, rfl | rfl⟩ := h
  · exact (hdigits n hn).1
  · exact (hdigits n hn).2

theorem IsHexQuad.le_toNat (h : IsHexQuad digits n) : ∀ d ∈ digits, 0x20 ≤ d.toNat := by
  obtain ⟨ha, hb, hc, hd⟩ := h
  simp only [List.forall_mem_cons]
  exact ⟨ha.le_toNat, hb.le_toNat, hc.le_toNat, hd.le_toNat, List.forall_mem_nil _⟩

/-- No spelling has a control character. -/
theorem SpellsCharacter.le_toNat (h : SpellsCharacter piece c) : ∀ d ∈ piece, 0x20 ≤ d.toNat := by
  have hbackslash : 0x20 ≤ '\\'.toNat := by decide
  have hu : 0x20 ≤ 'u'.toNat := by decide
  cases h with
  | plain hcontrol _ _ => rwa [List.forall_mem_singleton]
  | short h =>
    have hletters : ∀ pair ∈ shortEscapes, 0x20 ≤ pair.1.toNat := by decide
    simp only [List.forall_mem_cons]
    exact ⟨hbackslash, hletters _ h, List.forall_mem_nil _⟩
  | code h =>
    simp only [List.forall_mem_cons]
    exact ⟨hbackslash, hu, h.le_toNat⟩
  | pair hfirst hsecond _ _ _ =>
    simp only [List.forall_mem_cons, List.forall_mem_append]
    exact ⟨hbackslash, hu, hfirst.le_toNat, hbackslash, hu, hsecond.le_toNat⟩

/-- A character that needs no escape is read as it is. -/
theorem readString_cons (hquote : c ≠ '"') (hbackslash : c ≠ '\\') (hcontrol : ¬ c.toNat < 0x20)
    (t : Text) : readString (c :: t) = prepend c (readString t) := by
  rw [readString, if_neg hcontrol]
  · exact hquote
  all_goals
    intros
    contradiction

/-- The digits of a code point are read as the character. -/
theorem readString_code (h : IsHexQuad digits c.toNat) (t : Text) :
    readString ('\\' :: 'u' :: (digits ++ t)) = prepend c (readString t) := by
  obtain ⟨a, b, d, e, rfl, hcode⟩ := h.exists_hexCode?
  -- A character is no surrogate.
  have hvalid : c.toNat < 0xD800 ∨ 0xDFFF < c.toNat ∧ c.toNat < 0x110000 := c.valid
  change readString ('\\' :: 'u' :: a :: b :: d :: e :: t) = _
  rw [readString, hcode]
  change (if _ then _ else if _ then _ else _) = _
  rw [if_neg (by omega), if_pos (by omega), Char.ofNat_toNat]

/-- The digits of two surrogates are read as the character. -/
theorem readString_pair {first second : Text} {high low : Nat} (hfirst : IsHexQuad first high)
    (hsecond : IsHexQuad second low) (hhigh : 0xD800 ≤ high ∧ high ≤ 0xDBFF)
    (hlow : 0xDC00 ≤ low ∧ low ≤ 0xDFFF)
    (hc : c.toNat = (high - 0xD800) * 0x400 + (low - 0xDC00) + 0x10000) (t : Text) :
    readString ('\\' :: 'u' :: (first ++ '\\' :: 'u' :: (second ++ t))) =
      prepend c (readString t) := by
  obtain ⟨a, b, d, e, rfl, hcode⟩ := hfirst.exists_hexCode?
  obtain ⟨a', b', d', e', rfl, hcode'⟩ := hsecond.exists_hexCode?
  change readString
    ('\\' :: 'u' :: a :: b :: d :: e :: '\\' :: 'u' :: a' :: b' :: d' :: e' :: t) = _
  rw [readString, hcode]
  change (if _ then _ else if _ then _ else _) = _
  -- The first code is a leading surrogate, so the digits of a trailing one are asked for.
  rw [if_neg (by omega), if_neg (by omega)]
  simp only [hcode']
  rw [if_neg (by omega), ← hc, Char.ofNat_toNat]

/-- A spelled character is read, whatever follows. -/
theorem SpellsCharacter.readString_append (h : SpellsCharacter piece c) (t : Text) :
    readString (piece ++ t) = prepend c (readString t) := by
  cases h with
  | plain hcontrol hquote hbackslash =>
    exact readString_cons hquote hbackslash (Nat.not_lt.mpr hcontrol) t
  | short h =>
    simp only [shortEscapes, List.mem_cons, Prod.mk.injEq, List.not_mem_nil, or_false] at h
    rcases h with ⟨rfl, rfl⟩ | ⟨rfl, rfl⟩ | ⟨rfl, rfl⟩ | ⟨rfl, rfl⟩ | ⟨rfl, rfl⟩ | ⟨rfl, rfl⟩ |
      ⟨rfl, rfl⟩ | ⟨rfl, rfl⟩
    all_goals rfl
  | code h => exact readString_code h t
  | pair hfirst hsecond hhigh hlow hc =>
    rw [List.cons_append, List.cons_append, List.append_assoc]
    exact readString_pair hfirst hsecond hhigh hlow hc t

theorem spellsCharacter_escape (c : Char) : SpellsCharacter (escape c) c := by
  rw [escape]
  split_ifs with hquote hbackslash hn hr ht hb hf hcontrol
  · exact .short (by subst hquote; decide)
  · exact .short (by subst hbackslash; decide)
  · exact .short (by subst hn; decide)
  · exact .short (by subst hr; decide)
  · exact .short (by subst ht; decide)
  · exact .short (by subst hb; decide)
  · exact .short (by subst hf; decide)
  · exact .code (isHexQuad_hexPair (by omega))
  · exact .plain (Nat.le_of_not_lt hcontrol) hquote hbackslash

/-! ## Texts -/

/-- The spellings of a text. -/
inductive Spells : Text → Text → Prop
  | nil : Spells [] []
  | cons {piece spelled : Text} {c : Char} {t : Text} (hc : SpellsCharacter piece c)
      (ht : Spells spelled t) : Spells (piece ++ spelled) (c :: t)

/-- The spellings of a text between quotes. -/
inductive SpellsString : Text → Text → Prop
  | mk {spelled t : Text} (h : Spells spelled t) : SpellsString ('"' :: (spelled ++ ['"'])) t

/-- A spelled text is read up to its closing quote, whatever follows. -/
theorem Spells.readString_append (h : Spells spelled t) (rest : Text) :
    readString (spelled ++ '"' :: rest) = .ok (t, rest) := by
  induction h with
  | nil => rfl
  | cons hc _ ih => rw [List.append_assoc, hc.readString_append, ih, prepend]

theorem Spells.le_toNat (h : Spells spelled t) : ∀ d ∈ spelled, 0x20 ≤ d.toNat := by
  induction h with
  | nil => exact List.forall_mem_nil _
  | cons hc _ ih => exact List.forall_mem_append.mpr ⟨hc.le_toNat, ih⟩

/-- No spelling of a string has a line feed. -/
theorem SpellsString.feed_notMem (h : SpellsString spelled t) : '\n' ∉ spelled := by
  obtain ⟨h⟩ := h
  simp only [List.mem_cons, List.mem_append, List.not_mem_nil, or_false, not_or]
  exact ⟨by decide, fun hfeed => absurd (h.le_toNat '\n' hfeed) (by decide), by decide⟩

theorem spells_flatMap_escape (t : Text) : Spells (t.flatMap escape) t := by
  induction t with
  | nil => exact .nil
  | cons c t ih =>
    rw [List.flatMap_cons]
    exact .cons (spellsCharacter_escape c) ih

theorem spellsString_quote (t : Text) : SpellsString (quote t) t := by
  rw [quote, List.append_assoc]
  exact .mk (spells_flatMap_escape t)

/-! ## Tokens -/

variable {a b key value rest : Text}

/-- What may stand between tokens. -/
def IsSpaces (t : Text) : Prop := ∀ c ∈ t, c ∈ [' ', '\n', '\t', '\r']

instance : DecidablePred IsSpaces := List.decidableBAll (· ∈ [' ', '\n', '\t', '\r'])

theorem isSpaces_nil : IsSpaces [] := nofun

theorem skipSpaces_append (h : IsSpaces a) (t : Text) : skipSpaces (a ++ t) = skipSpaces t := by
  refine List.dropWhile_append_of_pos fun c hc => ?_
  have hmem := h c hc
  simp only [List.mem_cons, List.not_mem_nil, or_false] at hmem
  rcases hmem with rfl | rfl | rfl | rfl <;> rfl

theorem skipSpaces_eq_nil (h : IsSpaces t) : skipSpaces t = [] := by
  have hskip := skipSpaces_append h []
  rwa [List.append_nil] at hskip

/-- A string begins with a quote, and what comes behind that is read up to its end. -/
theorem SpellsString.exists_append_eq {s : Text} (h : SpellsString value s) (rest : Text) :
    ∃ body, value ++ rest = '"' :: body ∧ readString body = .ok (s, rest) := by
  obtain ⟨h⟩ := h
  refine ⟨_, ?_, h.readString_append rest⟩
  rw [List.cons_append, List.append_assoc]
  rfl

theorem SpellsString.nextKey_true {s : Text} (h : SpellsString key s) (ha : IsSpaces a)
    (rest : Text) : nextKey true (a ++ (key ++ rest)) = .ok (some s, rest) := by
  obtain ⟨body, hbody, hread⟩ := h.exists_append_eq rest
  rw [nextKey, skipSpaces_append ha, hbody]
  exact bind_eq_ok_iff.mpr ⟨_, hread, rfl⟩

theorem SpellsString.nextKey_false {s : Text} (h : SpellsString key s) (ha : IsSpaces a)
    (hb : IsSpaces b) (rest : Text) :
    nextKey false (a ++ ',' :: (b ++ (key ++ rest))) = .ok (some s, rest) := by
  obtain ⟨body, hbody, hread⟩ := h.exists_append_eq rest
  -- The comma ends the spaces before it, and those behind it are passed over on their own.
  have hcomma : skipSpaces (',' :: (b ++ (key ++ rest))) = ',' :: (b ++ (key ++ rest)) := rfl
  have hquote : skipSpaces (b ++ (key ++ rest)) = '"' :: body := by
    rw [skipSpaces_append hb, hbody]
    rfl
  have hkey : readKey body = .ok (some s, rest) := bind_eq_ok_iff.mpr ⟨_, hread, rfl⟩
  simp [nextKey, skipSpaces_append ha, hcomma, hquote, hkey]

theorem nextKey_end (ha : IsSpaces a) (rest : Text) :
    nextKey false (a ++ '\x7d' :: rest) = .ok (none, '\x7d' :: rest) := by
  rw [nextKey, skipSpaces_append ha]
  rfl

theorem readColon_append (ha : IsSpaces a) (rest : Text) :
    readColon (a ++ ':' :: rest) = .ok rest := by
  rw [readColon, skipSpaces_append ha]
  rfl

end AskTable.Json
