import AskTable.Proofs.Sql.Grammar
import AskTable.Proofs.Sql.Lex
import AskTable.Proofs.Sql.Verdict
/-!
# Tables that a statement reads

A table is named directly behind `FROM` or `JOIN`, or behind a comma that follows another table,
whether that has an alias or not. The policy does not read statements in this way. It only looks for
the name of the fixed table, so an accepted statement has this name in some word or literal, and
what is said of tables beyond that is said by the grammar alone.

## Main definitions

* `Sql.Place` - where in a list of tables the reading of a statement has got to
* `Sql.roles` - which tokens are names of tables
* `Sql.ReadsOnlyTable` - only the fixed table is read, and no second one is listed after it
* `Sql.policyTokens` - the tokens of a statement as the policy reads it

## Main results

* `Sql.Query.readsOnlyTable`, `Sql.Query.readsOnlyTable_of_scan` - the sentences of the grammar, and
  the statements that write them, read only the fixed table
* `Sql.tables_of_check` - what the verdict of the policy says about tables
* `Sql.not_readsOnlyTable_of_check` - accepted statements that read other tables
-/

namespace AskTable.Sql

open Text (includes isBlank)

/-! ## Reading lists of tables -/

/-- Does the keyword come before the name of a table? The token is in lower case. -/
def Token.opensTable : Token → Bool
  | .word w => w = "from" || w = "join"
  | _ => false

def Token.isWord : Token → Bool
  | .word _ => true
  | _ => false

/-- Where in a list of tables the reading of a statement has got to. -/
inductive Place where
  /-- in no list of tables -/
  | outside
  /-- behind `FROM` or `JOIN` -/
  | ahead
  /-- behind the name of a table -/
  | named
  /-- behind `AS` -/
  | aliasing
  /-- behind the alias of a table -/
  | aliased
  /-- behind a comma between two tables -/
  | listing
deriving DecidableEq, Repr

/-- The place behind a token. -/
def Place.next (place : Place) (token : Token) : Place :=
  if token.opensTable then .ahead
  else match place with
    | .outside => .outside
    | .ahead | .listing => if token.isWord then .named else .outside
    | .named =>
      if token = .mark "," then .listing
      else if token = .word "as" then .aliasing
      else if token.isWord then .aliased
      else .outside
    | .aliasing => if token.isWord then .aliased else .outside
    | .aliased => if token = .mark "," then .listing else .outside

/-- What a token is to the tables that are read. -/
inductive Role where
  | other
  /-- the name of a table, directly behind a keyword -/
  | table
  /-- the name of a table, listed after another one -/
  | furtherTable
deriving DecidableEq, Repr

/-- The role of a token at a place. -/
def Place.role (place : Place) (token : Token) : Role :=
  match place with
  | .ahead => if token.isWord then .table else .other
  | .listing => if token.isWord then .furtherTable else .other
  | _ => .other

/-- The tokens with their roles, from a place on. -/
def roles (place : Place) : List Token → List (Role × Token)
  | [] => []
  | token :: tokens => (place.role token, token) :: roles (place.next token) tokens

/-- Each table that is named behind a keyword is the fixed table, with its database or without, and
no second table is listed after it. -/
def ReadsOnlyTable (tokens : List Token) : Prop :=
  ∀ p ∈ roles .outside tokens,
    (p.1 = .table → p.2 = .word tableIdent ∨ p.2 = .word "default.mock_data") ∧
      p.1 ≠ .furtherTable

instance (tokens : List Token) : Decidable (ReadsOnlyTable tokens) :=
  inferInstanceAs (Decidable (∀ p ∈ roles .outside tokens, _))

variable {tokens : List Token} {place : Place}

theorem map_snd_roles (place : Place) (tokens : List Token) :
    (roles place tokens).map Prod.snd = tokens := by
  induction tokens generalizing place with
  | nil => rfl
  | cons token tokens ih => rw [roles, List.map_cons, ih]

theorem roles_append (place : Place) (tokens tokens' : List Token) :
    roles place (tokens ++ tokens') =
      roles place tokens ++ roles (tokens.foldl Place.next place) tokens' := by
  induction tokens generalizing place with
  | nil => rfl
  | cons token tokens ih =>
    rw [List.cons_append, roles, ih, List.foldl_cons, roles, List.cons_append]

/-! ## Tokens in lower case -/

namespace Token

/-- A token in lower case, letter by letter. -/
def lowered : Token → Token
  | .word w => .word (Sql.lowered w)
  | .number digits => .number digits
  | .literal content => .literal (Sql.lowered content)
  | .mark m => .mark m

/-- Is the token no keyword that a table follows, in whatever case? -/
def isPlain (token : Token) : Bool := !token.lowered.opensTable

theorem opensTable_lowered {token : Token} (h : token.isPlain = true) :
    token.lowered.opensTable = false := by
  simpa [isPlain] using h

@[simp] theorem lowered_eq_mark_iff {token : Token} {m : Text} :
    token.lowered = .mark m ↔ token = .mark m := by
  cases token <;> simp [lowered]

end Token

/-- Where no table is named yet, plain tokens name none. -/
theorem roles_outside (h : ∀ token ∈ tokens, token.isPlain = true) :
    (∀ p ∈ roles .outside (tokens.map Token.lowered), p.1 = .other) ∧
      (tokens.map Token.lowered).foldl Place.next .outside = .outside := by
  induction tokens with
  | nil => simp [roles]
  | cons token tokens ih =>
    rw [List.forall_mem_cons] at h
    -- Only a keyword leads out of this place, and the induction goes on from the same one.
    have hnext : Place.next .outside token.lowered = .outside := by
      rw [Place.next, Token.opensTable_lowered h.1, if_neg Bool.false_ne_true]
    obtain ⟨hroles, hplace⟩ := ih h.2
    rw [List.map_cons, roles, List.foldl_cons, hnext]
    refine ⟨?_, hplace⟩
    rw [List.forall_mem_cons]
    exact ⟨rfl, hroles⟩

/-- What may stand behind the name of a table: nothing, or a word that does not announce an alias
and that no comma follows. -/
inductive IsClause : List Token → Prop
  | nil : IsClause []
  | cons {w : Text} {token : Token} {tokens : List Token} (has : Sql.lowered w ≠ "as")
      (hcomma : token ≠ .mark ",") : IsClause (.word w :: token :: tokens)

/-- Behind the name of a table, a clause of plain tokens names none. -/
theorem roles_named (hclause : IsClause tokens) (h : ∀ token ∈ tokens, token.isPlain = true) :
    ∀ p ∈ roles .named (tokens.map Token.lowered), p.1 = .other := by
  cases hclause with
  | nil => simp [roles]
  | @cons w token tokens has hcomma =>
    rw [List.forall_mem_cons, List.forall_mem_cons] at h
    -- The word is read as an alias, and without a comma the list of tables ends behind it.
    have hword : Place.next .named (Token.word w).lowered = .aliased := by
      rw [Place.next, Token.opensTable_lowered h.1, if_neg Bool.false_ne_true]
      simpa [Token.lowered, Token.isWord] using has
    have htoken : Place.next .aliased token.lowered = .outside := by
      rw [Place.next, Token.opensTable_lowered h.2.1, if_neg Bool.false_ne_true]
      simpa using hcomma
    rw [List.map_cons, List.map_cons, roles, roles, hword, htoken, List.forall_mem_cons,
      List.forall_mem_cons]
    exact ⟨rfl, rfl, (roles_outside h.2.2).1⟩

/-! ## Sentences of the grammar -/

/-- Fixed tokens of the grammar are no keywords that a table follows, and an alias may not be. -/
theorem IsTreeToken.isPlain {names : List Identifier} {token : Token}
    (h : IsTreeToken names token) (hnames : ∀ name ∈ names, name.token.isPlain = true) :
    token.isPlain = true := by
  cases h with
  | fixed h =>
    have hfixed : ∀ token ∈ grammarTokens, token.isPlain = true := by decide
    exact hfixed token h
  | number n => rfl
  | literal content => rfl
  | identifier h => exact hnames _ h

theorem Condition.exists_tokens_eq_cons (condition : Condition) :
    ∃ (column : Column) (tokens : List Token), condition.tokens = column.token :: tokens := by
  cases condition with
  | compare column comparator value => exact ⟨column, _, rfl⟩
  | like column pattern => exact ⟨column, _, rfl⟩
  | since column unit amount => exact ⟨column, _, rfl⟩

/-- What stands behind the table of a tree begins with the first clause that the tree has. -/
theorem Query.isClause (query : Query) : IsClause query.clauseTokens := by
  obtain ⟨select, filter, grouping, ordering, limit⟩ := query
  cases filter with
  | some filter =>
    -- Behind the keyword stands a column, so the second token is no comma.
    obtain ⟨column, tokens, hfirst⟩ := filter.first.exists_tokens_eq_cons
    simp only [clauseTokens, Option.elim_some, Filter.tokens, hfirst, List.cons_append]
    exact .cons (by decide) (by cases column <;> decide)
  | none =>
    cases grouping with
    | some grouping => exact .cons (by decide) (by decide)
    | none =>
      cases ordering with
      | some ordering => exact .cons (by decide) (by decide)
      | none =>
        cases limit with
        | some number => exact .cons (by decide) Token.noConfusion
        | none => exact .nil

/-- The sentences of the grammar read only the fixed table, if no alias is a keyword that a table
follows. -/
theorem Query.readsOnlyTable (query : Query)
    (hnames : ∀ name ∈ query.identifiers, name.token.isPlain = true) :
    ReadsOnlyTable (query.tokens.map Token.lowered) := by
  -- All tokens in front of the table and behind it have no role.
  have hfront : ∀ token ∈ Token.word "SELECT" :: query.select.tokens, token.isPlain = true := by
    rw [List.forall_mem_cons]
    exact ⟨by decide, fun token h => (query.isTreeToken_select token h).isPlain hnames⟩
  have hclauses : ∀ token ∈ query.clauseTokens, token.isPlain = true :=
    fun token h => (query.isTreeToken_clauses token h).isPlain hnames
  obtain ⟨hroles, hplace⟩ := roles_outside hfront
  have hnamed := roles_named query.isClause hclauses
  -- Between the two parts the places are followed step by step.
  rw [ReadsOnlyTable, query.tokens_eq, List.map_append, roles_append, hplace,
    List.forall_mem_append]
  constructor
  · intro p hp
    simp [hroles p hp]
  · have hfrom : Place.next .outside (Token.word "FROM").lowered = .ahead := by decide
    have htable : Place.next .ahead (Token.word table).lowered = .named := by decide
    rw [List.map_cons, List.map_cons, roles, roles, hfrom, htable, List.forall_mem_cons,
      List.forall_mem_cons]
    refine ⟨by decide, by decide, fun p hp => ?_⟩
    simp [hnamed p hp]

/-- The tokens of a statement as the policy reads it. -/
def policyTokens (t : Text) : List Token := lex (Text.lowercase (Text.trim t))

/-- A statement that writes a sentence of the grammar, in any case and spacing, reads the fixed table
and no other. The policy has no part in this. -/
theorem Query.readsOnlyTable_of_scan (query : Query) {t : Text}
    (hscan : scan (Text.lowercase (Text.trim t)) = some (query.tokens.map Token.lowered))
    (hnames : ∀ name ∈ query.identifiers, name.token.isPlain = true) :
    ReadsOnlyTable (policyTokens t) := by
  -- A text of the grammar has one reading, so nothing but the tree matters.
  rw [policyTokens, lex_eq_of_scan hscan]
  exact query.readsOnlyTable hnames

/-! ## What the policy says about tables -/

theorem isName_tableIdent : IsName tableIdent where
  head := ⟨'m', "ock_data", rfl, by decide⟩
  chars := by
    have hchars : tableIdent.all isNameChar = true := by decide
    exact List.all_eq_true.mp hchars

/-- Only words are names of tables. -/
theorem exists_word_of_mem_roles {role : Role} {token : Token}
    (h : (role, token) ∈ roles place tokens) (hrole : role ≠ .other) :
    ∃ name, token = .word name := by
  induction tokens generalizing place with
  | nil => cases h
  | cons head tokens ih =>
    rcases List.mem_cons.mp h with heq | h
    · obtain ⟨rfl, rfl⟩ := Prod.mk.inj heq
      cases token with
      | word name => exact ⟨name, rfl⟩
      | _ => cases place <;> exact absurd rfl hrole
    · exact ih h

/-- The name of the fixed table occurs in an accepted statement: in the name of a table, or in some
other word or a literal, and the policy does not ask which. That an accepted statement reads the
fixed table and no other is so where it is a sentence of the grammar, whose literals may say
anything. -/
theorem tables_of_check {strictness : Strictness} {t : Text}
    (h : Policy.check ⟨tableIdent, strictness⟩ t = .ok ()) :
    ((∃ name, ((.table, .word name) ∈ roles .outside (policyTokens t) ∨
          (.furtherTable, .word name) ∈ roles .outside (policyTokens t)) ∧
          includes name tableIdent = true) ∨
      ∃ token, (.other, token) ∈ roles .outside (policyTokens t) ∧
        token.mentions tableIdent = true) ∧
    ∀ query : Query,
      scan (Text.lowercase (Text.trim t)) = some (query.tokens.map Token.lowered) →
      (∀ name ∈ query.identifiers, name.token.isPlain = true) → ReadsOnlyTable (policyTokens t) := by
  constructor
  · -- The policy has found the name in the text, so some token has it, whatever its role.
    have hincludes := (Policy.checkLowered_eq_ok_iff.mp h).2.2.1
    obtain ⟨token, htoken, hmentions⟩ := exists_mentions_of_includes isName_tableIdent hincludes
    have hmem : token ∈ (roles .outside (policyTokens t)).map Prod.snd := by
      rw [map_snd_roles]
      exact htoken
    obtain ⟨⟨role, token⟩, hp, rfl⟩ := List.mem_map.mp hmem
    cases role with
    | other => exact Or.inr ⟨token, hp, hmentions⟩
    | table =>
      obtain ⟨name, rfl⟩ := exists_word_of_mem_roles hp (by decide)
      exact Or.inl ⟨name, Or.inl hp, hmentions⟩
    | furtherTable =>
      obtain ⟨name, rfl⟩ := exists_word_of_mem_roles hp (by decide)
      exact Or.inl ⟨name, Or.inr hp, hmentions⟩
  · intro query hscan hnames
    exact query.readsOnlyTable_of_scan hscan hnames

/-- The number of all rows is asked for in a sentence of the grammar. -/
theorem readsOnlyTable_count :
    Policy.check ⟨tableIdent, .strict⟩ "SELECT count(*) FROM default.MOCK_DATA" = .ok () ∧
      ReadsOnlyTable (policyTokens "SELECT count(*) FROM default.MOCK_DATA") := by
  let query : Query :=
    ⟨.items ⟨.aggregate .count none, none⟩ [], none, none, none, none⟩
  have hcheck : Policy.check ⟨tableIdent, .strict⟩ "SELECT count(*) FROM default.MOCK_DATA" =
      .ok () := by decide +kernel
  have hwrite : Text.lowercase (Text.trim "SELECT count(*) FROM default.MOCK_DATA") =
      write (query.tokens.map Token.lowered) := by decide +kernel
  have hreadable : ∀ token ∈ query.tokens.map Token.lowered, token.isReadable = true := by
    decide +kernel
  refine ⟨hcheck, (tables_of_check hcheck).2 query ?_ ?_⟩
  · rw [hwrite]
    exact scan_write hreadable
  · exact List.forall_mem_nil _

/-! ## What the policy does not see -/

/-- A statement that only calls a column like the fixed table may read any table. -/
theorem check_aliased {strictness : Strictness} {name : Text} (h : IsHarmless name)
    (hne : name ≠ []) (hlast : ∀ c ∈ name.getLast?, isBlank c = false) :
    Policy.check ⟨tableIdent, strictness⟩ ("SELECT name AS mock_data FROM" ++ [' '] ++ name) =
      .ok () := by
  have hopening : IsOpening "SELECT name AS mock_data FROM" := by decide +kernel
  have hall : IsHarmless ("SELECT name AS mock_data FROM" ++ [' '] ++ name) := by
    -- No unwanted word reaches across the blank between the two parts.
    apply hopening.toIsHarmless.append h (List.cons_ne_nil _ _) (by simp)
    intro c hc
    rw [List.mem_singleton.mp hc]
    decide
  rw [List.append_assoc] at hall ⊢
  apply Policy.check_of_isHarmless rfl hopening hall
  intro c hc
  rw [List.getLast?_append_of_ne_nil _ (List.append_ne_nil_of_right_ne_nil _ hne),
    List.getLast?_append_of_ne_nil _ hne] at hc
  exact hlast c hc

/-- Accepted statements read a table of the system, under an alias or behind the fixed table. -/
theorem not_readsOnlyTable_of_check :
    (∀ strictness, Policy.check ⟨tableIdent, strictness⟩
      "SELECT name AS mock_data FROM system.users" = .ok ()) ∧
    ¬ ReadsOnlyTable (policyTokens "SELECT name AS mock_data FROM system.users") ∧
    (∀ strictness, Policy.check ⟨tableIdent, strictness⟩
      "SELECT * FROM default.MOCK_DATA, system.users" = .ok ()) ∧
    ¬ ReadsOnlyTable (policyTokens "SELECT * FROM default.MOCK_DATA, system.users") ∧
    ¬ ∀ (strictness : Strictness) (t : Text),
      Policy.check ⟨tableIdent, strictness⟩ t = .ok () → ReadsOnlyTable (policyTokens t) := by
  have hcheck : ∀ strictness, Policy.check ⟨tableIdent, strictness⟩
      "SELECT name AS mock_data FROM system.users" = .ok () := by
    intro strictness
    have hname : IsHarmless "system.users" := by decide +kernel
    have hsplit : "SELECT name AS mock_data FROM system.users".toList =
        "SELECT name AS mock_data FROM" ++ [' '] ++ "system.users" := by simp
    rw [hsplit]
    exact check_aliased hname (by decide) (Text.isBlank_getLast_of_all rfl)
  have hlisted : ∀ strictness, Policy.check ⟨tableIdent, strictness⟩
      "SELECT * FROM default.MOCK_DATA, system.users" = .ok () := by
    intro strictness
    cases strictness <;> decide +kernel
  have htables : ¬ ReadsOnlyTable (policyTokens "SELECT name AS mock_data FROM system.users") := by
    decide +kernel
  refine ⟨hcheck, htables, hlisted, by decide +kernel, fun hall => ?_⟩
  exact htables (hall .standard _ (hcheck .standard))

end AskTable.Sql
