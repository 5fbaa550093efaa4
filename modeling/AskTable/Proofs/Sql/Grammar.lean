import AskTable.Intent.Basic
import AskTable.Sql.Statement
import AskTable.Proofs.Sql.Token
/-!
# The restricted grammar

The grammar allows one `SELECT` over the fixed table, with conditions, a grouping, an ordering and a
limit. Each rule of the grammar is a type of trees, and a tree has its tokens. Rules that a tree
cannot break stand in its type: a number has digits, an alias is an identifier.

## Main definitions

* `Sql.Query` - the trees of the grammar
* `Sql.Query.tokens` - the tokens of a tree
* `Sql.IsTreeToken` - which tokens a tree can have besides its first word and its table

## Main results

* `Sql.Query.isReadable` - the tokens of every tree can be read
* `Sql.scan_write_tokens` - every tree can be written, and is read back
* `Sql.Query.isTreeToken_select`, `Sql.Query.isTreeToken_clauses` - a tree has no other tokens
-/

namespace AskTable.Sql

open Phrase (isDigit)

/-- The columns of the table. -/
inductive Column where
  | id
  | name
  | email
  | age
  | signupDate
  | country
  | isActive
  | subscriptionPlane
  | lastLogin
  | balance
deriving DecidableEq, Repr

def Column.token : Column → Token
  | .id => .word "id"
  | .name => .word "name"
  | .email => .word "email"
  | .age => .word "age"
  | .signupDate => .word "signup_date"
  | .country => .word "country"
  | .isActive => .word "is_active"
  | .subscriptionPlane => .word "subscription_plane"
  | .lastLogin => .word "last_login"
  | .balance => .word "balance"

/-- The functions over all rows, or over the rows of a group. -/
inductive Aggregate where
  | count
  | sum
  | avg
  | min
  | max
deriving DecidableEq, Repr

def Aggregate.token : Aggregate → Token
  | .count => .word "count"
  | .sum => .word "sum"
  | .avg => .word "avg"
  | .min => .word "min"
  | .max => .word "max"

/-- An identifier: a letter, and then letters, digits and underscores. -/
structure Identifier where
  text : Text
  head : text.head?.any Char.isAlpha = true
  all : text.all (fun c => c.isAlpha || isDigit c || c = '_') = true

/-- A number: one digit or more. -/
structure Number where
  digits : Text
  ne_nil : digits ≠ []
  all : digits.all isDigit = true

def Identifier.token (name : Identifier) : Token := .word name.text

def Number.token (number : Number) : Token := .number number.digits

/-- What can be selected: a column, or a function of a column or of whole rows. -/
inductive Term where
  | column (c : Column)
  | aggregate (function : Aggregate) (of : Option Column)

def Term.tokens : Term → List Token
  | .column c => [c.token]
  | .aggregate function of =>
    [function.token, .mark "(", of.elim (.mark "*") Column.token, .mark ")"]

/-- A selected term, perhaps under an alias. -/
structure SelectItem where
  term : Term
  label : Option Identifier

def SelectItem.tokens (item : SelectItem) : List Token :=
  item.term.tokens ++ item.label.elim [] fun name => [.word "AS", name.token]

/-- All columns, or one item or more. -/
inductive SelectList where
  | all
  | items (first : SelectItem) (others : List SelectItem)

def SelectList.tokens : SelectList → List Token
  | .all => [.mark "*"]
  | .items first others => first.tokens ++ others.flatMap fun item => .mark "," :: item.tokens

/-- How a column is compared with a value. -/
inductive Comparator where
  | eq
  | ne
  | lt
  | le
  | gt
  | ge
deriving DecidableEq, Repr

def Comparator.token : Comparator → Token
  | .eq => .mark "="
  | .ne => .mark "!="
  | .lt => .mark "<"
  | .le => .mark "<="
  | .gt => .mark ">"
  | .ge => .mark ">="

/-- What a column is compared with. -/
inductive Value where
  | literal (content : Text)
  | number (n : Number)
  | bool (b : Bool)

def Value.token : Value → Token
  | .literal content => .literal content
  | .number n => n.token
  | .bool true => .word "true"
  | .bool false => .word "false"

/-- A condition on a row: a comparison, a pattern, or a window of time before now. -/
inductive Condition where
  | compare (column : Column) (comparator : Comparator) (value : Value)
  | like (column : Column) (pattern : Text)
  | since (column : Column) (unit : TimeUnit) (amount : Number)

def unitToken : TimeUnit → Token
  | .hours => .word "subtractHours"
  | .days => .word "subtractDays"

def Condition.tokens : Condition → List Token
  | .compare column comparator value => [column.token, comparator.token, value.token]
  | .like column pattern => [column.token, .word "ILIKE", .literal pattern]
  | .since column unit amount =>
    [column.token, .mark ">=", unitToken unit, .mark "(", .word "now", .mark "(", .mark ")",
      .mark ",", amount.token, .mark ")"]

/-- How two conditions are joined. -/
inductive Junction where
  | and
  | or
deriving DecidableEq, Repr

def Junction.token : Junction → Token
  | .and => .word "AND"
  | .or => .word "OR"

/-- One condition or more. -/
structure Filter where
  first : Condition
  others : List (Junction × Condition)

def Filter.tokens (filter : Filter) : List Token :=
  .word "WHERE" :: (filter.first.tokens ++
    filter.others.flatMap fun (junction, condition) => junction.token :: condition.tokens)

/-- One column or more by which rows are grouped. -/
structure Grouping where
  first : Column
  others : List Column

def Grouping.tokens (grouping : Grouping) : List Token :=
  [.word "GROUP", .word "BY", grouping.first.token] ++
    grouping.others.flatMap fun column => [.mark ",", column.token]

inductive Direction where
  | asc
  | desc
deriving DecidableEq, Repr

def Direction.token : Direction → Token
  | .asc => .word "ASC"
  | .desc => .word "DESC"

/-- The column or the alias that rows are ordered by. -/
structure Ordering where
  key : Column ⊕ Identifier
  direction : Option Direction

def Ordering.tokens (ordering : Ordering) : List Token :=
  [.word "ORDER", .word "BY", ordering.key.elim Column.token Identifier.token] ++
    ordering.direction.elim [] fun direction => [direction.token]

/-- A sentence of the grammar as a tree. -/
structure Query where
  select : SelectList
  filter : Option Filter
  grouping : Option Grouping
  ordering : Option Ordering
  limit : Option Number

def limitTokens (number : Number) : List Token := [.word "LIMIT", number.token]

/-- The tokens of a tree. -/
def Query.tokens (query : Query) : List Token :=
  .word "SELECT" :: (query.select.tokens ++ [.word "FROM", .word table] ++
    query.filter.elim [] Filter.tokens ++ query.grouping.elim [] Grouping.tokens ++
    query.ordering.elim [] Ordering.tokens ++ query.limit.elim [] limitTokens)

/-! ## Every tree can be written

Fixed tokens are readable by inspection, and those that a tree holds by the facts it carries. -/

@[simp] theorem Column.isReadable_token (column : Column) : column.token.isReadable = true := by
  cases column <;> decide

@[simp] theorem Aggregate.isReadable_token (function : Aggregate) :
    function.token.isReadable = true := by
  cases function <;> decide

@[simp] theorem Identifier.isReadable_token (name : Identifier) :
    name.token.isReadable = true := by
  have hall := name.all
  simp only [List.all_eq_true, Bool.or_eq_true, decide_eq_true_eq] at hall
  simp only [token, Token.isReadable, name.head, Bool.true_and, List.all_eq_true]
  intro c hc
  simp only [isNameChar, Bool.or_eq_true, decide_eq_true_eq]
  exact Or.inl (hall c hc)

@[simp] theorem Number.isReadable_token (number : Number) : number.token.isReadable = true := by
  simp [token, Token.isReadable, number.ne_nil, number.all]

@[simp] theorem Comparator.isReadable_token (comparator : Comparator) :
    comparator.token.isReadable = true := by
  cases comparator <;> decide

@[simp] theorem Value.isReadable_token (value : Value) : value.token.isReadable = true := by
  cases value with
  | literal content => rfl
  | number n => exact n.isReadable_token
  | bool b => cases b <;> decide

@[simp] theorem isReadable_unitToken (unit : TimeUnit) : (unitToken unit).isReadable = true := by
  cases unit <;> decide

@[simp] theorem Junction.isReadable_token (junction : Junction) :
    junction.token.isReadable = true := by
  cases junction <;> decide

@[simp] theorem Direction.isReadable_token (direction : Direction) :
    direction.token.isReadable = true := by
  cases direction <;> decide

theorem Term.isReadable_tokens (term : Term) : term.tokens.all Token.isReadable = true := by
  cases term with
  | column c => simp [tokens]
  | aggregate function of => cases of <;> simp [tokens, marks]

theorem SelectItem.isReadable_tokens (item : SelectItem) :
    item.tokens.all Token.isReadable = true := by
  rw [tokens, List.all_append, item.term.isReadable_tokens]
  cases item.label <;> simp [isNameChar]

theorem SelectList.isReadable_tokens (list : SelectList) :
    list.tokens.all Token.isReadable = true := by
  cases list with
  | all => simp [tokens, marks]
  | items first others =>
    rw [tokens, List.all_append, first.isReadable_tokens, List.all_flatMap]
    simp [SelectItem.isReadable_tokens, marks]

theorem Condition.isReadable_tokens (condition : Condition) :
    condition.tokens.all Token.isReadable = true := by
  cases condition with
  | compare column comparator value => simp [tokens]
  | like column pattern => simp [tokens, isNameChar]
  | since column unit amount => simp [tokens, isNameChar, marks]

theorem Filter.isReadable_tokens (filter : Filter) :
    filter.tokens.all Token.isReadable = true := by
  rw [tokens, List.all_cons, List.all_append, filter.first.isReadable_tokens, List.all_flatMap]
  simp [Condition.isReadable_tokens, isNameChar]

theorem Grouping.isReadable_tokens (grouping : Grouping) :
    grouping.tokens.all Token.isReadable = true := by
  rw [tokens, List.all_append, List.all_flatMap]
  simp [isNameChar, marks]

theorem Ordering.isReadable_tokens (ordering : Ordering) :
    ordering.tokens.all Token.isReadable = true := by
  obtain ⟨key, direction⟩ := ordering
  cases key <;> cases direction <;> simp [tokens, isNameChar]

/-- A clause that a tree does not have leaves no tokens. -/
theorem forall_mem_optional {α : Type} {clause? : Option α} {tokens : α → List Token}
    {p : Token → Prop} (h : ∀ clause ∈ clause?, ∀ token ∈ tokens clause, p token) :
    ∀ token ∈ clause?.elim [] tokens, p token := by
  cases clause? with
  | none => exact List.forall_mem_nil _
  | some clause => exact h clause rfl

/-- The tokens of every tree can be read. -/
theorem Query.isReadable (query : Query) : query.tokens.all Token.isReadable = true := by
  rw [List.all_eq_true, tokens]
  simp only [List.forall_mem_cons, List.forall_mem_append]
  -- The fixed tokens, the select list, and one goal for each clause.
  refine ⟨by decide, ⟨⟨⟨⟨?_, by decide, by decide, List.forall_mem_nil _⟩, ?_⟩, ?_⟩, ?_⟩, ?_⟩
  · exact List.all_eq_true.mp query.select.isReadable_tokens
  · exact forall_mem_optional fun filter _ => List.all_eq_true.mp filter.isReadable_tokens
  · exact forall_mem_optional fun grouping _ => List.all_eq_true.mp grouping.isReadable_tokens
  · exact forall_mem_optional fun ordering _ => List.all_eq_true.mp ordering.isReadable_tokens
  · apply forall_mem_optional
    intro number _
    rw [limitTokens, List.forall_mem_cons, List.forall_mem_singleton]
    exact ⟨by decide, number.isReadable_token⟩

/-- Every tree can be written, and is read back. -/
theorem scan_write_tokens (query : Query) : scan (write query.tokens) = some query.tokens :=
  scan_write (List.all_eq_true.mp query.isReadable)

/-! ## Which tokens a tree has

Behind its first word and around its table, a tree has tokens of a fixed list, numbers, literals and
identifiers, so a property of its tokens has to be seen of these only. -/

/-- The fixed tokens of select lists and clauses. -/
def grammarTokens : List Token :=
  ["id", "name", "email", "age", "signup_date", "country", "is_active", "subscription_plane",
    "last_login", "balance", "count", "sum", "avg", "min", "max", "AS", "true", "false", "WHERE",
    "ILIKE", "subtractHours", "subtractDays", "now", "AND", "OR", "GROUP", "BY", "ORDER", "ASC",
    "DESC", "LIMIT"].map (fun w : String => Token.word w) ++
  ["=", "!=", "<", "<=", ">", ">=", "*", ",", "(", ")"].map fun m : String => Token.mark m

/-- The identifiers that a select list introduces. -/
def SelectList.identifiers : SelectList → List Identifier
  | .all => []
  | .items first others => (first :: others).filterMap SelectItem.label

/-- The identifier that rows are ordered by, if it is no column. -/
def Ordering.identifiers (ordering : Ordering) : List Identifier :=
  ordering.key.elim (fun _ => []) fun name => [name]

/-- The identifiers of a tree. -/
def Query.identifiers (query : Query) : List Identifier :=
  query.select.identifiers ++ query.ordering.elim [] Ordering.identifiers

/-- The tokens of a tree behind its table. -/
def Query.clauseTokens (query : Query) : List Token :=
  query.filter.elim [] Filter.tokens ++ query.grouping.elim [] Grouping.tokens ++
    query.ordering.elim [] Ordering.tokens ++ query.limit.elim [] limitTokens

theorem Query.tokens_eq (query : Query) : query.tokens =
    .word "SELECT" :: query.select.tokens ++ .word "FROM" :: .word table :: query.clauseTokens := by
  simp [tokens, clauseTokens]

theorem Column.token_mem (column : Column) : column.token ∈ grammarTokens := by
  cases column <;> decide

theorem Aggregate.token_mem (function : Aggregate) : function.token ∈ grammarTokens := by
  cases function <;> decide

theorem Comparator.token_mem (comparator : Comparator) : comparator.token ∈ grammarTokens := by
  cases comparator <;> decide

theorem unitToken_mem (unit : TimeUnit) : unitToken unit ∈ grammarTokens := by
  cases unit <;> decide

theorem Junction.token_mem (junction : Junction) : junction.token ∈ grammarTokens := by
  cases junction <;> decide

theorem Direction.token_mem (direction : Direction) : direction.token ∈ grammarTokens := by
  cases direction <;> decide

/-- A token of a tree with the given identifiers, behind its first word and around its table. -/
inductive IsTreeToken (names : List Identifier) : Token → Prop
  | fixed {token : Token} (h : token ∈ grammarTokens) : IsTreeToken names token
  | number (n : Number) : IsTreeToken names n.token
  | literal (content : Text) : IsTreeToken names (.literal content)
  | identifier {name : Identifier} (h : name ∈ names) : IsTreeToken names name.token

namespace IsTreeToken

variable {names names' : List Identifier} {token : Token}

theorem mono (h : IsTreeToken names token) (hsub : names ⊆ names') : IsTreeToken names' token := by
  cases h with
  | fixed h => exact .fixed h
  | number n => exact .number n
  | literal content => exact .literal content
  | identifier h => exact .identifier (hsub h)

end IsTreeToken

theorem Term.mem_grammarTokens (term : Term) : ∀ token ∈ term.tokens, token ∈ grammarTokens := by
  cases term with
  | column c =>
    rw [tokens, List.forall_mem_singleton]
    exact c.token_mem
  | aggregate function of =>
    have hof : of.elim (.mark "*") Column.token ∈ grammarTokens := by
      cases of with
      | none => decide
      | some c => exact c.token_mem
    simp only [tokens, List.forall_mem_cons]
    exact ⟨function.token_mem, by decide, hof, by decide, List.forall_mem_nil _⟩

theorem SelectItem.isTreeToken (item : SelectItem) :
    ∀ token ∈ item.tokens, IsTreeToken item.label.toList token := by
  rw [tokens, List.forall_mem_append]
  refine ⟨fun token h => .fixed (item.term.mem_grammarTokens token h), ?_⟩
  cases item.label with
  | none => simp
  | some name =>
    simp only [Option.elim_some, List.forall_mem_cons]
    exact ⟨.fixed (by decide), .identifier (by simp), List.forall_mem_nil _⟩

theorem SelectList.isTreeToken (list : SelectList) :
    ∀ token ∈ list.tokens, IsTreeToken list.identifiers token := by
  cases list with
  | all =>
    rw [tokens, List.forall_mem_singleton]
    exact .fixed (by decide)
  | items first others =>
    have hitem : ∀ item ∈ first :: others, ∀ token ∈ item.tokens,
        IsTreeToken (SelectList.items first others).identifiers token := by
      intro item hitem token htoken
      refine (item.isTreeToken token htoken).mono fun name hname => ?_
      exact List.mem_filterMap.mpr ⟨item, hitem, Option.mem_toList.mp hname⟩
    rw [tokens, List.forall_mem_append]
    refine ⟨hitem first List.mem_cons_self, fun token htoken => ?_⟩
    obtain ⟨item, hmem, htoken⟩ := List.mem_flatMap.mp htoken
    rcases List.mem_cons.mp htoken with rfl | htoken
    · exact .fixed (by decide)
    · exact hitem item (List.mem_cons_of_mem first hmem) token htoken

theorem Value.isTreeToken (value : Value) : IsTreeToken [] value.token := by
  cases value with
  | literal content => exact .literal content
  | number n => exact .number n
  | bool b => cases b <;> exact .fixed (by decide)

theorem Condition.isTreeToken (condition : Condition) :
    ∀ token ∈ condition.tokens, IsTreeToken [] token := by
  cases condition with
  | compare column comparator value =>
    simp only [tokens, List.forall_mem_cons]
    exact ⟨.fixed column.token_mem, .fixed comparator.token_mem, value.isTreeToken,
      List.forall_mem_nil _⟩
  | like column pattern =>
    simp only [tokens, List.forall_mem_cons]
    exact ⟨.fixed column.token_mem, .fixed (by decide), .literal pattern, List.forall_mem_nil _⟩
  | since column unit amount =>
    simp only [tokens, List.forall_mem_cons]
    exact ⟨.fixed column.token_mem, .fixed (by decide), .fixed (unitToken_mem unit),
      .fixed (by decide), .fixed (by decide), .fixed (by decide), .fixed (by decide),
      .fixed (by decide), .number amount, .fixed (by decide), List.forall_mem_nil _⟩

theorem Filter.isTreeToken (filter : Filter) : ∀ token ∈ filter.tokens, IsTreeToken [] token := by
  rw [tokens, List.forall_mem_cons, List.forall_mem_append]
  refine ⟨.fixed (by decide), filter.first.isTreeToken, fun token htoken => ?_⟩
  obtain ⟨⟨junction, condition⟩, -, htoken⟩ := List.mem_flatMap.mp htoken
  rcases List.mem_cons.mp htoken with rfl | htoken
  · exact .fixed junction.token_mem
  · exact condition.isTreeToken token htoken

theorem Grouping.isTreeToken (grouping : Grouping) :
    ∀ token ∈ grouping.tokens, IsTreeToken [] token := by
  rw [tokens, List.forall_mem_append]
  constructor
  · simp only [List.forall_mem_cons]
    exact ⟨.fixed (by decide), .fixed (by decide), .fixed grouping.first.token_mem,
      List.forall_mem_nil _⟩
  · intro token htoken
    obtain ⟨column, -, htoken⟩ := List.mem_flatMap.mp htoken
    rcases List.mem_cons.mp htoken with rfl | htoken
    · exact .fixed (by decide)
    · rw [List.mem_singleton.mp htoken]
      exact .fixed column.token_mem

theorem Ordering.isTreeToken (ordering : Ordering) :
    ∀ token ∈ ordering.tokens, IsTreeToken ordering.identifiers token := by
  rw [tokens, List.forall_mem_append]
  constructor
  · have hkey : IsTreeToken ordering.identifiers
        (ordering.key.elim Column.token Identifier.token) := by
      rw [identifiers]
      cases ordering.key with
      | inl column => exact .fixed column.token_mem
      | inr name => exact .identifier List.mem_cons_self
    simp only [List.forall_mem_cons]
    exact ⟨.fixed (by decide), .fixed (by decide), hkey, List.forall_mem_nil _⟩
  · cases ordering.direction with
    | none => simp
    | some direction =>
      rw [Option.elim_some, List.forall_mem_singleton]
      exact .fixed direction.token_mem

theorem Query.isTreeToken_select (query : Query) :
    ∀ token ∈ query.select.tokens, IsTreeToken query.identifiers token :=
  fun token h => (query.select.isTreeToken token h).mono (List.subset_append_left _ _)

theorem Query.isTreeToken_clauses (query : Query) :
    ∀ token ∈ query.clauseTokens, IsTreeToken query.identifiers token := by
  simp only [clauseTokens, List.forall_mem_append]
  refine ⟨⟨⟨?_, ?_⟩, ?_⟩, ?_⟩
  · apply forall_mem_optional
    intro filter _ token h
    exact (filter.isTreeToken token h).mono (List.nil_subset _)
  · apply forall_mem_optional
    intro grouping _ token h
    exact (grouping.isTreeToken token h).mono (List.nil_subset _)
  · -- Only an ordering can have an identifier.
    apply forall_mem_optional
    intro ordering hordering token h
    refine (ordering.isTreeToken token h).mono ?_
    rw [identifiers, Option.mem_def.mp hordering]
    exact List.subset_append_right _ _
  · apply forall_mem_optional
    intro number _
    rw [limitTokens, List.forall_mem_cons, List.forall_mem_singleton]
    exact ⟨.fixed (by decide), .number number⟩

end AskTable.Sql
