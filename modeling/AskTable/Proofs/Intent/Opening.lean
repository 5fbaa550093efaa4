import AskTable.Intent.Rule
import AskTable.Proofs.Text.Ascii
import AskTable.Proofs.Text.LetterCase
/-!
# How statements of intents begin

Every statement of an intent has `SELECT`, a blank, and then a word that the intent alone decides.
The texts of a question only come behind it, so they do not change how the statement begins.

## Main definitions

* `Text.isPlainWord` - words that lower case and blanks leave alone
* `Intent.selected` - the second word of the statement of an intent

## Main results

* `Intent.exists_sqlText_eq` - every statement begins with its two words
* `Intent.isSelect_toSql` - every statement begins like a query
-/

namespace AskTable

open Text (isBlank)

/-- Is the text a word of visible characters of ASCII, without capital letters? -/
def Text.isPlainWord (word : Text) : Bool :=
  word ≠ [] && word.map Char.toLower = word && word.all fun c => 0x20 < c.toNat && c.toNat < 0x80

theorem Text.isPlainWord_iff {word : Text} :
    isPlainWord word = true ↔ word ≠ [] ∧ word.map Char.toLower = word ∧
      ∀ c ∈ word, 0x20 < c.toNat ∧ c.toNat < 0x80 := by
  simp [isPlainWord, and_assoc]

namespace Intent

/-- The second word of the statement of an intent. -/
def selected : Intent → Text
  | .countRows | .countActive | .recentSignups | .fallback => "count(*)"
  | .averageAge => "avg(age)"
  | .sumBalance _ => "sum(balance)"
  | .countPerCountry => "country,"
  | .averageBalancePerPlan => "subscription_plane,"
  | .nameFilter .. | .country _ | .plan _ | .emailDomain _ | .limit _ => "*"

theorem isPlainWord_selected (intent : Intent) : Text.isPlainWord intent.selected = true := by
  have hsum : Text.isPlainWord "sum(balance)" = true := by decide +kernel
  have hall : Text.isPlainWord "*" = true := by decide +kernel
  cases intent with
  | sumBalance window => exact hsum
  | nameFilter | country | plan | emailDomain | limit => exact hall
  | _ => decide +kernel

/-- Every statement has its second word behind `SELECT`, and texts of a question come later. -/
theorem exists_sqlText_eq (intent : Intent) :
    ∃ rest, intent.sqlText = "SELECT ".toList ++ (intent.selected ++ ' ' :: rest) := by
  cases intent with
  | sumBalance window => cases window <;> exact ⟨_, rfl⟩
  | nameFilter pattern limit => cases limit <;> exact ⟨_, rfl⟩
  | _ => exact ⟨_, rfl⟩

/-- Every statement begins like a query, whatever texts the intent has. -/
theorem isSelect_toSql (intent : Intent) : intent.toSql.isSelect = true := by
  obtain ⟨rest, hrest⟩ := intent.exists_sqlText_eq
  have hsplit : intent.toSql.text =
      "SELECT".toList ++ ' ' :: (intent.selected ++ ' ' :: rest) := hrest
  have hhead : ∀ c ∈ ("SELECT".toList ++ ' ' :: (intent.selected ++ ' ' :: rest)).head?,
      isBlank c = false := by
    intro c hc
    obtain rfl : 'S' = c := by simpa using hc
    decide
  have hlast : ∀ c ∈ "SELECT".toList.getLast?, isBlank c = false :=
    Text.isBlank_getLast_of_all rfl
  rw [Sql.Statement.isSelect, hsplit, Text.trim, Text.trimStart, Text.dropWhile_eq_self hhead,
    Text.trimEnd, Text.dropEnd_append hlast, Text.lowercase_append_of_ascii (by simp)]
  exact Text.beginsWith_iff.mpr ⟨_, rfl⟩

end Intent

end AskTable
