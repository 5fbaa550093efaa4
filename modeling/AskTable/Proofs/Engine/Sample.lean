import AskTable.Engine.Sample
import AskTable.Proofs.Intent.Opening
/-!
# Rows of the sample

The sample does not know which intent a statement was made for. It looks at the second word of the
statement, up to a parenthesis. In a statement of an intent the intent alone decides this word, so
the sample agrees with the intent in every case.

## Main definitions

* `Intent.sampleRows` - the rows that an intent gets from the sample

## Main results

* `Sample.leadingCall?_of_opening` - only the second word of a statement counts
* `Sample.respond_sqlText` - the sample answers the statement of an intent with its rows
-/

namespace AskTable

open Text (isBlank isBlank_eq_false lowercase)

/-! ## The second word -/

namespace Sample

variable {word rest : Text}

/-- Of a statement only the second word counts, if it is plain. -/
theorem leadingCall?_of_opening (h : Text.isPlainWord word = true) :
    leadingCall? (lowercase (Text.trimStart ("SELECT ".toList ++ (word ++ ' ' :: rest)))) =
      (Text.cutAt? '(' word).map (·.1) := by
  obtain ⟨hne, hlower, hword⟩ := Text.isPlainWord_iff.mp h
  have htrim : Text.trimStart ("SELECT ".toList ++ (word ++ ' ' :: rest)) =
      ("SELECT ".toList ++ (word ++ [' '])) ++ rest := by
    rw [Text.trimStart, Text.dropWhile_eq_self]
    · simp
    · intro c hc
      obtain rfl : 'S' = c := by simpa using hc
      decide
  have hascii : ∀ c ∈ "SELECT ".toList ++ (word ++ [' ']), c.toNat < 0x80 := by
    rw [List.forall_mem_append, List.forall_mem_append]
    exact ⟨by simp, fun c hc => (hword c hc).2, by simp⟩
  have hmap : ("SELECT ".toList ++ (word ++ [' '])).map Char.toLower =
      "select".toList ++ ' ' :: (word ++ [' ']) := by
    rw [List.map_append, List.map_append, hlower]
    rfl
  have hselect : ∀ c ∈ "select".toList, isBlank c = false :=
    Text.isBlank_eq_false_of_all (by decide +kernel)
  -- What comes behind the second word and its blank does not change the two words.
  rw [htrim, Text.lowercase_append_of_ascii hascii, hmap, List.append_assoc, List.cons_append,
    List.append_assoc, List.singleton_append, leadingCall?,
    Text.words_append_cons (by decide) hselect,
    Text.words_append_cons hne fun c hc => isBlank_eq_false (hword c hc).1 (hword c hc).2]
  exact if_pos rfl

end Sample

/-! ## Intents -/

namespace Intent

/-- The rows that an intent gets from the sample. -/
def sampleRows : Intent → ResultSet
  | .countRows | .countActive | .recentSignups | .fallback => Sample.single "count" (.int 3)
  | .averageAge => Sample.single "avg" (.ofBinary64? (Binary64.ofRatio? false 158333 100))
  | .sumBalance _ => Sample.single "sum" (.ofBinary64? (Binary64.ofRatio? false 4750 1))
  | _ => Sample.rows

end Intent

namespace Sample

theorem sum?_eq : sum? = Binary64.ofRatio? false 4750 1 := by decide +kernel

theorem average?_eq : average? = Binary64.ofRatio? false 158333 100 := by decide +kernel

/-- The sample answers the statement of an intent with the rows of the intent, whatever texts the
intent has. -/
theorem respond_sqlText (intent : Intent) : respond intent.sqlText = intent.sampleRows := by
  have hcall : leadingCall? (lowercase (Text.trimStart intent.sqlText)) =
      (Text.cutAt? '(' intent.selected).map (·.1) := by
    obtain ⟨rest, hrest⟩ := intent.exists_sqlText_eq
    rw [hrest, leadingCall?_of_opening intent.isPlainWord_selected]
  rw [respond, hcall]
  cases intent with
  | sumBalance window =>
    change single "sum" (.ofBinary64? sum?) = _
    rw [sum?_eq]
    rfl
  | averageAge =>
    change single "avg" (.ofBinary64? average?) = _
    rw [average?_eq]
    rfl
  | _ => rfl

end Sample

example : (Intent.sampleRows (.sumBalance none)).toJson.print = "[\x7b\"sum\":4750.0\x7d]" := by
  decide +kernel

example : (Intent.sampleRows .averageAge).toJson.print = "[\x7b\"avg\":1583.33\x7d]" := by
  decide +kernel

end AskTable
