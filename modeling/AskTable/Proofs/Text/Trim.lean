import AskTable.Proofs.Text.Search
import Mathlib.Data.List.DropRight
/-!
# Trimmed texts

A text is trimmed when it has no blank at either end. Trimming leaves a trimmed text, and it takes
away no part of a trimmed text that stands in blanks. So what stands around a trimmed text is
trimmed by itself, on the side away from that text.

## Main definitions

* `Text.IsTrimmed` - texts without outer blanks

## Main results

* `Text.exists_eq_dropEnd` - only characters of the class are taken away at the end of a text
* `Text.isTrimmed_trim` - trimming leaves a trimmed text
* `Text.IsTrimmed.trim_append` - what stands around a trimmed text is trimmed by itself
-/

namespace AskTable.Text

variable {a b t : Text} {p : Char → Bool}

/-! ## Ends of a text -/

theorem mem_head?_of_isPrefix {c : Char} (h : a <+: b) (hc : c ∈ a.head?) : c ∈ b.head? := by
  obtain ⟨rest, rfl⟩ := h
  rw [List.head?_append, Option.mem_def.mp hc]
  rfl

theorem mem_getLast?_of_isSuffix {c : Char} (h : a <:+ b) (hc : c ∈ a.getLast?) :
    c ∈ b.getLast? := by
  obtain ⟨before, rfl⟩ := h
  rw [List.getLast?_append, Option.mem_def.mp hc]
  rfl

theorem dropEnd_eq_rdropWhile (p : Char → Bool) (t : Text) : dropEnd p t = t.rdropWhile p := rfl

theorem dropEnd_of_all (ht : ∀ c ∈ t, p c = true) : dropEnd p t = [] := by
  rw [dropEnd_eq_rdropWhile, List.rdropWhile_eq_nil_iff]
  exact ht

/-- Characters of the class at the end of a text are taken away, whatever stands before them. -/
theorem dropEnd_append_of_all (hb : ∀ c ∈ b, p c = true) (a : Text) :
    dropEnd p (a ++ b) = dropEnd p a := by
  rw [dropEnd, List.reverse_append, List.dropWhile_append_of_pos, dropEnd]
  intro c hc
  exact hb c (List.mem_reverse.mp hc)

/-- Only characters of the class are taken away at the end of a text. -/
theorem exists_eq_dropEnd (p : Char → Bool) (t : Text) :
    ∃ b, t = dropEnd p t ++ b ∧ ∀ c ∈ b, p c = true :=
  ⟨t.rtakeWhile p, (List.rdropWhile_append_rtakeWhile).symm,
    fun _ hc => List.mem_rtakeWhile_imp hc⟩

/-- What stays of a text ends with a character that is not of the class. -/
theorem getLast?_dropEnd (p : Char → Bool) (t : Text) :
    ∀ c ∈ (dropEnd p t).getLast?, p c = false := by
  intro c hc
  obtain ⟨hne, rfl⟩ := List.mem_getLast?_eq_getLast hc
  exact Bool.eq_false_iff.mpr (List.rdropWhile_last_not p t hne)

theorem trimStart_of_all (ht : ∀ c ∈ t, isBlank c = true) : trimStart t = [] :=
  List.dropWhile_eq_nil_iff.mpr ht

/-- What is taken away at the start of a text does not reach past a character that stays. -/
theorem trimStart_append (hb : ∀ c ∈ b.head?, isBlank c = false) (a : Text) :
    trimStart (a ++ b) = trimStart a ++ b := by
  rw [trimStart, trimStart, List.dropWhile_append]
  split
  · rename_i hempty
    rw [List.isEmpty_iff.mp hempty, List.nil_append]
    exact dropWhile_eq_self hb
  · rfl

/-! ## Trimmed texts -/

/-- The text has no blank at either end. -/
structure IsTrimmed (t : Text) : Prop where
  head : ∀ c ∈ t.head?, isBlank c = false
  last : ∀ c ∈ t.getLast?, isBlank c = false

/-- What a trimmed text begins with is trimmed, if it does not end with a blank. -/
theorem IsTrimmed.of_isPrefix (hb : IsTrimmed b) (h : a <+: b)
    (hlast : ∀ c ∈ a.getLast?, isBlank c = false) : IsTrimmed a :=
  ⟨fun _ hc => hb.head _ (mem_head?_of_isPrefix h hc), hlast⟩

theorem isTrimmed_trim (t : Text) : IsTrimmed (trim t) where
  head := by
    intro c hc
    have hstart : c ∈ (t.dropWhile isBlank).head? :=
      mem_head?_of_isPrefix (List.rdropWhile_prefix isBlank (trimStart t)) hc
    exact head?_dropWhile isBlank t c hstart
  last := getLast?_dropEnd isBlank (trimStart t)

/-- What stands around a trimmed text is trimmed by itself. -/
theorem IsTrimmed.trim_append (ht : IsTrimmed t) (hne : t ≠ []) (a b : Text) :
    trim (a ++ (t ++ b)) = trimStart a ++ (t ++ trimEnd b) := by
  have hhead : ∀ c ∈ (t ++ b).head?, isBlank c = false := by
    rw [List.head?_append_of_ne_nil t hne]
    exact ht.head
  have hlast : ∀ c ∈ (trimStart a ++ t).getLast?, isBlank c = false := by
    rw [List.getLast?_append_of_ne_nil _ hne]
    exact ht.last
  calc trim (a ++ (t ++ b))
    _ = trimEnd (trimStart a ++ (t ++ b)) := by rw [trim, trimStart_append hhead]
    _ = trimEnd ((trimStart a ++ t) ++ b) := by rw [List.append_assoc]
    _ = (trimStart a ++ t) ++ trimEnd b := dropEnd_append hlast
    _ = trimStart a ++ (t ++ trimEnd b) := List.append_assoc _ _ _

end AskTable.Text
