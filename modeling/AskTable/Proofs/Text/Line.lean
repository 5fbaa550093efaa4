import AskTable.Proofs.Text.Trim
/-!
# Lines of a text

A line is a piece of a text without a line feed that cannot be made longer. It begins at the start
of the text or behind a line feed, and ends before a line feed or at the end of the text. A text is
cut into its lines line by line, from the start or behind any line feed, and a carriage return goes
with the line feed that it stands before.

## Main definitions

* `Text.IsLine` - a line of a text, between what stands above and below it

## Main results

* `Text.exists_isLine` - a piece without a line feed lies on a line
* `Text.IsLine.length_lt` - a line ends before the next one begins
* `Text.IsLine.unique` - one place is the beginning of one line
* `Text.lines_append_feed`, `Text.lines_append_of_ends` - the lines of a text, one after another
* `Text.exists_isPrefix_of_mem_lines` - the lines of a beginning of joined texts
-/

namespace AskTable.Text

variable {t above line below : Text}

/-- The text has a line between what stands above and below it. -/
structure IsLine (t above line below : Text) : Prop where
  text_eq : t = above ++ (line ++ below)
  above_last : ∀ c ∈ above.getLast?, c = '\n'
  feed_notMem : '\n' ∉ line
  below_head : ∀ c ∈ below.head?, c = '\n'

/-- Every piece of a text without a line feed lies on a line. -/
theorem exists_isLine {m : Text} (hm : '\n' ∉ m) (a b : Text) :
    ∃ above left right below, a = above ++ left ∧ b = right ++ below ∧
      IsLine (a ++ (m ++ b)) above (left ++ (m ++ right)) below := by
  obtain ⟨left, ha, hleft⟩ := exists_eq_dropEnd (· != '\n') a
  have hlast := getLast?_dropEnd (· != '\n') a
  refine ⟨_, left, b.takeWhile (· != '\n'), b.dropWhile (· != '\n'), ha,
    List.takeWhile_append_dropWhile.symm, ?_, fun c hc => by simpa using hlast c hc, ?_,
    fun c hc => by simpa using head?_dropWhile (· != '\n') b c hc⟩
  · have hb := List.takeWhile_append_dropWhile (p := (· != '\n')) (l := b)
    rw [List.append_assoc left, List.append_assoc m, hb, ← List.append_assoc _ left, ← ha]
  · have hright : ∀ c ∈ b.takeWhile (· != '\n'), (c != '\n') = true :=
      List.all_eq_true.mp List.all_takeWhile
    refine List.not_mem_append (fun hmem => ?_) (List.not_mem_append hm fun hmem => ?_)
    · simpa using hleft _ hmem
    · simpa using hright _ hmem

namespace IsLine

variable {above' line' below' : Text}

/-- Lines do not overlap: a line ends before the next one begins. -/
theorem length_lt (h : IsLine t above line below) (h' : IsLine t above' line' below')
    (hlt : above.length < above'.length) : (above ++ line).length < above'.length := by
  by_contra hle
  -- What stands above the second line goes on, behind what stands above the first, on that line.
  have hpre : above <+: above' :=
    List.prefix_of_prefix_length_le ⟨_, h.text_eq.symm⟩ ⟨_, h'.text_eq.symm⟩ hlt.le
  have hline : above' <+: above ++ line :=
    List.prefix_of_prefix_length_le ⟨_, h'.text_eq.symm⟩
      ⟨below, by rw [h.text_eq, List.append_assoc]⟩ (Nat.le_of_not_lt hle)
  obtain ⟨extra, rfl⟩ := hpre
  have hne : extra ≠ [] := by
    rintro rfl
    simp at hlt
  have hlast : extra.getLast hne = '\n' := by
    refine h'.above_last _ ?_
    rw [List.getLast?_append_of_ne_nil _ hne]
    exact List.getLast?_eq_some_getLast hne
  have hsub : extra <+: line := (List.prefix_append_right_inj above).mp hline
  exact h.feed_notMem (hlast ▸ hsub.subset (List.getLast_mem hne))

/-- A line is all that stands before the next line feed. -/
theorem takeWhile_eq (h : IsLine t above line below) :
    (line ++ below).takeWhile (· != '\n') = line := by
  refine (span_append (fun c hc => ?_) fun c hc => ?_).1
  · rw [bne_iff_ne]
    exact fun hfeed => h.feed_notMem (hfeed ▸ hc)
  · rw [h.below_head c hc, bne_self_eq_false]

/-- Lines that begin at the same place are the same. -/
theorem unique (h : IsLine t above line below) (h' : IsLine t above' line' below')
    (hlen : above.length = above'.length) : above = above' ∧ line = line' ∧ below = below' := by
  obtain ⟨rfl, htail⟩ := List.append_inj (h.text_eq.symm.trans h'.text_eq) hlen
  obtain rfl : line = line' := by
    rw [← h.takeWhile_eq, htail, h'.takeWhile_eq]
  exact ⟨rfl, rfl, List.append_cancel_left htail⟩

end IsLine

/-! ## Cutting into lines -/

/-- A text up to its first line feed is cut off. -/
theorem lineRuns_append (h : '\n' ∉ line) (t : Text) :
    lineRuns (line ++ '\n' :: t) = (line ++ ['\n']) :: lineRuns t := by
  induction line with
  | nil => rfl
  | cons c line ih =>
    obtain ⟨hc, hline⟩ := not_or.mp (mt List.mem_cons.mpr h)
    rw [List.cons_append, lineRuns, if_neg (Ne.symm hc), ih hline]
    rfl

theorem lineRuns_of_notMem (h : '\n' ∉ line) (hne : line ≠ []) : lineRuns line = [line] := by
  induction line with
  | nil => exact absurd rfl hne
  | cons c line ih =>
    obtain ⟨hc, hline⟩ := not_or.mp (mt List.mem_cons.mpr h)
    rw [lineRuns, if_neg (Ne.symm hc)]
    cases line with
    | nil => rfl
    | cons d line => rw [ih hline (List.cons_ne_nil d line)]

/-- A text is cut after each line feed, so a cut that is made there beforehand does not matter. -/
theorem lineRuns_append_of_ends (h : ∀ c ∈ above.getLast?, c = '\n') (t : Text) :
    lineRuns (above ++ t) = lineRuns above ++ lineRuns t := by
  induction above with
  | nil => rfl
  | cons c above ih =>
    cases above with
    | nil =>
      obtain rfl : c = '\n' := h c rfl
      rfl
    | cons d above =>
      have hrest := ih (by rwa [List.getLast?_cons_cons] at h)
      by_cases hc : c = '\n'
      · rw [List.cons_append, lineRuns, if_pos hc, lineRuns, if_pos hc, hrest, List.cons_append]
      · rw [List.cons_append, lineRuns, if_neg hc, lineRuns, if_neg hc, hrest]
        -- What stands above is not empty, so `c` joins its first piece on both sides.
        cases hruns : lineRuns (d :: above) with
        | nil =>
          have hflat := flatten_lineRuns (d :: above)
          rw [hruns] at hflat
          cases hflat
        | cons run runs => rfl

/-- Each piece is a line, with a line feed behind it or none. -/
theorem exists_of_mem_lineRuns {run : Text} (h : run ∈ lineRuns t) :
    ∃ line, '\n' ∉ line ∧ (run = line ++ ['\n'] ∨ run = line) := by
  induction t generalizing run with
  | nil => cases h
  | cons c t ih =>
    by_cases hc : c = '\n'
    · rw [lineRuns, if_pos hc] at h
      rcases List.mem_cons.mp h with rfl | h
      · exact ⟨[], List.not_mem_nil, Or.inl (by rw [hc, List.nil_append])⟩
      · exact ih h
    · have hfirst {line : Text} (hline : '\n' ∉ line) : '\n' ∉ c :: line :=
        List.not_mem_cons_of_ne_of_not_mem (Ne.symm hc) hline
      rw [lineRuns, if_neg hc] at h
      cases hruns : lineRuns t with
      | nil =>
        rw [hruns] at h
        obtain rfl := List.mem_singleton.mp h
        exact ⟨[c], hfirst List.not_mem_nil, Or.inr rfl⟩
      | cons first runs =>
        rw [hruns] at h ih
        rcases List.mem_cons.mp h with rfl | h
        · obtain ⟨line, hline, hfirst' | hfirst'⟩ := ih List.mem_cons_self
          · exact ⟨c :: line, hfirst hline, Or.inl (by rw [hfirst', List.cons_append])⟩
          · exact ⟨c :: line, hfirst hline, Or.inr (by rw [hfirst'])⟩
        · exact ih (List.mem_cons_of_mem first h)

theorem dropLineEnd_of_notMem (h : '\n' ∉ line) : dropLineEnd line = line := by
  have hhead : ∀ rest, line.reverse ≠ '\n' :: rest := by
    intro rest hrest
    exact h (List.mem_reverse.mp (hrest ▸ List.mem_cons_self))
  rw [dropLineEnd]
  split
  · exact absurd ‹_› (hhead _)
  · exact absurd ‹_› (hhead _)
  · rfl

/-- A carriage return and a line feed end a line. -/
theorem dropLineEnd_return_feed (line : Text) : dropLineEnd (line ++ ['\r', '\n']) = line := by
  rw [dropLineEnd, List.reverse_append]
  exact List.reverse_reverse line

/-- A line feed ends a line, with nothing before it but a carriage return. -/
theorem dropLineEnd_feed (h : ∀ c ∈ line.getLast?, c ≠ '\r') :
    dropLineEnd (line ++ ['\n']) = line := by
  have hhead : ∀ rest, line.reverse ≠ '\r' :: rest := by
    intro rest hrest
    refine h '\r' ?_ rfl
    rw [← List.head?_reverse, hrest]
    rfl
  rw [dropLineEnd, List.reverse_append]
  split
  · exact absurd (List.cons.inj ‹_›).2 (hhead _)
  next heq =>
    rw [← (List.cons.inj heq).2]
    exact List.reverse_reverse line
  next heq => exact absurd rfl (heq line.reverse)

/-- A line with a line feed behind it loses nothing else but a carriage return. -/
theorem exists_eq_dropLineEnd (line : Text) :
    ∃ rest, line = dropLineEnd (line ++ ['\n']) ++ rest ∧ ∀ c ∈ rest, c = '\r' := by
  by_cases hlast : ∀ c ∈ line.getLast?, c ≠ '\r'
  · exact ⟨[], by rw [dropLineEnd_feed hlast, List.append_nil], nofun⟩
  · push Not at hlast
    obtain ⟨c, hc, rfl⟩ := hlast
    obtain ⟨front, rfl⟩ : ∃ front, line = front ++ ['\r'] :=
      List.getLast?_eq_some_iff.mp hc
    have hdrop : dropLineEnd (front ++ ['\r'] ++ ['\n']) = front := by
      rw [List.append_assoc]
      exact dropLineEnd_return_feed front
    exact ⟨['\r'], by rw [hdrop], fun c hc => List.mem_singleton.mp hc⟩

theorem dropLineEnd_feed_isPrefix (line : Text) : dropLineEnd (line ++ ['\n']) <+: line := by
  obtain ⟨rest, hline, -⟩ := exists_eq_dropLineEnd line
  exact ⟨rest, hline.symm⟩

theorem lines_append_feed (h : '\n' ∉ line) (t : Text) :
    lines (line ++ '\n' :: t) = dropLineEnd (line ++ ['\n']) :: lines t := by
  rw [lines, lineRuns_append h, List.map_cons, lines]

theorem lines_of_notMem (h : '\n' ∉ line) (hne : line ≠ []) : lines line = [line] := by
  rw [lines, lineRuns_of_notMem h hne, List.map_singleton, dropLineEnd_of_notMem h]

theorem lines_append_of_ends (h : ∀ c ∈ above.getLast?, c = '\n') (t : Text) :
    lines (above ++ t) = lines above ++ lines t := by
  rw [lines, lineRuns_append_of_ends h, List.map_append, lines, lines]

theorem feed_notMem_of_mem_lines (h : line ∈ lines t) : '\n' ∉ line := by
  obtain ⟨run, hrun, rfl⟩ := List.mem_map.mp h
  obtain ⟨line, hline, rfl | rfl⟩ := exists_of_mem_lineRuns hrun
  · exact fun hmem => hline ((dropLineEnd_feed_isPrefix line).subset hmem)
  · rwa [dropLineEnd_of_notMem hline]

/-- What begins a text of one line is one line at most. -/
theorem isPrefix_of_mem_lines {part : Text} (hpart : '\n' ∉ part) (ht : t <+: part) :
    ∀ line ∈ lines t, line <+: part := by
  have hfeed : '\n' ∉ t := fun hmem => hpart (ht.subset hmem)
  by_cases hne : t = []
  · subst hne
    exact nofun
  · rwa [lines_of_notMem hfeed hne, List.forall_mem_singleton]

/-- The lines of a beginning of joined texts are beginnings of those texts, wherever it ends. -/
theorem exists_isPrefix_of_mem_lines {parts : List Text} (hparts : ∀ part ∈ parts, '\n' ∉ part)
    (ht : t <+: join "\n" parts) : ∀ line ∈ lines t, ∃ part ∈ parts, line <+: part := by
  induction parts generalizing t with
  | nil =>
    obtain rfl : t = [] := List.prefix_nil.mp ht
    exact nofun
  | cons part parts ih =>
    obtain ⟨hpart, hothers⟩ := List.forall_mem_cons.mp hparts
    have hfirst (hle : t <+: part) : ∀ line ∈ lines t, ∃ p ∈ part :: parts, line <+: p :=
      fun line hline => ⟨part, List.mem_cons_self, isPrefix_of_mem_lines hpart hle line hline⟩
    cases parts with
    | nil => exact hfirst (by simpa [join] using ht)
    | cons next parts =>
      have hjoin : join "\n" (part :: next :: parts) =
          part ++ '\n' :: join "\n" (next :: parts) := by
        rw [join, List.intercalate_cons_cons, List.append_assoc]
        rfl
      rw [hjoin] at ht
      rcases List.prefix_or_prefix_of_prefix ht (List.prefix_append part _) with hle | ⟨more, rfl⟩
      · exact hfirst hle
      · -- The text goes on behind the first part, so it has the line feed there.
        cases more with
        | nil => exact hfirst (by rw [List.append_nil])
        | cons c more =>
          obtain ⟨rfl, hmore⟩ :=
            List.cons_prefix_cons.mp ((List.prefix_append_right_inj part).mp ht)
          rw [lines_append_feed hpart, List.forall_mem_cons]
          refine ⟨⟨part, List.mem_cons_self, dropLineEnd_feed_isPrefix part⟩, ?_⟩
          intro line hline
          obtain ⟨p, hp, hle⟩ := ih hothers hmore line hline
          exact ⟨p, List.mem_cons_of_mem part hp, hle⟩

end AskTable.Text
