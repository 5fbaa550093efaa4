import AskTable.Http.Server
import AskTable.Proofs.Text.Line
import AskTable.Proofs.Text.Utf8
/-!
# Heads as they are read back

A head is written line by line, and ends with an empty line. As long as no line is empty or has a
character of a line end in it, the first empty line of the bytes is the last one that was written,
whatever follows, and the lines are read back as they are. The length that a head announces is then
a matter of its lines only.

## Main definitions

* `Http.headText` - lines with their ends, and an empty line
* `Http.IsHeadLine` - a line that may stand in a head

## Main results

* `Http.headLength?_headText` - a head ends where it was ended, whatever bytes follow
* `Http.lines_headText` - the lines of a head are read back
* `Http.contentLength?_headText` - the announced length is that of the first line that has one
* `Http.announcedLength?_contentLength` - a length of 64 bits is announced by its line
-/

namespace AskTable.Http

variable {line : Text} {lines : List Text} {rest : Bytes}

/-- Lines with their ends, and an empty line. -/
def headText (lines : List Text) : Text := lines.flatMap (fun line => line ++ lineEnd) ++ lineEnd

/-- A line that may stand in a head: it is not empty and does not end before its end. -/
structure IsHeadLine (line : Text) : Prop where
  ne_nil : line ≠ []
  carriageReturn : '\r' ∉ line
  lineFeed : '\n' ∉ line

instance (line : Text) : Decidable (IsHeadLine line) :=
  decidable_of_iff (line ≠ [] ∧ '\r' ∉ line ∧ '\n' ∉ line)
    ⟨fun h => ⟨h.1, h.2.1, h.2.2⟩, fun h => ⟨h.ne_nil, h.carriageReturn, h.lineFeed⟩⟩

theorem headText_cons (line : Text) (lines : List Text) :
    headText (line :: lines) = line ++ '\r' :: '\n' :: headText lines := by
  rw [headText, List.flatMap_cons, List.append_assoc, List.append_assoc]
  rfl

/-! ## The end of a head -/

/-- The end of a head begins with a carriage return. -/
theorem headLength?_of_ne {b : UInt8} (h : b ≠ 0x0D) :
    headLength? (b :: rest) = (headLength? rest).map (· + 1) := by
  have hnot : ¬ headEnd.isPrefixOf (b :: rest) = true := by
    rw [List.isPrefixOf_iff_prefix]
    rintro ⟨tail, htail⟩
    exact h (List.cons.inj htail).1.symm
  rw [headLength?, if_neg hnot]

theorem headLength?_append_of_notMem {bytes : Bytes} (h : 0x0D ∉ bytes) :
    headLength? (bytes ++ rest) = (headLength? rest).map (· + bytes.length) := by
  induction bytes with
  | nil => simp
  | cons b bytes ih =>
    obtain ⟨hb, hbytes⟩ := not_or.mp (mt List.mem_cons.mpr h)
    rw [List.cons_append, headLength?_of_ne (Ne.symm hb), ih hbytes, Option.map_map]
    rfl

/-- The end of a line is not the end of a head, if something else than a line end follows. -/
theorem headLength?_lineEnd {b : UInt8} (h : b ≠ 0x0D) :
    headLength? (0x0D :: 0x0A :: b :: rest) = (headLength? (b :: rest)).map (· + 2) := by
  have hnot : ¬ headEnd.isPrefixOf (0x0D :: 0x0A :: b :: rest) = true := by
    rw [List.isPrefixOf_iff_prefix]
    rintro ⟨tail, htail⟩
    exact h (List.cons.inj (List.cons.inj (List.cons.inj htail).2).2).1.symm
  rw [headLength?, if_neg hnot, headLength?_of_ne (by decide), Option.map_map]
  rfl

theorem notMem_utf8 (h : '\r' ∉ line) : 0x0D ∉ Text.utf8 line := by
  intro hmem
  obtain ⟨c, hc, hcode⟩ := Text.exists_mem_of_mem_utf8 hmem (by decide)
  obtain rfl : c = '\r' := Char.toNat_inj.mp hcode
  exact h hc

/-- The bytes of a line begin with a byte that begins no line end. -/
theorem IsHeadLine.exists_cons (h : IsHeadLine line) (more : Bytes) :
    ∃ b bytes, b ≠ 0x0D ∧ Text.utf8 line ++ more = b :: bytes := by
  obtain ⟨c, t, rfl⟩ := List.exists_cons_of_ne_nil h.ne_nil
  obtain ⟨b, tail, hbytes, -⟩ := Text.readPiece_utf8EncodeChar c
  have hutf8 : Text.utf8 (c :: t) = b :: (tail ++ Text.utf8 t) := by
    rw [Text.utf8, List.flatMap_cons, hbytes]
    rfl
  refine ⟨b, tail ++ Text.utf8 t ++ more, ?_, by rw [hutf8]; rfl⟩
  rintro rfl
  exact notMem_utf8 h.carriageReturn (by rw [hutf8]; exact List.mem_cons_self)

theorem utf8_headText_cons (line : Text) (lines : List Text) :
    Text.utf8 (headText (line :: lines)) =
      Text.utf8 line ++ 0x0D :: 0x0A :: Text.utf8 (headText lines) := by
  rw [headText_cons, Text.utf8_append]
  rfl

/-- A head ends where it was ended, whatever bytes follow. -/
theorem headLength?_headText (hne : lines ≠ []) (hlines : ∀ line ∈ lines, IsHeadLine line)
    (rest : Bytes) :
    headLength? (Text.utf8 (headText lines) ++ rest) =
      some (Text.utf8 (headText lines)).length := by
  induction lines with
  | nil => exact absurd rfl hne
  | cons line lines ih =>
    obtain ⟨hline, hlines⟩ := List.forall_mem_cons.mp hlines
    have hskip := notMem_utf8 hline.carriageReturn
    rw [utf8_headText_cons, List.append_assoc, headLength?_append_of_notMem hskip]
    cases lines with
    | nil =>
      -- The last line is followed by the empty one.
      have hend : headLength? (0x0D :: 0x0A :: Text.utf8 (headText []) ++ rest) = some 4 := rfl
      rw [hend, List.length_append]
      exact congrArg some (Nat.add_comm _ _)
    | cons next lines =>
      have hnext := ih (List.cons_ne_nil next lines) hlines
      obtain ⟨b, bytes, hb, hbytes⟩ : ∃ b bytes, b ≠ 0x0D ∧
          Text.utf8 (headText (next :: lines)) ++ rest = b :: bytes := by
        rw [utf8_headText_cons, List.append_assoc]
        exact (hlines next List.mem_cons_self).exists_cons _
      rw [List.cons_append, List.cons_append, hbytes, headLength?_lineEnd hb, ← hbytes, hnext,
        Option.map_some, Option.map_some, List.length_append, List.length_cons, List.length_cons]
      exact congrArg some (by omega)

/-! ## The lines of a head -/

theorem lines_append (h : '\n' ∉ line) (t : Text) :
    Text.lines (line ++ '\r' :: '\n' :: t) = line :: Text.lines t := by
  have hnot : '\n' ∉ line ++ ['\r'] := List.not_mem_append h (by decide)
  have hcut := Text.lines_append_feed hnot t
  rwa [List.append_assoc, List.append_assoc, List.singleton_append, List.singleton_append,
    Text.dropLineEnd_return_feed] at hcut

/-- The lines of a head are read back, and the empty one behind them. -/
theorem lines_headText (hlines : ∀ line ∈ lines, IsHeadLine line) :
    Text.lines (headText lines) = lines ++ [[]] := by
  induction lines with
  | nil => rfl
  | cons line lines ih =>
    obtain ⟨hline, hlines⟩ := List.forall_mem_cons.mp hlines
    rw [headText_cons, lines_append hline.lineFeed, ih hlines, List.cons_append]

/-! ## Announced lengths -/

/-- A line without a colon announces nothing. -/
theorem announcedLength?_of_notMem (h : ':' ∉ line) : announcedLength? line = none := by
  rw [announcedLength?, Text.cutAt?_eq_none h]

theorem isBlank_of_isDigit {c : Char} (h : c.isDigit = true) : Text.isBlank c = false := by
  have hdigits : ∀ n < 58, 48 ≤ n → CodeRange.covers Text.blankRanges n = false := by decide
  simp only [Char.isDigit, Bool.and_eq_true, decide_eq_true_eq] at h
  exact hdigits c.toNat (Nat.lt_succ_of_le h.2) h.1

/-- Digits after a blank are read without it. -/
theorem trim_cons_ofNat (n : Nat) : Text.trim (' ' :: Text.ofNat n) = Text.ofNat n := by
  have hvisible : ∀ c ∈ Text.ofNat n, Text.isBlank c = false := fun c hc =>
    isBlank_of_isDigit (Nat.isDigit_of_mem_toDigits (by decide) (by decide) hc)
  have hblank : Text.trim (' ' :: Text.ofNat n) = Text.trim (Text.ofNat n) := rfl
  rw [hblank]
  exact Text.trim_eq_self (fun c hc => hvisible c (List.mem_of_mem_head? hc))
    fun c hc => hvisible c (List.mem_of_getLast? hc)

/-- A line of the right name announces its length, if the name can be told and the length has 64
bits. -/
theorem announcedLength?_append {name : Text} {n : Nat} (hmark : ':' ∉ name)
    (hname : Text.equalsIgnoringCase (Text.trim name) "content-length" = true)
    (h : n < UInt64.size) : announcedLength? (name ++ ':' :: ' ' :: Text.ofNat n) = some n := by
  rw [announcedLength?, Text.cutAt?_append_cons hmark]
  change (if _ then _ else _) = _
  rw [if_pos hname, trim_cons_ofNat, Text.natBelow?_ofNat h]

/-- A length of 64 bits is announced by its line. -/
theorem announcedLength?_contentLength {n : Nat} (h : n < UInt64.size) :
    announcedLength? ("Content-Length: " ++ Text.ofNat n) = some n := by
  have hmark : ':' ∉ ("Content-Length" : Text) := by decide
  exact announcedLength?_append hmark (by decide) h

/-- The length that a head announces is that of its first line that announces one. -/
theorem contentLength?_headText (hlines : ∀ line ∈ lines, IsHeadLine line) :
    contentLength? (headText lines) = lines.findSome? announcedLength? := by
  rw [contentLength?, lines_headText hlines, List.findSome?_append]
  exact Option.or_none

end AskTable.Http
