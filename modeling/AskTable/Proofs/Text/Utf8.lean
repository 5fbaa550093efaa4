import AskTable.Text.Utf8
import Mathlib.Data.List.TakeWhile
/-!
# Reading back UTF-8

The bytes of a text decode to the text, strictly and leniently, whatever its characters are. A
character is one piece of the decoding: its first byte tells how many bytes follow and what the
second may be, and the others are continuation bytes.

## Main definitions

* `Text.Continues` - bytes that may follow a first byte

## Main results

* `Text.readPiece_utf8EncodeChar` - a character is read from its bytes, and nothing else is read
* `Text.utf8Pieces_append` - the pieces of a text in front of further bytes
* `Text.ofUtf8?_utf8`, `Text.ofUtf8_utf8` - the bytes of a text decode to the text
-/

namespace AskTable.Text

variable {b low high : UInt8} {more : Nat} {tail rest : Bytes}

/-- The bytes may follow a first byte that bounds the second one. -/
def Continues (low high : UInt8) : Bytes → Prop
  | [] => True
  | second :: tail => low ≤ second ∧ second ≤ high ∧ ∀ x ∈ tail, 0x80 ≤ x ∧ x ≤ 0xBF

/-- A first byte is read with all bytes that belong to it. -/
theorem readPiece_of_shape (hb : ¬ b < 0x80) (hshape : sequenceShape? b = some (more, low, high))
    (hlength : tail.length = more) (htail : Continues low high tail) (rest : Bytes) :
    readPiece b (tail ++ rest) =
      (some (Char.ofNat (tail.foldl (fun n x => n * 0x40 + payload x)
        (b.toNat % (if more = 1 then 0x20 else if more = 2 then 0x10 else 0x08)))), more) := by
  have htake : (tail ++ rest).take more = tail := by rw [← hlength, List.take_left]
  simp only [readPiece, if_neg hb, hshape, htake]
  rw [List.takeWhile_eq_self_iff.mpr ?hall, List.zipIdx_map_fst, if_pos hlength]
  -- The second byte has bounds of its own, all behind it are continuation bytes.
  rintro ⟨x, k⟩ hmem
  cases tail with
  | nil => cases hmem
  | cons second tail =>
    obtain ⟨hlow, hhigh, hothers⟩ := htail
    rw [List.zipIdx_cons, List.mem_cons] at hmem
    rcases hmem with heq | hmem
    · cases heq
      simp [hlow, hhigh]
    · have hpos := List.le_snd_of_mem_zipIdx hmem
      have hx := hothers x (List.fst_mem_of_mem_zipIdx hmem)
      have hk : k ≠ 0 := Nat.pos_iff_ne_zero.mp hpos
      simp [hk, hx.1, hx.2]

/-! ## The bytes of a character -/

theorem sequenceShape?_two : ∀ n < 0x20, 2 ≤ n →
    sequenceShape? (UInt8.ofNat (n + 0xC0)) = some (1, 0x80, 0xBF) := by decide

theorem sequenceShape?_three : ∀ n < 0x10, sequenceShape? (UInt8.ofNat (n + 0xE0)) =
    some (2, if n = 0 then 0xA0 else 0x80, if n = 0xD then 0x9F else 0xBF) := by decide

theorem sequenceShape?_four : ∀ n < 5, sequenceShape? (UInt8.ofNat (n + 0xF0)) =
    some (3, if n = 0 then 0x90 else 0x80, if n = 4 then 0x8F else 0xBF) := by decide

theorem toNat_byte {n : Nat} (h : n < 0x100) : (UInt8.ofNat n).toNat = n := by
  rw [UInt8.toNat_ofNat']
  exact Nat.mod_eq_of_lt h

theorem le_byte_iff {n : Nat} (h : n < 0x100) : low ≤ UInt8.ofNat n ↔ low.toNat ≤ n := by
  rw [UInt8.le_iff_toNat_le, toNat_byte h]

theorem byte_le_iff {n : Nat} (h : n < 0x100) : UInt8.ofNat n ≤ high ↔ n ≤ high.toNat := by
  rw [UInt8.le_iff_toNat_le, toNat_byte h]

/-- Six bits of payload make a continuation byte. -/
theorem isContinuation_byte {n : Nat} (h : n < 0x40) :
    0x80 ≤ UInt8.ofNat (n + 0x80) ∧ UInt8.ofNat (n + 0x80) ≤ 0xBF := by
  rw [le_byte_iff (by omega), byte_le_iff (by omega)]
  exact ⟨Nat.le_add_left 0x80 n, Nat.add_le_add_right (Nat.le_of_lt_succ h) 0x80⟩

theorem payload_byte {n : Nat} (h : n < 0x40) : payload (UInt8.ofNat (n + 0x80)) = n := by
  rw [payload, toNat_byte (by omega)]
  omega

theorem not_lt_byte {n : Nat} (hle : 0x80 ≤ n) (h : n < 0x100) : ¬ UInt8.ofNat n < 0x80 := by
  rw [UInt8.not_lt, le_byte_iff h]
  exact hle

/-- Two bytes have eleven bits. -/
theorem readPiece_two {n m : Nat} (hn : n < 0x20) (hlong : 2 ≤ n) (hm : m < 0x40) (rest : Bytes) :
    readPiece (UInt8.ofNat (n + 0xC0)) (UInt8.ofNat (m + 0x80) :: rest) =
      (some (Char.ofNat (n * 0x40 + m)), 1) := by
  have htail : Continues 0x80 0xBF [UInt8.ofNat (m + 0x80)] :=
    ⟨(isContinuation_byte hm).1, (isContinuation_byte hm).2, List.forall_mem_nil _⟩
  have hfirst : (UInt8.ofNat (n + 0xC0)).toNat % 0x20 = n := by
    rw [toNat_byte (by omega)]
    omega
  have hread := readPiece_of_shape (not_lt_byte (by omega) (by omega))
    (sequenceShape?_two n hn hlong) rfl htail rest
  rwa [if_pos rfl, hfirst, List.foldl_cons, List.foldl_nil, payload_byte hm] at hread

/-- Three bytes have sixteen bits, without the numbers that are shorter and the surrogates. -/
theorem readPiece_three {n m k : Nat} (hn : n < 0x10) (hm : m < 0x40) (hk : k < 0x40)
    (hlong : n = 0 → 0x20 ≤ m) (hsurrogate : n = 0xD → m < 0x20) (rest : Bytes) :
    readPiece (UInt8.ofNat (n + 0xE0))
        (UInt8.ofNat (m + 0x80) :: UInt8.ofNat (k + 0x80) :: rest) =
      (some (Char.ofNat ((n * 0x40 + m) * 0x40 + k)), 2) := by
  have htail : Continues (if n = 0 then 0xA0 else 0x80) (if n = 0xD then 0x9F else 0xBF)
      [UInt8.ofNat (m + 0x80), UInt8.ofNat (k + 0x80)] := by
    refine ⟨?_, ?_, List.forall_mem_singleton.mpr (isContinuation_byte hk)⟩
    · rw [le_byte_iff (by omega)]
      split
      · exact Nat.add_le_add_right (hlong ‹_›) 0x80
      · exact Nat.le_add_left 0x80 m
    · rw [byte_le_iff (by omega)]
      split
      · exact Nat.add_le_add_right (Nat.le_of_lt_succ (hsurrogate ‹_›)) 0x80
      · exact Nat.add_le_add_right (Nat.le_of_lt_succ hm) 0x80
  have hfirst : (UInt8.ofNat (n + 0xE0)).toNat % 0x10 = n := by
    rw [toNat_byte (by omega)]
    omega
  have hread := readPiece_of_shape (not_lt_byte (by omega) (by omega))
    (sequenceShape?_three n hn) rfl htail rest
  rwa [if_neg (by decide), if_pos rfl, hfirst, List.foldl_cons, List.foldl_cons, List.foldl_nil,
    payload_byte hm, payload_byte hk] at hread

/-- Four bytes have the numbers of seventeen bits and more, as far as there are characters. -/
theorem readPiece_four {n m k l : Nat} (hn : n < 5) (hm : m < 0x40) (hk : k < 0x40) (hl : l < 0x40)
    (hlong : n = 0 → 0x10 ≤ m) (hexists : n = 4 → m < 0x10) (rest : Bytes) :
    readPiece (UInt8.ofNat (n + 0xF0))
        (UInt8.ofNat (m + 0x80) :: UInt8.ofNat (k + 0x80) :: UInt8.ofNat (l + 0x80) :: rest) =
      (some (Char.ofNat (((n * 0x40 + m) * 0x40 + k) * 0x40 + l)), 3) := by
  have htail : Continues (if n = 0 then 0x90 else 0x80) (if n = 4 then 0x8F else 0xBF)
      [UInt8.ofNat (m + 0x80), UInt8.ofNat (k + 0x80), UInt8.ofNat (l + 0x80)] := by
    refine ⟨?_, ?_, List.forall_mem_cons.mpr
      ⟨isContinuation_byte hk, List.forall_mem_singleton.mpr (isContinuation_byte hl)⟩⟩
    · rw [le_byte_iff (by omega)]
      split
      · exact Nat.add_le_add_right (hlong ‹_›) 0x80
      · exact Nat.le_add_left 0x80 m
    · rw [byte_le_iff (by omega)]
      split
      · exact Nat.add_le_add_right (Nat.le_of_lt_succ (hexists ‹_›)) 0x80
      · exact Nat.add_le_add_right (Nat.le_of_lt_succ hm) 0x80
  have hfirst : (UInt8.ofNat (n + 0xF0)).toNat % 0x08 = n := by
    rw [toNat_byte (by omega)]
    omega
  have hread := readPiece_of_shape (not_lt_byte (by omega) (by omega))
    (sequenceShape?_four n hn) rfl htail rest
  rwa [if_neg (by decide), if_neg (by decide), hfirst, List.foldl_cons, List.foldl_cons,
    List.foldl_cons, List.foldl_nil, payload_byte hm, payload_byte hk, payload_byte hl] at hread

/-- A character is read from its bytes, and no byte behind them is read. -/
theorem readPiece_utf8EncodeChar (c : Char) : ∃ b tail, String.utf8EncodeChar c = b :: tail ∧
    ∀ rest, readPiece b (tail ++ rest) = (some c, tail.length) := by
  have hself : Char.ofNat c.val.toNat = c := Char.ofNat_toNat c
  obtain hvalid : c.val.toNat < 0xD800 ∨ 0xDFFF < c.val.toNat ∧ c.val.toNat < 0x110000 := c.valid
  generalize hcode : c.val.toNat = code at hself hvalid
  rw [String.utf8EncodeChar, hcode]
  -- One case for each number of bytes.
  by_cases h1 : code ≤ 0x7F
  · refine ⟨_, _, if_pos h1, fun rest => ?_⟩
    have hascii : UInt8.ofNat code < 0x80 := by
      rw [UInt8.lt_iff_toNat_lt, toNat_byte (by omega)]
      exact Nat.lt_succ_of_le h1
    rw [readPiece, if_pos hascii, toNat_byte (by omega), hself]
    rfl
  by_cases h2 : code ≤ 0x7FF
  · refine ⟨_, _, (if_neg h1).trans (if_pos h2), fun rest => ?_⟩
    have hsum : code / 64 % 32 * 0x40 + code % 64 = code := by omega
    have hread := readPiece_two (n := code / 64 % 32) (m := code % 64) (by omega) (by omega)
      (by omega) rest
    rwa [hsum, hself] at hread
  by_cases h3 : code ≤ 0xFFFF
  · refine ⟨_, _, (if_neg h1).trans ((if_neg h2).trans (if_pos h3)), fun rest => ?_⟩
    have hsum : (code / 4096 % 16 * 0x40 + code / 64 % 64) * 0x40 + code % 64 = code := by omega
    have hread := readPiece_three (n := code / 4096 % 16) (m := code / 64 % 64) (k := code % 64)
      (by omega) (by omega) (by omega) (by omega) (by omega) rest
    rwa [hsum, hself] at hread
  · refine ⟨_, _, (if_neg h1).trans ((if_neg h2).trans (if_neg h3)), fun rest => ?_⟩
    have hsum : ((code / 262144 % 8 * 0x40 + code / 4096 % 64) * 0x40 + code / 64 % 64) * 0x40 +
        code % 64 = code := by omega
    have hread := readPiece_four (n := code / 262144 % 8) (m := code / 4096 % 64)
      (k := code / 64 % 64) (l := code % 64)
      (by omega) (by omega) (by omega) (by omega) (by omega) (by omega) rest
    rwa [hsum, hself] at hread

/-- A byte of ASCII is a character of its own. -/
theorem toNat_eq_of_mem_utf8EncodeChar {c : Char} (h : b ∈ String.utf8EncodeChar c)
    (hb : b < 0x80) : c.toNat = b.toNat := by
  have hlarge : ∀ {n}, 0x80 ≤ n → n < 0x100 → b ≠ UInt8.ofNat n := by
    rintro n hle hlt rfl
    exact not_lt_byte hle hlt hb
  rw [String.utf8EncodeChar] at h
  by_cases h1 : c.val.toNat ≤ 0x7F
  · rw [if_pos h1, List.mem_singleton] at h
    rw [h, toNat_byte (by omega)]
    rfl
  exfalso
  -- The bytes of all other characters are greater.
  rw [if_neg h1] at h
  split_ifs at h with h2 h3
  · simp only [List.mem_cons, List.not_mem_nil, or_false] at h
    rcases h with h | h <;> exact hlarge (by omega) (by omega) h
  · simp only [List.mem_cons, List.not_mem_nil, or_false] at h
    rcases h with h | h | h <;> exact hlarge (by omega) (by omega) h
  · simp only [List.mem_cons, List.not_mem_nil, or_false] at h
    rcases h with h | h | h | h <;> exact hlarge (by omega) (by omega) h

/-! ## Texts -/

theorem utf8_append (t u : Text) : utf8 (t ++ u) = utf8 t ++ utf8 u := List.flatMap_append

theorem exists_mem_of_mem_utf8 {t : Text} (h : b ∈ utf8 t) (hb : b < 0x80) :
    ∃ c ∈ t, c.toNat = b.toNat := by
  obtain ⟨c, hc, hbyte⟩ := List.mem_flatMap.mp h
  exact ⟨c, hc, toNat_eq_of_mem_utf8EncodeChar hbyte hb⟩

theorem utf8Pieces_skip (skipped rest : Bytes) :
    utf8Pieces skipped.length (skipped ++ rest) = utf8Pieces 0 rest := by
  induction skipped with
  | nil => rfl
  | cons b skipped ih =>
    rw [List.cons_append, List.length_cons, utf8Pieces, ih]

/-- The bytes of a text are cut into its characters, and what follows them is cut on its own. -/
theorem utf8Pieces_append (t : Text) (rest : Bytes) :
    utf8Pieces 0 (utf8 t ++ rest) = t.map some ++ utf8Pieces 0 rest := by
  induction t with
  | nil => rfl
  | cons c t ih =>
    obtain ⟨b, tail, hbytes, hread⟩ := readPiece_utf8EncodeChar c
    have hutf8 : utf8 (c :: t) ++ rest = b :: (tail ++ (utf8 t ++ rest)) := by
      rw [utf8, List.flatMap_cons, hbytes, List.append_assoc, List.cons_append]
      rfl
    rw [hutf8, utf8Pieces, hread]
    change some c :: utf8Pieces tail.length (tail ++ (utf8 t ++ rest)) = _
    rw [utf8Pieces_skip, ih, List.map_cons, List.cons_append]

/-- The bytes of a text write the text. -/
theorem ofUtf8?_utf8 (t : Text) : ofUtf8? (utf8 t) = some t := by
  have hpieces : utf8Pieces 0 (utf8 t) = t.map some := by
    simpa [utf8Pieces] using utf8Pieces_append t []
  rw [ofUtf8?, hpieces, List.mapM_map]
  have hmapM := List.mapM_pure (m := Option) (l := t) (f := id)
  rwa [List.map_id] at hmapM

/-- The bytes of a text write the text, also when they are read leniently. -/
theorem ofUtf8_utf8 (t : Text) : ofUtf8 (utf8 t) = t := ofUtf8_eq_of_ofUtf8? (ofUtf8?_utf8 t)

end AskTable.Text
