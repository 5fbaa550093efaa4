import AskTable.Text.Basic
/-!
# UTF-8

Texts as bytes and bytes as texts. Decoding cuts the bytes into pieces: a piece is one well-formed
sequence, or the longest run of bytes that begins one without finishing it. Strict decoding refuses
the second kind; lenient decoding replaces each such piece by U+FFFD.

## Main definitions

* `Text.utf8` - the bytes of a text
* `Text.utf8Size` - their number
* `Text.ofUtf8?` - strict decoding
* `Text.ofUtf8` - lenient decoding

## Main results

* `Text.ofUtf8_eq_of_ofUtf8?` - lenient decoding agrees with strict decoding where that succeeds
-/

namespace AskTable

/-- A sequence of bytes. -/
abbrev Bytes := List UInt8

namespace Text

/-- The bytes of a text. -/
def utf8 (t : Text) : Bytes := t.flatMap String.utf8EncodeChar

/-- The number of bytes of a text. -/
def utf8Size (t : Text) : Nat := t.foldr (fun c size => c.utf8Size + size) 0

theorem length_utf8 (t : Text) : (utf8 t).length = utf8Size t := by
  induction t with
  | nil => rfl
  | cons c t ih => simp_all [utf8, utf8Size]

/-- The number of bytes that follow a first byte, with the least and the greatest second byte. The
bounds exclude overlong sequences, surrogates and code points that do not exist. -/
def sequenceShape? (b : UInt8) : Option (Nat × UInt8 × UInt8) :=
  if 0xC2 ≤ b ∧ b ≤ 0xDF then some (1, 0x80, 0xBF)
  else if b = 0xE0 then some (2, 0xA0, 0xBF)
  else if b = 0xED then some (2, 0x80, 0x9F)
  else if 0xE1 ≤ b ∧ b ≤ 0xEF then some (2, 0x80, 0xBF)
  else if b = 0xF0 then some (3, 0x90, 0xBF)
  else if 0xF1 ≤ b ∧ b ≤ 0xF3 then some (3, 0x80, 0xBF)
  else if b = 0xF4 then some (3, 0x80, 0x8F)
  else none

/-- The payload of a continuation byte. -/
def payload (b : UInt8) : Nat := b.toNat % 0x40

/-- The piece that begins with `b`: the character it writes, if it is well formed, and the number of
bytes that belong to it after the first. -/
def readPiece (b : UInt8) (rest : Bytes) : Option Char × Nat :=
  if b < 0x80 then (some (Char.ofNat b.toNat), 0)
  else match sequenceShape? b with
    | none => (none, 0)
    | some (more, low, high) =>
      let fits (k : Nat) (x : UInt8) : Bool :=
        if k = 0 then low ≤ x && x ≤ high else 0x80 ≤ x && x ≤ 0xBF
      let tail := ((rest.take more).zipIdx.takeWhile fun (x, k) => fits k x).map (·.1)
      if tail.length = more then
        let first := b.toNat % (if more = 1 then 0x20 else if more = 2 then 0x10 else 0x08)
        (some (Char.ofNat (tail.foldl (fun n x => n * 0x40 + payload x) first)), more)
      else (none, tail.length)

/-- The pieces of a byte sequence of which the first `skip` bytes belong to the piece before. A
piece that is not well formed counts as `none`. -/
def utf8Pieces : (skip : Nat) → Bytes → List (Option Char)
  | _, [] => []
  | skip + 1, _ :: rest => utf8Pieces skip rest
  | 0, b :: rest =>
    let (piece, more) := readPiece b rest
    piece :: utf8Pieces more rest

/-- The text that the bytes write, when every piece is well formed. -/
def ofUtf8? (bytes : Bytes) : Option Text := (utf8Pieces 0 bytes).mapM id

/-- The text that the bytes write, with U+FFFD for every piece that is not well formed. -/
def ofUtf8 (bytes : Bytes) : Text := (utf8Pieces 0 bytes).map (·.getD '\uFFFD')

theorem ofUtf8_eq_of_ofUtf8? {bytes : Bytes} {t : Text} (h : ofUtf8? bytes = some t) :
    ofUtf8 bytes = t := by
  unfold ofUtf8? at h
  unfold ofUtf8
  generalize utf8Pieces 0 bytes = pieces at h ⊢
  induction pieces generalizing t with
  | nil => simpa using h.symm
  | cons piece pieces ih =>
    cases piece with
    | none => simp at h
    | some c =>
      rw [List.mapM_cons] at h
      obtain ⟨u, hu, rfl⟩ : ∃ u, pieces.mapM id = some u ∧ c :: u = t := by
        simpa [Option.bind_eq_some_iff] using h
      simp [ih hu]

end Text

end AskTable
