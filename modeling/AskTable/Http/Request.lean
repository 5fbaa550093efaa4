import AskTable.Text.Blank
import AskTable.Text.LetterCase
import AskTable.Text.Numeral
import AskTable.Text.Utf8
/-!
# HTTP requests

A request is a head of lines, an empty line and a body. The head is everything up to and including
the first empty line, or all bytes if there is none. A request is read in pieces, until the head is
there with as many further bytes as it announces.

## Main definitions

* `Http.headLength?` - the length of a complete head
* `Http.contentLength?` - the length of the body that a head announces
* `Http.Request.parse?` - the request that the bytes write
* `Http.gather` - the bytes that are read of a connection

## Main results

* `Http.headLength?_le` - a head is no longer than the bytes
* `Http.headLength?_append` - further bytes do not change a complete head
* `Http.gather_prefix` - what is read is a beginning of what is sent
-/

namespace AskTable.Http

/-! ## Heads -/

/-- The end of a line and an empty line. -/
def headEnd : Bytes := [0x0D, 0x0A, 0x0D, 0x0A]

/-- The length of the head with its empty line, if that is there. -/
def headLength? : Bytes → Option Nat
  | [] => none
  | b :: rest =>
    if headEnd.isPrefixOf (b :: rest) then some headEnd.length else (headLength? rest).map (· + 1)

theorem headLength?_le {bytes : Bytes} {n : Nat} (h : headLength? bytes = some n) :
    n ≤ bytes.length := by
  induction bytes generalizing n with
  | nil => simp [headLength?] at h
  | cons b rest ih =>
    by_cases hp : headEnd.isPrefixOf (b :: rest) = true
    · simp only [headLength?, hp, if_true, Option.some.injEq] at h
      exact h ▸ (List.isPrefixOf_iff_prefix.mp hp).length_le
    · simp only [headLength?, hp, Bool.false_eq_true, if_false, Option.map_eq_some_iff] at h
      obtain ⟨m, hm, rfl⟩ := h
      simpa using ih hm

theorem headLength?_append {bytes : Bytes} {n : Nat} (h : headLength? bytes = some n)
    (more : Bytes) : headLength? (bytes ++ more) = some n := by
  induction bytes generalizing n with
  | nil => simp [headLength?] at h
  | cons b rest ih =>
    by_cases hp : headEnd.isPrefixOf (b :: rest) = true
    · have hp' : headEnd.isPrefixOf (b :: (rest ++ more)) = true := by
        rw [List.isPrefixOf_iff_prefix] at hp ⊢
        exact hp.trans (List.prefix_append (b :: rest) more)
      simpa [headLength?, hp, hp'] using h
    · simp only [headLength?, hp, Bool.false_eq_true, if_false, Option.map_eq_some_iff] at h
      obtain ⟨m, hm, rfl⟩ := h
      have hp' : headEnd.isPrefixOf (b :: (rest ++ more)) = false := by
        have hm4 : 4 ≤ rest.length := by
          clear ih hp
          induction rest generalizing m with
          | nil => simp [headLength?] at hm
          | cons c rest ih =>
            by_cases hq : headEnd.isPrefixOf (c :: rest) = true
            · simpa [headEnd] using (List.isPrefixOf_iff_prefix.mp hq).length_le
            · simp only [headLength?, hq, Bool.false_eq_true, if_false,
                Option.map_eq_some_iff] at hm
              obtain ⟨k, hk, _⟩ := hm
              exact Nat.le_succ_of_le (ih k hk)
        rw [Bool.eq_false_iff]
        intro hq
        apply hp
        rw [List.isPrefixOf_iff_prefix] at hq ⊢
        exact List.prefix_of_prefix_length_le hq (List.prefix_append (b :: rest) more)
          (by simp [headEnd]; omega)
      simp [headLength?, hp', ih hm]

/-- The number of a line that announces the length of the body. -/
def announcedLength? (line : Text) : Option Nat :=
  match Text.cutAt? ':' line with
  | some (name, value) =>
    if Text.equalsIgnoringCase (Text.trim name) "content-length"
    then Text.natBelow? UInt64.size (Text.trim value)
    else none
  | none => none

/-- The length of the body that a head announces, by its first line that does so readably. -/
def contentLength? (head : Text) : Option Nat := (Text.lines head).findSome? announcedLength?

/-! ## Requests -/

/-- A method, a path and a body. -/
structure Request where
  method : Text
  path : Text
  body : Text
deriving Repr, DecidableEq

namespace Request

/-- The body among the bytes after a head: no more than is announced. -/
def bodyAfter (head : Text) (rest : Bytes) : Bytes :=
  match contentLength? head with
  | some n => rest.take n
  | none => rest

/-- The request with the given head and the bytes after it. The query of the target is left out. -/
def ofHead? (head : Text) (rest : Bytes) : Option Request :=
  match (Text.lines head).head?.map Text.words with
  | some (method :: target :: _) =>
    some ⟨Text.uppercase method, target.takeWhile (· ≠ '?'), Text.ofUtf8 (bodyAfter head rest)⟩
  | _ => none

/-- The request that the bytes write, if the head is well-formed UTF-8 and begins with a method and
a target. -/
def parse? (bytes : Bytes) : Option Request :=
  let length := (headLength? bytes).getD bytes.length
  (Text.ofUtf8? (bytes.take length)).bind fun head => ofHead? head (bytes.drop length)

end Request

/-! ## Reading from a connection -/

/-- The number of bytes after which reading stops in any case. -/
def maxBytes : Nat := 1000000

/-- The number of bytes that one read gives at most. -/
def chunkSize : Nat := 8192

/-- The length of the whole request whose head has the given length. It is a number of 64 bits, and
wraps around. -/
def requestLength (length : Nat) (buffer : Bytes) : Nat :=
  (length + (contentLength? (Text.ofUtf8 (buffer.take length))).getD 0) % UInt64.size

/-- Does the buffer hold a head, and as many bytes after it as it announces? -/
def isComplete (buffer : Bytes) : Bool :=
  match headLength? buffer with
  | some length => requestLength length buffer ≤ buffer.length
  | none => false

/-- Is the buffer complete, or too long? -/
def isEnough (buffer : Bytes) : Bool := isComplete buffer || maxBytes < buffer.length

/-- The bytes read after those in the buffer, chunk by chunk. An empty chunk is the end. -/
def gather (buffer : Bytes) : List Bytes → Bytes
  | [] => buffer
  | chunk :: chunks =>
    if chunk.isEmpty then buffer
    else if isEnough (buffer ++ chunk) then buffer ++ chunk
    else gather (buffer ++ chunk) chunks

theorem gather_prefix (buffer : Bytes) (chunks : List Bytes) :
    gather buffer chunks <+: buffer ++ chunks.flatten := by
  induction chunks generalizing buffer with
  | nil => simp [gather]
  | cons chunk chunks ih =>
    unfold gather
    split
    · exact List.prefix_append ..
    · split
      · exact ⟨chunks.flatten, by simp⟩
      · simpa using ih (buffer ++ chunk)

/-- The bytes in chunks of the greatest size. -/
def chunksOf : Bytes → List Bytes
  | [] => []
  | b :: rest =>
    (b :: rest.take (chunkSize - 1)) :: chunksOf (rest.drop (chunkSize - 1))
termination_by bytes => bytes.length
decreasing_by simp only [List.length_drop, List.length_cons]; omega

theorem flatten_chunksOf (bytes : Bytes) : (chunksOf bytes).flatten = bytes := by
  induction bytes using chunksOf.induct with
  | case1 => simp [chunksOf]
  | case2 b rest ih => rw [chunksOf, List.flatten_cons, ih, List.cons_append, List.take_append_drop]

end AskTable.Http
