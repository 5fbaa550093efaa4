import AskTable.Proofs.Http.Framing
import AskTable.Proofs.Text.Numeral
/-!
# The reading of a request

Reading is a loop. One read after another goes into a buffer, until a read is empty, the buffer
holds a whole request or it is too long. A connection may send without end, so its reads are given
by their numbers, and the empty ones are the end of the stream. Each read that does not end the loop
makes the buffer longer, so the loop ends, whatever the head announces.

The test for a whole request adds up the length of the head and the announced length as a number of
64 bits. It is the right test as long as the sum is such a number. A head may announce so much that
the sum wraps around, and then it is short enough for any buffer.

## Main definitions

* `Http.Reading` - how far the reader has got, and `Http.Reading.take` - one read
* `Http.Reading.after` - how far the reader has got after a number of reads
* `Http.Reading.StopsAfter` - the reader makes a number of reads and no more
* `Http.Reading.IsHeld` - a buffer that the reader can come to

## Main results

* `Http.Reading.buffer_foldl_take` - the loop gathers what is gathered
* `Http.Reading.waits_of_after` - what holds while the reader waits
* `Http.Reading.exists_isBounded` - the loop ends, and with what
* `Http.Reading.isComplete_iff_le_iff` - when the test for a whole request is right
-/

namespace AskTable.Http

/-- How far the reader has got: it waits for a read, or has stopped. -/
inductive Reading where
  | waiting (buffer : Bytes)
  | stopped (buffer : Bytes)
deriving DecidableEq

/-- What has been read so far. -/
def Reading.buffer : Reading → Bytes
  | waiting buffer => buffer
  | stopped buffer => buffer

namespace Reading

variable {sent : Nat → Bytes} {buffer before read : Bytes} {n m length announced : Nat}

/-! ## The loop -/

/-- One read goes into the buffer. An empty one is the end of the stream. -/
def take : Reading → (read : Bytes) → Reading
  | waiting buffer, read =>
    if read = [] then stopped buffer
    else if isEnough (buffer ++ read) then stopped (buffer ++ read)
    else waiting (buffer ++ read)
  | stopped buffer, _ => stopped buffer

theorem foldl_take_stopped (buffer : Bytes) (reads : List Bytes) :
    reads.foldl take (stopped buffer) = stopped buffer := by
  induction reads with
  | nil => rfl
  | cons read reads ih => exact ih

/-- The loop gathers what is gathered. -/
theorem buffer_foldl_take (buffer : Bytes) (reads : List Bytes) :
    (reads.foldl take (waiting buffer)).buffer = gather buffer reads := by
  induction reads generalizing buffer with
  | nil => rfl
  | cons read reads ih =>
    rw [List.foldl_cons, take, gather]
    by_cases hread : read = []
    · rw [if_pos hread, if_pos (List.isEmpty_iff.mpr hread), foldl_take_stopped, Reading.buffer]
    · rw [if_neg hread, if_neg (mt List.isEmpty_iff.mp hread)]
      split
      · rw [foldl_take_stopped, Reading.buffer]
      · exact ih (buffer ++ read)

/-- The reader waits on exactly if the read was not empty and there is not enough yet. -/
theorem take_eq_waiting_iff : (waiting before).take read = waiting buffer ↔
    read ≠ [] ∧ buffer = before ++ read ∧ isEnough buffer = false := by
  rw [take]
  split_ifs with hread henough
  · exact iff_of_false nofun fun h => h.1 hread
  · refine iff_of_false nofun ?_
    rintro ⟨-, rfl, hnot⟩
    rw [hnot] at henough
    cases henough
  · rw [waiting.injEq]
    constructor
    · rintro rfl
      exact ⟨hread, rfl, Bool.eq_false_iff.mpr henough⟩
    · exact fun h => h.2.1.symm

/-- The reader stops exactly if the stream has ended or there is enough. -/
theorem take_eq_stopped_iff : (waiting before).take read = stopped buffer ↔
    read = [] ∧ buffer = before ∨
      read ≠ [] ∧ buffer = before ++ read ∧ isEnough buffer = true := by
  rw [take]
  split_ifs with hread henough
  · rw [stopped.injEq, eq_comm]
    simp [hread]
  · rw [stopped.injEq]
    constructor
    · rintro rfl
      exact Or.inr ⟨hread, rfl, henough⟩
    · rintro (⟨hempty, -⟩ | ⟨-, rfl, -⟩)
      · exact absurd hempty hread
      · rfl
  · refine iff_of_false nofun ?_
    rintro (⟨hempty, -⟩ | ⟨-, rfl, h⟩)
    · exact hread hempty
    · exact henough h

/-- A reader that waits takes the whole read, whether it stops or not. -/
theorem buffer_take_waiting (before read : Bytes) :
    ((waiting before).take read).buffer = before ++ read := by
  rw [take]
  split_ifs with hread
  · rw [hread, List.append_nil, Reading.buffer]
  · rfl
  · rfl

/-! ## Runs -/

/-- How far the reader has got after the first reads of a stream. -/
def after (sent : Nat → Bytes) (n : Nat) : Reading :=
  ((List.range n).map sent).foldl take (waiting [])

/-- The bytes of the first reads of a stream. -/
def received (sent : Nat → Bytes) (n : Nat) : Bytes := ((List.range n).map sent).flatten

theorem after_succ (sent : Nat → Bytes) (n : Nat) :
    after sent (n + 1) = (after sent n).take (sent n) := by
  rw [after, List.range_succ, List.map_append, List.foldl_append]
  rfl

theorem received_succ (sent : Nat → Bytes) (n : Nat) :
    received sent (n + 1) = received sent n ++ sent n := by
  rw [received, List.range_succ, List.map_append, List.flatten_append, List.map_singleton,
    List.flatten_singleton]
  rfl

theorem received_isPrefix (h : n ≤ m) : received sent n <+: received sent m := by
  induction m, h using Nat.le_induction with
  | base => exact List.prefix_rfl
  | succ m _ ih =>
    rw [received_succ]
    exact ih.trans (List.prefix_append _ _)

theorem gather_range (sent : Nat → Bytes) (n : Nat) :
    gather [] ((List.range n).map sent) = (after sent n).buffer :=
  (buffer_foldl_take [] _).symm

/-- What holds while the reader waits, after a number of reads: they were not empty, and the buffer
has their bytes, at least one of each, but not too many. -/
structure Waits (sent : Nat → Bytes) (n : Nat) (buffer : Bytes) : Prop where
  ne_nil : ∀ i < n, sent i ≠ []
  buffer_eq : buffer = received sent n
  le_length : n ≤ buffer.length
  length_le : buffer.length ≤ maxBytes

/-- A read after which the reader waits on keeps what holds. -/
theorem Waits.take (h : Waits sent n before)
    (htake : (waiting before).take (sent n) = waiting buffer) : Waits sent (n + 1) buffer := by
  obtain ⟨hread, rfl, henough⟩ := take_eq_waiting_iff.mp htake
  -- The read has a byte at least, so the buffer keeps up with the number of reads.
  have hread' : 0 < (sent n).length := List.length_pos_of_ne_nil hread
  have hle := h.le_length
  refine ⟨?_, ?_, ?_, ?_⟩
  · intro i hi
    rcases Nat.lt_succ_iff_lt_or_eq.mp hi with hi | rfl
    · exact h.ne_nil i hi
    · exact hread
  · rw [received_succ, h.buffer_eq]
  · rw [List.length_append]
    omega
  · rw [isEnough, Bool.or_eq_false_iff, decide_eq_false_iff_not] at henough
    exact Nat.le_of_not_lt henough.2

theorem waits_of_after (h : after sent n = waiting buffer) : Waits sent n buffer := by
  induction n generalizing buffer with
  | zero =>
    obtain rfl : [] = buffer := waiting.inj h
    exact ⟨nofun, rfl, Nat.le_refl 0, Nat.zero_le _⟩
  | succ n ih =>
    rw [after_succ] at h
    cases hn : after sent n with
    | waiting before =>
      rw [hn] at h
      exact (ih hn).take h
    | stopped before =>
      rw [hn] at h
      cases h

/-- The reader makes so many reads and no more. -/
structure StopsAfter (sent : Nat → Bytes) (n : Nat) (buffer : Bytes) : Prop where
  waits : ∀ m < n, ∃ before, after sent m = waiting before
  stops : ∀ m ≥ n, after sent m = stopped buffer

theorem after_eq_stopped_of_le (h : after sent n = stopped buffer) (hle : n ≤ m) :
    after sent m = stopped buffer := by
  induction m, hle using Nat.le_induction with
  | base => exact h
  | succ m _ ih => rw [after_succ, ih, take]

/-- A reader that has stopped did so at some read. -/
theorem exists_stopsAfter (h : after sent m = stopped buffer) :
    ∃ n ≤ m, StopsAfter sent n buffer := by
  induction m generalizing buffer with
  | zero => cases h
  | succ m ih =>
    cases hm : after sent m with
    | waiting before =>
      -- This is the read, since a reader that had stopped earlier would not wait now.
      refine ⟨m + 1, Nat.le_refl _, fun k hk => ?_, fun k => after_eq_stopped_of_le h⟩
      cases hbefore : after sent k with
      | waiting early => exact ⟨early, rfl⟩
      | stopped early =>
        rw [after_eq_stopped_of_le hbefore (Nat.le_of_lt_succ hk)] at hm
        cases hm
    | stopped before =>
      obtain rfl : before = buffer := by
        rw [after_eq_stopped_of_le hm (Nat.le_succ m)] at h
        exact stopped.inj h
      obtain ⟨n, hn, hstops⟩ := ih hm
      exact ⟨n, Nat.le_succ_of_le hn, hstops⟩

/-- The reader stops at a read before which it waited. -/
theorem StopsAfter.exists_take (h : StopsAfter sent n buffer) : ∃ k before, n = k + 1 ∧
    Waits sent k before ∧ (waiting before).take (sent k) = stopped buffer := by
  have hstopped := h.stops n (Nat.le_refl n)
  cases n with
  | zero => cases hstopped
  | succ k =>
    obtain ⟨before, hbefore⟩ := h.waits k (Nat.lt_succ_self k)
    rw [after_succ, hbefore] at hstopped
    exact ⟨k, before, rfl, waits_of_after hbefore, hstopped⟩

/-! ## What reading comes to -/

/-- The number of bytes behind a head that it announces, or none. -/
def bodyLength (buffer : Bytes) (length : Nat) : Nat :=
  (contentLength? (Text.ofUtf8 (buffer.take length))).getD 0

theorem isComplete_iff : isComplete buffer = true ↔ ∃ length, headLength? buffer = some length ∧
    (length + bodyLength buffer length) % UInt64.size ≤ buffer.length := by
  rw [isComplete]
  cases hhead : headLength? buffer with
  | none => simp
  | some length =>
    simp only [Option.some.injEq, exists_eq_left']
    exact decide_eq_true_iff

/-- The reader ends after a number of reads, with the bytes of those reads, and it does not end
early: unless the stream has ended or the buffer is too long, all of the request is there. -/
structure IsBounded (sent : Nat → Bytes) (n : Nat) (buffer : Bytes) : Prop where
  stopsAfter : StopsAfter sent n buffer
  reads_le : n ≤ maxBytes + 1
  gather_eq : ∀ m ≥ n, gather [] ((List.range m).map sent) = buffer
  isPrefix : ∀ m ≥ n, buffer <+: received sent m
  length_le : buffer.length ≤ maxBytes + chunkSize
  complete : (∀ i < n, sent i ≠ []) → buffer.length ≤ maxBytes →
    ∃ length, headLength? buffer = some length ∧
      (length + bodyLength buffer length < UInt64.size →
        length + bodyLength buffer length ≤ buffer.length)

/-- The buffer in which the reader ends is the one before with the last read behind it. -/
theorem StopsAfter.buffer_eq (h : StopsAfter sent n buffer) : buffer = received sent n := by
  obtain ⟨k, before, rfl, hwaits, htake⟩ := h.exists_take
  have hbuffer := buffer_take_waiting before (sent k)
  rwa [htake, hwaits.buffer_eq, ← received_succ] at hbuffer

theorem StopsAfter.length_le (h : StopsAfter sent n buffer)
    (hsize : ∀ i, (sent i).length ≤ chunkSize) : buffer.length ≤ maxBytes + chunkSize := by
  obtain ⟨k, before, rfl, hwaits, -⟩ := h.exists_take
  have hread := hsize k
  have hbefore := hwaits.length_le
  rw [h.buffer_eq, received_succ, ← hwaits.buffer_eq, List.length_append]
  omega

/-- Where neither the end of the stream nor the bound ends the reading, the request is complete. -/
theorem StopsAfter.isComplete (h : StopsAfter sent n buffer) (hread : ∀ i < n, sent i ≠ [])
    (hshort : buffer.length ≤ maxBytes) : isComplete buffer = true := by
  obtain ⟨k, before, rfl, -, htake⟩ := h.exists_take
  rcases take_eq_stopped_iff.mp htake with ⟨hempty, -⟩ | ⟨-, -, henough⟩
  · exact absurd hempty (hread k (Nat.lt_succ_self k))
  · rw [isEnough, Bool.or_eq_true, decide_eq_true_iff] at henough
    exact henough.resolve_right (Nat.not_lt.mpr hshort)

/-- Every read but the last one puts a byte into the buffer, so the reader does not wait forever. -/
theorem exists_stopsAfter_le (sent : Nat → Bytes) :
    ∃ n ≤ maxBytes + 1, ∃ buffer, StopsAfter sent n buffer := by
  cases hlast : after sent (maxBytes + 1) with
  | waiting buffer =>
    -- The buffer would have more bytes than a reader waits with.
    have hwaits := waits_of_after hlast
    exact absurd (hwaits.le_length.trans hwaits.length_le) (Nat.not_succ_le_self maxBytes)
  | stopped buffer =>
    obtain ⟨n, hn, hstops⟩ := exists_stopsAfter hlast
    exact ⟨n, hn, buffer, hstops⟩

/-- Reading ends, whatever is sent and announced, and what it gives is bounded and not cut short. -/
theorem exists_isBounded (sent : Nat → Bytes) (hsize : ∀ i, (sent i).length ≤ chunkSize) :
    ∃ n buffer, IsBounded sent n buffer := by
  obtain ⟨n, hn, buffer, hstops⟩ := exists_stopsAfter_le sent
  refine ⟨n, buffer, hstops, hn, fun m hm => ?_, fun m hm => ?_, hstops.length_le hsize, ?_⟩
  · rw [gather_range, hstops.stops m hm, Reading.buffer]
  · rw [hstops.buffer_eq]
    exact received_isPrefix hm
  · intro hread hshort
    obtain ⟨length, hhead, hle⟩ := isComplete_iff.mp (hstops.isComplete hread hshort)
    exact ⟨length, hhead, fun hfits => by rwa [Nat.mod_eq_of_lt hfits] at hle⟩

/-- A stream that does not end, with a request in its first three reads. -/
theorem exists_isBounded_endless :
    let sent (i : Nat) : Bytes := match i with
      | 0 => Text.utf8 "POST / HTTP/1.1\r\nContent-Length: 3\r\n"
      | 1 => Text.utf8 "\r\nab"
      | _ => Text.utf8 "c"
    (∀ i, (sent i).length ≤ chunkSize) ∧ ∃ n buffer, IsBounded sent n buffer ∧ n = 3 ∧
      buffer = Text.utf8 "POST / HTTP/1.1\r\nContent-Length: 3\r\n\r\nabc" := by
  intro sent
  have hsize : ∀ i, (sent i).length ≤ chunkSize
    | 0 => by decide
    | 1 => by decide
    | _ + 2 => (by decide : (Text.utf8 "c").length ≤ chunkSize)
  obtain ⟨n, buffer, hbounded⟩ := exists_isBounded sent hsize
  have hwaits : after sent 2 =
      waiting (Text.utf8 "POST / HTTP/1.1\r\nContent-Length: 3\r\n\r\nab") := by decide
  have hstops : after sent 3 =
      stopped (Text.utf8 "POST / HTTP/1.1\r\nContent-Length: 3\r\n\r\nabc") := by decide
  obtain rfl : n = 3 := by
    refine Nat.le_antisymm (Nat.le_of_not_lt fun hlt => ?_) (Nat.succ_le_of_lt ?_)
    · obtain ⟨before, hbefore⟩ := hbounded.stopsAfter.waits 3 hlt
      rw [hstops] at hbefore
      cases hbefore
    · refine Nat.lt_of_not_le fun hle => ?_
      have hended := hbounded.stopsAfter.stops 2 hle
      rw [hwaits] at hended
      cases hended
  refine ⟨hsize, 3, buffer, hbounded, rfl, ?_⟩
  exact (stopped.inj (hstops.symm.trans (hbounded.stopsAfter.stops 3 (Nat.le_refl 3)))).symm

/-! ## The test for a whole request -/

/-- The reader can come to hold these bytes. -/
def IsHeld (buffer : Bytes) : Prop :=
  ∃ sent n, (∀ i, (sent i).length ≤ chunkSize) ∧ (after sent n).buffer = buffer

theorem IsHeld.length_le (h : IsHeld buffer) : buffer.length ≤ maxBytes + chunkSize := by
  obtain ⟨sent, n, hsize, rfl⟩ := h
  cases hn : after sent n with
  | waiting before => exact (waits_of_after hn).length_le.trans (Nat.le_add_right _ _)
  | stopped before =>
    obtain ⟨m, -, hstops⟩ := exists_stopsAfter hn
    exact hstops.length_le hsize

/-- A length that is announced is a number of 64 bits. -/
theorem lt_size_of_contentLength? {head : Text} (h : contentLength? head = some n) :
    n < UInt64.size := by
  obtain ⟨line, -, hline⟩ := List.exists_of_findSome?_eq_some h
  rw [announcedLength?] at hline
  split at hline
  · split at hline
    · exact (Text.natBelow?_eq_some_iff.mp hline).2
    · cases hline
  · cases hline

/-- A buffer that the reader can come to is much shorter than a number of 64 bits. -/
theorem IsHeld.length_lt_size (h : IsHeld buffer) : buffer.length < UInt64.size :=
  h.length_le.trans_lt (by decide)

/-- The test for a whole request is right exactly if the length of the head and the announced length
add up to a number of 64 bits. They do unless the announced length is among the greatest such
numbers. -/
theorem isComplete_iff_le_iff (hheld : IsHeld buffer) (h : Announces buffer length announced) :
    ((isComplete buffer = true ↔ length + announced ≤ buffer.length) ↔
      length + announced < UInt64.size) ∧
    (announced < UInt64.size - (maxBytes + chunkSize) → length + announced < UInt64.size) := by
  have hhead : length ≤ buffer.length := headLength?_le h.head
  have htest : isComplete buffer = true ↔ (length + announced) % UInt64.size ≤ buffer.length := by
    simp only [isComplete_iff, h.head, Option.some.injEq, exists_eq_left', bodyLength, h.body,
      Option.getD_some]
  refine ⟨?_, fun hsmall => ?_⟩
  · rw [htest]
    by_cases hfits : length + announced < UInt64.size
    · rw [Nat.mod_eq_of_lt hfits]
      exact iff_of_true Iff.rfl hfits
    · -- The sum wraps around once, and what is left of it is less than the head alone.
      have hannounced := lt_size_of_contentLength? h.body
      have hbuffer := hheld.length_lt_size
      have hwrapped : (length + announced) % UInt64.size = length + announced - UInt64.size := by
        rw [Nat.mod_eq_sub_mod (Nat.not_lt.mp hfits), Nat.mod_eq_of_lt (by omega)]
      refine iff_of_false (fun htests => ?_) hfits
      have hwhole : length + announced ≤ buffer.length := htests.mp (by omega)
      omega
  · have hbuffer := hheld.length_le
    omega

/-- What comes in one read can be held. -/
theorem isHeld_of_length_le (h : buffer.length ≤ chunkSize) : IsHeld buffer := by
  refine ⟨fun i => if i = 0 then buffer else [], 1, fun i => ?_, ?_⟩
  · dsimp only
    split_ifs
    · exact h
    · exact Nat.zero_le _
  · exact buffer_take_waiting [] buffer

/-- A byte of the announced two has not come yet. -/
theorem isComplete_lacking :
    let buffer := Text.utf8 "POST / HTTP/1.1\r\nContent-Length: 2\r\n\r\nh"
    IsHeld buffer ∧ Announces buffer 38 2 ∧
      (isComplete buffer = true ↔ 38 + 2 ≤ buffer.length) := by
  intro buffer
  have hheld : IsHeld buffer := isHeld_of_length_le (by decide)
  have hannounces : Announces buffer 38 2 := ⟨by decide, by decide⟩
  exact ⟨hheld, hannounces, (isComplete_iff_le_iff hheld hannounces).1.mpr (by decide)⟩

/-- A head that announces the greatest number of 64 bits is taken for a whole request, and what
comes in the next read is not read. -/
theorem not_forall_lt_size :
    let head := Text.utf8 "POST / HTTP/1.1\r\nContent-Length: 18446744073709551615\r\n\r\n"
    let body := Text.utf8 "body"
    IsHeld head ∧ Announces head 57 18446744073709551615 ∧ isComplete head = true ∧
      Request.parse? (gather [] [head, body]) = some ⟨"POST", "/", ""⟩ ∧
      Request.parse? (head ++ body) = some ⟨"POST", "/", "body"⟩ ∧
      ¬ ∀ (buffer : Bytes) (length announced : Nat), IsHeld buffer →
        Announces buffer length announced → length + announced < UInt64.size := by
  intro head body
  have hheld : IsHeld head := isHeld_of_length_le (by decide)
  have hannounces : Announces head 57 18446744073709551615 := ⟨by decide, by decide⟩
  refine ⟨hheld, hannounces, by decide, by decide, by decide, fun h => ?_⟩
  exact absurd (h head 57 18446744073709551615 hheld hannounces) (by decide)

end Reading

end AskTable.Http
