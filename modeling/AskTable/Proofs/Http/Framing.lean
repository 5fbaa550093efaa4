import AskTable.Http.Request
import Mathlib.Data.List.Infix
/-!
# Where a request ends

Two functions look for the end of a request. The reader stops once it has the head and as many bytes
as the head announces, or none if it announces nothing readable. The parser takes the announced
bytes for the body, or all there are if nothing readable is announced. They agree where a length is
announced: then the request depends on its own bytes only, so neither the cut of the stream into
reads nor bytes behind the request matter. Where no length is announced, whatever the last read
brought along becomes the body.

## Main definitions

* `Http.Announces` - the bytes have a complete head, which announces the length of the body
* `Http.Segmentation` - a stream cut into reads

## Main results

* `Http.Announces.parse?_congr` - a request with an announced length depends on its own bytes only
* `Http.gather_eq_or_isEnough` - reading ends with the stream, or with enough of it
* `Http.parse?_gather` - how a stream is cut into reads does not matter
* `Http.parse?_append_iff` - when bytes behind a request do not matter
-/

namespace AskTable.Http

variable {bytes bytes' buffer stream : Bytes} {length announced : Nat}

/-! ## Heads -/

theorem headLength?_of_isPrefix (hstarts : buffer <+: stream)
    (h : headLength? buffer = some length) : headLength? stream = some length := by
  obtain ⟨more, rfl⟩ := hstarts
  exact headLength?_append h more

/-- A complete head is complete without the bytes behind it. -/
theorem headLength?_take (h : headLength? bytes = some length) :
    headLength? (bytes.take length) = some length := by
  induction bytes generalizing length with
  | nil => cases h
  | cons b rest ih =>
    by_cases hend : headEnd.isPrefixOf (b :: rest) = true
    · -- The end of the head stands here, and its four bytes are among those taken.
      rw [headLength?, if_pos hend] at h
      obtain rfl := Option.some.inj h
      have htake : headEnd <+: (b :: rest).take headEnd.length :=
        List.prefix_take_iff.mpr ⟨List.isPrefixOf_iff_prefix.mp hend, Nat.le_refl _⟩
      have hfour : headEnd.length = 3 + 1 := rfl
      rw [hfour, List.take_succ_cons] at htake ⊢
      rw [headLength?, if_pos (List.isPrefixOf_iff_prefix.mpr htake), hfour]
    · rw [headLength?, if_neg hend] at h
      obtain ⟨shorter, hshorter, rfl⟩ := Option.map_eq_some_iff.mp h
      have hnot : ¬ headEnd.isPrefixOf (b :: rest.take shorter) = true := by
        intro htaken
        refine hend (List.isPrefixOf_iff_prefix.mpr ?_)
        exact (List.isPrefixOf_iff_prefix.mp htaken).trans
          (List.prefix_cons_inj b |>.mpr (List.take_prefix shorter rest))
      rw [List.take_succ_cons, headLength?, if_neg hnot, ih hshorter, Option.map_some]

/-! ## The parser -/

/-- The bytes have a complete head, which announces the length of the body. A head that is not UTF-8
is read leniently. -/
structure Announces (bytes : Bytes) (length announced : Nat) : Prop where
  head : headLength? bytes = some length
  body : contentLength? (Text.ofUtf8 (bytes.take length)) = some announced

namespace Request

theorem parse?_of_headLength? (h : headLength? bytes = some length) :
    parse? bytes = (Text.ofUtf8? (bytes.take length)).bind fun head =>
      ofHead? head (bytes.drop length) := by
  rw [parse?, h, Option.getD_some]

/-- What stands behind a head matters only as a body. -/
theorem ofHead?_congr {head : Text} {rest rest' : Bytes}
    (h : bodyAfter head rest = bodyAfter head rest') : ofHead? head rest = ofHead? head rest' := by
  rw [ofHead?, h, ofHead?]

end Request

open Request (parse? parse?_of_headLength? ofHead?_congr)

/-- A request with an announced length depends on no byte behind the announced ones. -/
theorem Announces.parse?_congr (h : Announces bytes length announced)
    (heq : bytes.take (length + announced) = bytes'.take (length + announced)) :
    parse? bytes = parse? bytes' := by
  have hhead : bytes.take length = bytes'.take length := by
    simpa [List.take_take] using congrArg (List.take length) heq
  have hhead' : headLength? bytes' = some length := by
    refine headLength?_of_isPrefix (List.take_prefix length bytes') ?_
    rw [← hhead]
    exact headLength?_take h.head
  have hbody : (bytes.drop length).take announced = (bytes'.drop length).take announced := by
    simpa only [List.drop_take, Nat.add_sub_cancel_left] using congrArg (List.drop length) heq
  rw [parse?_of_headLength? h.head, parse?_of_headLength? hhead', ← hhead]
  cases hstrict : Text.ofUtf8? (bytes.take length) with
  | none => rfl
  | some head =>
    -- Where the strict reading succeeds, it is the lenient one that the length was found in.
    have hlength : contentLength? head = some announced := by
      rw [← Text.ofUtf8_eq_of_ofUtf8? hstrict]
      exact h.body
    refine ofHead?_congr ?_
    rw [Request.bodyAfter, Request.bodyAfter, hlength]
    exact hbody

/-! ## The reader -/

/-- Reading ends with the whole stream, or with enough of it. -/
theorem gather_eq_or_isEnough (buffer : Bytes) {chunks : List Bytes}
    (hne : ∀ chunk ∈ chunks, chunk ≠ []) :
    gather buffer chunks = buffer ++ chunks.flatten ∨
      isEnough (gather buffer chunks) = true := by
  induction chunks generalizing buffer with
  | nil => exact Or.inl (List.append_nil buffer).symm
  | cons chunk chunks ih =>
    have hchunk : chunk.isEmpty = false :=
      List.isEmpty_eq_false_iff.mpr (hne chunk List.mem_cons_self)
    rw [gather, hchunk, if_neg Bool.false_ne_true]
    by_cases henough : isEnough (buffer ++ chunk) = true
    · rw [if_pos henough]
      exact Or.inr henough
    · rw [if_neg henough, List.flatten_cons, ← List.append_assoc]
      exact ih (buffer ++ chunk) fun c hc => hne c (List.mem_cons_of_mem chunk hc)

/-- An empty read ends the stream, as its end does. -/
theorem gather_append_end (buffer : Bytes) (chunks : List Bytes) :
    gather buffer (chunks ++ [[]]) = gather buffer chunks := by
  induction chunks generalizing buffer with
  | nil => rfl
  | cons chunk chunks ih => rw [List.cons_append, gather, gather, ih]

/-- A complete buffer has all bytes of the request, if their number fits 64 bits. -/
theorem le_length_of_isComplete (h : isComplete buffer = true)
    (hannounces : Announces buffer length announced) (hfits : length + announced < UInt64.size) :
    length + announced ≤ buffer.length := by
  rw [isComplete, hannounces.head] at h
  have hle : requestLength length buffer ≤ buffer.length := of_decide_eq_true h
  rwa [requestLength, hannounces.body, Option.getD_some, Nat.mod_eq_of_lt hfits] at hle

/-- A complete beginning of a stream has the head of the stream. -/
theorem Announces.of_isPrefix (h : Announces stream length announced) (hstarts : buffer <+: stream)
    (hcomplete : isComplete buffer = true) : Announces buffer length announced := by
  obtain ⟨own, hown⟩ : ∃ own, headLength? buffer = some own := by
    cases hhead : headLength? buffer with
    | none => simp [isComplete, hhead] at hcomplete
    | some own => exact ⟨own, rfl⟩
  obtain rfl : own = length :=
    Option.some.inj ((headLength?_of_isPrefix hstarts hown).symm.trans h.head)
  obtain ⟨more, rfl⟩ := hstarts
  have hbody := h.body
  rw [List.take_append_of_le_length (headLength?_le hown)] at hbody
  exact ⟨hown, hbody⟩

/-- A stream cut into reads, none of them empty. -/
structure Segmentation (stream : Bytes) where
  reads : List Bytes
  flatten_reads : reads.flatten = stream
  ne_nil : ∀ read ∈ reads, read ≠ []
  length_le : ∀ read ∈ reads, read.length ≤ chunkSize

/-- What a connection gives, read after read, with the empty read at its end. -/
def Segmentation.received (segmentation : Segmentation stream) : List Bytes :=
  segmentation.reads ++ [[]]

/-- How a stream is cut into reads does not matter for the request, and neither do the bytes behind
the announced ones. -/
theorem parse?_gather (hsize : stream.length ≤ maxBytes)
    (h : Announces stream length announced) (hfits : length + announced < UInt64.size) :
    (∀ segmentation : Segmentation stream,
      parse? (gather [] segmentation.received) = parse? stream) ∧
    (length + announced ≤ stream.length →
      ∀ surplus, parse? (stream.take (length + announced) ++ surplus) = parse? stream) := by
  constructor
  · intro segmentation
    rw [Segmentation.received, gather_append_end]
    have hstarts : gather [] segmentation.reads <+: stream := by
      simpa [segmentation.flatten_reads] using gather_prefix [] segmentation.reads
    rcases gather_eq_or_isEnough [] segmentation.ne_nil with hall | henough
    · rw [hall, List.nil_append, segmentation.flatten_reads]
    · generalize gather [] segmentation.reads = buffer at hstarts henough
      -- The stream is not too long, so reading stopped at a complete request.
      have hcomplete : isComplete buffer = true := by
        have hshort : ¬ maxBytes < buffer.length := by
          have := hstarts.length_le
          omega
        simpa [isEnough, hshort] using henough
      have hannounces := h.of_isPrefix hstarts hcomplete
      refine hannounces.parse?_congr ?_
      obtain ⟨more, rfl⟩ := hstarts
      exact (List.take_append_of_le_length
        (le_length_of_isComplete hcomplete hannounces hfits)).symm
  · intro hle surplus
    refine (h.parse?_congr ?_).symm
    rw [List.take_append_of_le_length (List.length_take_of_le hle).ge, List.take_take,
      Nat.min_self]

/-- A stream cut inside of the announced number, inside of the end of the head and inside of a
character of the body. -/
theorem parse?_gather_cut :
    let reads : List Bytes :=
      [Text.utf8 "POST /nl-query HTTP/1.1\r\nContent-Length: 1",
        Text.utf8 "0\r\n\r", Text.utf8 "\n\x7b\"a\":\"", [0xC3], 0xA9 :: Text.utf8 "\"\x7dmore"]
    reads.flatten.length ≤ maxBytes ∧ Announces reads.flatten 47 10 ∧ 47 + 10 < UInt64.size ∧
      parse? (gather [] (reads ++ [[]])) =
        some ⟨"POST", "/nl-query", "\x7b\"a\":\"é\"\x7d"⟩ := by
  intro reads
  have hsize : reads.flatten.length ≤ maxBytes := by decide
  have hannounces : Announces reads.flatten 47 10 := ⟨by decide, by decide⟩
  have hfits : 47 + 10 < UInt64.size := by decide
  refine ⟨hsize, hannounces, hfits, ?_⟩
  have hcut := (parse?_gather hsize hannounces hfits).1 ⟨reads, rfl, by decide, by decide⟩
  exact hcut.trans (by decide)

/-! ## Bytes behind a request -/

/-- The bytes are a request as the reader waits for it: a complete head, and as many bytes behind it
as it announces, or none. -/
structure IsAwaited (request : Bytes) (length : Nat) : Prop where
  head : headLength? request = some length
  size : request.length =
    length + (contentLength? (Text.ofUtf8 (request.take length))).getD 0

/-- Only no bytes write the empty text. -/
theorem ofUtf8_eq_nil_iff : Text.ofUtf8 bytes = [] ↔ bytes = [] := by
  cases bytes <;> simp [Text.ofUtf8, Text.utf8Pieces]

/-- Behind a head that announces nothing readable, all bytes are the body. -/
theorem IsAwaited.parse?_append {request : Bytes} (h : IsAwaited request length)
    (hnone : contentLength? (Text.ofUtf8 (request.take length)) = none) (surplus : Bytes) :
    parse? (request ++ surplus) =
      (parse? request).map fun r => { r with body := Text.ofUtf8 surplus } := by
  have hlength : request.length = length := by
    rw [h.size, hnone]
    rfl
  subst hlength
  rw [parse?_of_headLength? h.head, parse?_of_headLength? (headLength?_append h.head surplus),
    List.take_left, List.drop_left, List.take_length, List.drop_length]
  cases hstrict : Text.ofUtf8? request with
  | none => rfl
  | some head =>
    rw [List.take_length, Text.ofUtf8_eq_of_ofUtf8? hstrict] at hnone
    simp only [Option.bind_some, Request.ofHead?, Request.bodyAfter, hnone]
    -- Method and target are those of the head, if it has them.
    split <;> rfl

/-- Bytes behind a request that the reader would wait for matter exactly if the request announces no
length, and is one at all. -/
theorem parse?_append_iff {request : Bytes} (h : IsAwaited request length) (surplus : Bytes) :
    parse? (request ++ surplus) = parse? request ↔
      surplus = [] ∨ parse? request = none ∨ ∃ announced, Announces request length announced := by
  cases hbody : contentLength? (Text.ofUtf8 (request.take length)) with
  | some announced =>
    have hannounces : Announces request length announced := ⟨h.head, hbody⟩
    have hsize : request.length = length + announced := by rw [h.size, hbody, Option.getD_some]
    refine iff_of_true (hannounces.parse?_congr ?_).symm (Or.inr (Or.inr ⟨announced, hannounces⟩))
    rw [← hsize, List.take_left, List.take_length]
  | none =>
    have hnone : ¬ ∃ announced, Announces request length announced := by
      rintro ⟨announced, hannounces⟩
      rw [hannounces.body] at hbody
      cases hbody
    -- The body of the request itself is empty, so the two bodies agree for no surplus only.
    have hempty := h.parse?_append hbody []
    rw [List.append_nil] at hempty
    rw [h.parse?_append hbody surplus]
    cases hrequest : parse? request with
    | none => simp
    | some r =>
      obtain ⟨method, path, body⟩ := r
      rw [hrequest] at hempty
      obtain rfl : body = [] := congrArg Request.body (Option.some.inj hempty)
      simp [hnone, ofUtf8_eq_nil_iff]

/-- Bytes behind an announced body do not matter. -/
theorem parse?_append_announced :
    let request := Text.utf8 "POST / HTTP/1.1\r\nContent-Length: 2\r\n\r\nhi"
    IsAwaited request 38 ∧
      parse? (request ++ Text.utf8 "more") = some ⟨"POST", "/", "hi"⟩ := by
  intro request
  have hawaited : IsAwaited request 38 := ⟨by decide, by decide⟩
  have hannounces : Announces request 38 2 := ⟨by decide, by decide⟩
  refine ⟨hawaited, ?_⟩
  have hequal := (parse?_append_iff hawaited (Text.utf8 "more")).mpr (.inr (.inr ⟨2, hannounces⟩))
  exact hequal.trans (by decide)

/-- A request that announces nothing takes what arrives with it for its body. -/
theorem parse?_append_unannounced :
    let request := Text.utf8 "GET /health HTTP/1.1\r\n\r\n"
    IsAwaited request 24 ∧ parse? request = some ⟨"GET", "/health", ""⟩ ∧
      parse? (request ++ Text.utf8 "more") = some ⟨"GET", "/health", "more"⟩ ∧
      ¬ ∀ (request surplus : Bytes) (length : Nat), IsAwaited request length →
        parse? (request ++ surplus) = parse? request := by
  intro request
  have hawaited : IsAwaited request 24 := ⟨by decide, by decide⟩
  have hwithout : parse? request = some ⟨"GET", "/health", ""⟩ := by decide
  have hwith : parse? (request ++ Text.utf8 "more") = some ⟨"GET", "/health", "more"⟩ := by
    decide
  refine ⟨hawaited, hwithout, hwith, fun h => ?_⟩
  have hequal := h request (Text.utf8 "more") 24 hawaited
  rw [hwith, hwithout] at hequal
  exact absurd hequal (by decide)

end AskTable.Http
