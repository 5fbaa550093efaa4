import AskTable.Proofs.Http.Framing
import AskTable.Proofs.Http.Head
import AskTable.Proofs.Text.Ascii
import AskTable.Proofs.Text.Numeral
/-!
# Requests as they are read back

A request is written as a line with its method and its target, lines that describe it, an empty
line and the body. One of the lines gives the length of the body. Such a request is read back,
whatever the other lines say, whatever the body is made of and whatever bytes follow: no other line
is taken for the one with the length. The first line cannot be, since no number ends as it does.

## Main definitions

* `Http.IsNamed` - a line with a given name
* `Http.Target` - a path, and a query behind a question mark
* `Http.WrittenRequest` - a request that gives the length of its body

## Main results

* `Http.announcedLength?_of_not_isNamed` - only lines of one name announce a length
* `Http.announcedLength?_requestLine` - the first line announces no length
* `Http.WrittenRequest.parse?_bytes_append` - a request is read back
-/

namespace AskTable.Http

open Text (isBlank)

variable {name line : Text}

/-! ## Names of lines -/

/-- The line has the name in front of its first colon, apart from the case of ASCII letters and from
blanks around the name. -/
def IsNamed (name line : Text) : Prop :=
  ∃ own value, line = own ++ ':' :: value ∧ ':' ∉ own ∧
    Text.equalsIgnoringCase (Text.trim own) name = true

theorem isNamed_iff : IsNamed name line ↔ ∃ cut, Text.cutAt? ':' line = some cut ∧
    Text.equalsIgnoringCase (Text.trim cut.1) name = true := by
  constructor
  · rintro ⟨own, value, rfl, hmark, hname⟩
    exact ⟨(own, value), Text.cutAt?_append_cons hmark value, hname⟩
  · rintro ⟨cut, hcut, hname⟩
    by_cases hmark : ':' ∈ line
    · obtain ⟨own, value, rfl, hown⟩ := List.eq_append_cons_of_mem hmark
      rw [Text.cutAt?_append_cons hown] at hcut
      obtain rfl := Option.some.inj hcut
      exact ⟨own, value, rfl, hown, hname⟩
    · rw [Text.cutAt?_eq_none hmark] at hcut
      cases hcut

instance (name line : Text) : Decidable (IsNamed name line) :=
  decidable_of_iff _ (isNamed_iff.trans (Option.any_eq_true _ _).symm).symm

/-- A line of another name announces nothing. -/
theorem announcedLength?_of_not_isNamed (h : ¬ IsNamed "content-length" line) :
    announcedLength? line = none := by
  rw [announcedLength?]
  cases hcut : Text.cutAt? ':' line with
  | none => rfl
  | some cut => exact if_neg fun hname => h (isNamed_iff.mpr ⟨cut, hcut, hname⟩)

/-- A text that is a name in lower case has neither blanks nor colons. -/
theorem visible_of_equalsIgnoringCase (h : Text.equalsIgnoringCase name "content-length" = true) :
    ∀ c ∈ name, isBlank c = false ∧ c ≠ ':' := by
  intro c hc
  have hlower : c.toLower ∈ ("content-length" : Text) := by
    have hmem : c.toLower ∈ name.map Char.toLower := List.mem_map_of_mem hc
    rwa [eq_of_beq h] at hmem
  by_cases hupper : c.isUpper = true
  · have hrange := Text.isUpper_iff.mp hupper
    refine ⟨Text.isBlank_eq_false (by omega) (by omega), ?_⟩
    rintro rfl
    exact absurd hupper (by decide)
  · have hvisible : ("content-length" : Text).all (fun c => !isBlank c && c != ':') = true := by
      decide
    rw [Text.toLower_of_not_isUpper hupper] at hlower
    simpa using List.all_eq_true.mp hvisible c hlower

/-! ## The first line -/

/-- No line end stands in a line of visible characters and plain blanks. -/
theorem isHeadLine_of_visible (hne : line ≠ []) (h : ∀ c ∈ line, c = ' ' ∨ isBlank c = false) :
    IsHeadLine line where
  ne_nil := hne
  carriageReturn hmem := absurd (h '\r' hmem) (by decide)
  lineFeed hmem := absurd (h '\n' hmem) (by decide)

/-- What a request asks for: a path, and a query behind a question mark. -/
structure Target where
  path : Text
  query : Option Text
deriving Repr, DecidableEq

/-- The target as it is written. -/
def Target.text (target : Target) : Text :=
  match target.query with
  | some query => target.path ++ '?' :: query
  | none => target.path

/-- Without its query, a target is its path. -/
theorem Target.takeWhile_text {target : Target} (h : '?' ∉ target.path) :
    target.text.takeWhile (· ≠ '?') = target.path := by
  have hpath : ∀ c ∈ target.path, decide (c ≠ '?') = true := by
    intro c hc
    refine decide_eq_true ?_
    rintro rfl
    exact h hc
  unfold Target.text
  split
  · exact (Text.span_append hpath (by simp)).1
  · exact List.takeWhile_eq_self_iff.mpr hpath

/-- The first line of a request. -/
def requestLine (method target : Text) : Text := method ++ ' ' :: (target ++ ' ' :: "HTTP/1.1")

/-- Method and target are the first words of the first line. -/
theorem words_requestLine {method target : Text} (hmethod : method ≠ [])
    (hmethodBlank : ∀ c ∈ method, isBlank c = false) (htarget : target ≠ [])
    (htargetBlank : ∀ c ∈ target, isBlank c = false) :
    Text.words (requestLine method target) = method :: target :: Text.words "HTTP/1.1" := by
  rw [requestLine, Text.words_append_cons hmethod hmethodBlank,
    Text.words_append_cons htarget htargetBlank]

/-- The first line announces no length, not even with colons in its method or its target. -/
theorem announcedLength?_requestLine (method target : Text) :
    announcedLength? (requestLine method target) = none := by
  rw [announcedLength?]
  cases hcut : Text.cutAt? ':' (requestLine method target) with
  | none => rfl
  | some cut =>
    obtain ⟨own, value⟩ := cut
    -- The version has no colon, so it stands behind the first one.
    have hline : own ++ ':' :: value =
        (method ++ ' ' :: (target ++ [' '])) ++ ("HTTP/1.1" ++ ([] : Text)) := by
      rw [← Text.eq_of_cutAt? hcut, requestLine]
      simp
    have hversion : ("HTTP/1.1" : Text) <:+: value := by
      rcases Text.eq_append_of_append_cons_eq (by decide) hline with
        ⟨rest, hnil, -⟩ | ⟨rest, -, rfl⟩
      · simp at hnil
      · exact List.infix_append' rest _ _
    have htrimmed : ("HTTP/1.1" : Text) <:+: Text.trim value :=
      (Text.infix_trim_iff (by decide) (Text.isBlank_eq_false_of_all (by decide))).mpr hversion
    have hread : Text.natBelow? UInt64.size (Text.trim value) = none := by
      rw [Option.eq_none_iff_forall_ne_some]
      intro n hn
      have hnumeral := (Text.natBelow?_eq_some_iff.mp hn).1
      exact absurd (hnumeral.eq_plus_or_isDigit 'H' (htrimmed.subset (by decide))) (by decide)
    change (if _ then _ else _) = _
    rw [hread, ite_self]

/-! ## Requests -/

/-- A request that gives the length of its body, a number of 64 bits. The line with the length may
stand anywhere among the other lines, and its name may be written in small and capital letters. The
other lines have other names, and may say anything else. -/
structure WrittenRequest where
  method : Text
  target : Target
  before : List Text
  lengthName : Text
  after : List Text
  body : Bytes
  method_ne_nil : method ≠ []
  method_visible : ∀ c ∈ method, isBlank c = false
  path_mark : '?' ∉ target.path
  target_ne_nil : target.text ≠ []
  target_visible : ∀ c ∈ target.text, isBlank c = false
  isHeadLine : ∀ line ∈ before ++ after, IsHeadLine line
  not_isNamed : ∀ line ∈ before ++ after, ¬ IsNamed "content-length" line
  lengthName_eq : Text.equalsIgnoringCase lengthName "content-length" = true
  length_lt : body.length < UInt64.size

namespace WrittenRequest

/-- The line with the length of the body. -/
def lengthLine (w : WrittenRequest) : Text :=
  w.lengthName ++ ':' :: ' ' :: Text.ofNat w.body.length

/-- The lines in front of the empty one. -/
def lines (w : WrittenRequest) : List Text :=
  requestLine w.method w.target.text :: (w.before ++ w.lengthLine :: w.after)

/-- The request as it is written. -/
def bytes (w : WrittenRequest) : Bytes := Text.utf8 (headText w.lines) ++ w.body

variable (w : WrittenRequest)

theorem isHeadLine_requestLine : IsHeadLine (requestLine w.method w.target.text) := by
  refine isHeadLine_of_visible (by simp [requestLine]) ?_
  have hversion : ∀ c ∈ ("HTTP/1.1" : Text), isBlank c = false :=
    Text.isBlank_eq_false_of_all (by decide)
  rw [requestLine, List.forall_mem_append, List.forall_mem_cons, List.forall_mem_append,
    List.forall_mem_cons]
  exact ⟨fun c hc => .inr (w.method_visible c hc), .inl rfl,
    fun c hc => .inr (w.target_visible c hc), .inl rfl, fun c hc => .inr (hversion c hc)⟩

theorem isHeadLine_lengthLine : IsHeadLine w.lengthLine := by
  refine isHeadLine_of_visible (by simp [lengthLine]) ?_
  rw [lengthLine, List.forall_mem_append, List.forall_mem_cons, List.forall_mem_cons]
  exact ⟨fun c hc => .inr (visible_of_equalsIgnoringCase w.lengthName_eq c hc).1,
    .inr (by decide), .inl rfl, fun c hc => .inr (isBlank_of_isDigit
      (Nat.isDigit_of_mem_toDigits (by decide) (by decide) hc))⟩

theorem isHeadLine_of_mem : ∀ line ∈ w.lines, IsHeadLine line := by
  have hothers := List.forall_mem_append.mp w.isHeadLine
  rw [lines, List.forall_mem_cons, List.forall_mem_append, List.forall_mem_cons]
  exact ⟨w.isHeadLine_requestLine, hothers.1, w.isHeadLine_lengthLine, hothers.2⟩

/-- The head announces the length of the body, by the line with the length. -/
theorem contentLength?_lines : contentLength? (headText w.lines) = some w.body.length := by
  have hothers := List.forall_mem_append.mp w.not_isNamed
  have hbefore : w.before.findSome? announcedLength? = none :=
    List.findSome?_eq_none_iff.mpr fun line hline =>
      announcedLength?_of_not_isNamed (hothers.1 line hline)
  have hname := visible_of_equalsIgnoringCase w.lengthName_eq
  have htrim : Text.trim w.lengthName = w.lengthName :=
    Text.trim_eq_self (fun c hc => (hname c (List.mem_of_mem_head? hc)).1)
      fun c hc => (hname c (List.mem_of_getLast? hc)).1
  have hlength : announcedLength? w.lengthLine = some w.body.length :=
    announcedLength?_append (fun hmem => (hname ':' hmem).2 rfl)
      (by rw [htrim]; exact w.lengthName_eq) w.length_lt
  rw [contentLength?_headText w.isHeadLine_of_mem, lines, List.findSome?_cons,
    announcedLength?_requestLine, List.findSome?_append, hbefore, List.findSome?_cons, hlength]
  rfl

/-- A request is read back, whatever bytes follow: its method in upper case, its path without the
query, and its body, which is read leniently. -/
theorem parse?_bytes_append (surplus : Bytes) :
    Request.parse? (w.bytes ++ surplus) =
      some ⟨Text.uppercase w.method, w.target.path, Text.ofUtf8 w.body⟩ ∧
    ∀ t, w.body = Text.utf8 t → Request.parse? (w.bytes ++ surplus) =
      some ⟨Text.uppercase w.method, w.target.path, t⟩ := by
  have hparse : Request.parse? (w.bytes ++ surplus) =
      some ⟨Text.uppercase w.method, w.target.path, Text.ofUtf8 w.body⟩ := by
    have hhead : headLength? (w.bytes ++ surplus) = some (Text.utf8 (headText w.lines)).length := by
      rw [bytes, List.append_assoc]
      exact headLength?_headText (List.cons_ne_nil _ _) w.isHeadLine_of_mem _
    have hbody : Request.bodyAfter (headText w.lines) (w.body ++ surplus) = w.body := by
      rw [Request.bodyAfter, w.contentLength?_lines]
      exact List.take_left
    have hwords : (Text.lines (headText w.lines)).head?.map Text.words =
        some (w.method :: w.target.text :: Text.words "HTTP/1.1") := by
      rw [lines_headText w.isHeadLine_of_mem, lines]
      exact congrArg some (words_requestLine w.method_ne_nil w.method_visible w.target_ne_nil
        w.target_visible)
    rw [Request.parse?_of_headLength? hhead, bytes, List.append_assoc, List.take_left,
      List.drop_left, Text.ofUtf8?_utf8, Option.bind_some, Request.ofHead?, hwords]
    change some (Request.mk _ _ _) = _
    rw [Target.takeWhile_text w.path_mark, hbody]
  refine ⟨hparse, fun t ht => ?_⟩
  rw [hparse, ht, Text.ofUtf8_utf8]

/-- The body looks like the end of a head with a length, and a line and the target like one with a
length. -/
theorem parse?_bytes_append_nested :
    let body : Text := "\r\n\r\nContent-Length: 1\r\n\r\né"
    let written : Text := "post /nl-query?Content-Length:1 HTTP/1.1\r\n" ++
      "Host: local:80\r\ncontent-LENGTH: 27\r\nX-Content-Length: é\r\n\r\n" ++ body ++ "more"
    Request.parse? (Text.utf8 written) = some ⟨"POST", "/nl-query", body⟩ := by
  intro body written
  let w : WrittenRequest :=
    { method := "post"
      target := ⟨"/nl-query", some "Content-Length:1"⟩
      before := ["Host: local:80"]
      lengthName := "content-LENGTH"
      after := ["X-Content-Length: é"]
      body := Text.utf8 body
      method_ne_nil := by decide
      method_visible := Text.isBlank_eq_false_of_all (by decide)
      path_mark := by decide
      target_ne_nil := by decide
      target_visible := Text.isBlank_eq_false_of_all (by decide)
      isHeadLine := by decide
      not_isNamed := by decide
      lengthName_eq := by decide
      length_lt := by decide }
  have hwritten : Text.utf8 written = w.bytes ++ Text.utf8 "more" := by decide +kernel
  rw [hwritten]
  exact (w.parse?_bytes_append (Text.utf8 "more")).2 body rfl

end WrittenRequest

end AskTable.Http
