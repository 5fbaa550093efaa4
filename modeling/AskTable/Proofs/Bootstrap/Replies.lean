import AskTable.Proofs.Bootstrap
import AskTable.Proofs.Engine.Columns
import AskTable.Proofs.Text.Numeral
/-!
# Preparing under faults

Each of the three statements may fail: the server may be out of reach, refuse the statement, or
reply with what cannot be read or is no count. The first failure ends a preparation, with an error of the execution, and
nothing is sent after it. So the rows are inserted only after a count that shows no row. The count
stands in the first row of the result, in the last column of its name. It may be quoted, but it is
no negative number, no fraction and no number of more than 64 bits.

## Main definitions

* `Wire.replay` - what is sent when the replies come in a given order
* `Bootstrap.IsCount`, `Bootstrap.Shows` - values and replies that show a number of rows
* `Bootstrap.FailsAt` - the statement at which a preparation fails
* `Bootstrap.Ends` - how a preparation ends
* `Bootstrap.IsPrepared` - what is sent, and what comes out

## Main results

* `Bootstrap.tells_iff` - the count that is read is the one that is shown
* `Bootstrap.ends_replay_run` - how a preparation ends, for any replies
* `Bootstrap.isPrepared_replay_run` - what is sent and what comes out, for any replies
-/

namespace AskTable

namespace Wire

variable {reply : Reply}

/-- The requests that are sent when the replies come in this order, and the result. -/
def replay {α : Type} (replies : Nat → Reply) : Exchange α → List Request × α
  | .done a => ([], a)
  | .ask request next =>
    let (requests, a) := replay (fun i => replies (i + 1)) (next (replies 0))
    (request :: requests, a)

/-- The reply is an answer with a status of success, and its content can be read. -/
inductive Reply.Succeeds : Reply → Prop
  | answered {status : Nat} {content : Content} (hlow : 200 ≤ status) (hhigh : status < 300) :
      Succeeds (.answered status content)

theorem isSuccess_iff {status : Nat} : isSuccess status = true ↔ 200 ≤ status ∧ status < 300 := by
  rw [isSuccess, Bool.and_eq_true, decide_eq_true_iff, decide_eq_true_iff]

end Wire

namespace ClickHouse

open Wire (Reply)

variable {reply : Reply} {t : Text} {e : Error}

/-- Of an answer with a status of success, the content is read. -/
theorem readReply_answered {status : Nat} (hlow : 200 ≤ status) (hhigh : status < 300)
    (content : Wire.Content) : readReply (.answered status content) = .ok content.text :=
  if_pos (Wire.isSuccess_iff.mpr ⟨hlow, hhigh⟩)

theorem exists_of_readReply (h : readReply reply = .ok t) : ∃ status content,
    reply = .answered status content ∧ 200 ≤ status ∧ status < 300 ∧ content.text = t := by
  cases reply with
  | unreachable reason => cases h
  | unreadable status reason => cases h
  | answered status content =>
    by_cases hstatus : Wire.isSuccess status = true
    · obtain ⟨hlow, hhigh⟩ := Wire.isSuccess_iff.mp hstatus
      rw [readReply_answered hlow hhigh] at h
      exact ⟨status, content, rfl, hlow, hhigh, Except.ok.inj h⟩
    · rw [readReply, if_neg hstatus] at h
      cases h

/-- A reply that is not read is no success, and the error is one of the execution. -/
theorem of_readReply_error (h : readReply reply = .error e) :
    ¬ reply.Succeeds ∧ ∃ detail, e = .execution detail := by
  constructor
  · rintro ⟨hlow, hhigh⟩
    rw [readReply_answered hlow hhigh] at h
    cases h
  · unfold readReply at h
    split at h
    · exact ⟨_, (Except.error.inj h).symm⟩
    · exact ⟨_, (Except.error.inj h).symm⟩
    · split at h
      · cases h
      · exact ⟨_, (Except.error.inj h).symm⟩

theorem succeeds_of_readReply (h : readReply reply = .ok t) : reply.Succeeds := by
  obtain ⟨status, content, rfl, hlow, hhigh, -⟩ := exists_of_readReply h
  exact .answered hlow hhigh

/-- An error of reading rows is one of the execution, too. -/
theorem exists_of_bind_readRows_error (h : readReply reply >>= readRows = .error e) :
    ∃ detail, e = .execution detail := by
  cases hreply : readReply reply with
  | error e' =>
    rw [hreply] at h
    obtain rfl := Except.error.inj h
    exact (of_readReply_error hreply).2
  | ok t =>
    have hrows : readRows t = .error e := by rwa [hreply] at h
    rw [readRows] at hrows
    split at hrows
    · cases hrows
    · exact ⟨_, (Except.error.inj hrows).symm⟩

end ClickHouse

namespace Bootstrap

open Wire (Reply)

variable {reply : Reply} {replies : Nat → Reply} {n m : Nat}

/-! ## Counts -/

/-- The value is an unsigned number, or a text that is a numeral of one of 64 bits. -/
inductive IsCount : Json → Nat → Prop
  | number (n : Nat) : IsCount (.int n) n
  | text {t : Text} {n : Nat} (h : Text.IsNumeral t n) (hn : n < UInt64.size) : IsCount (.str t) n

theorem countOf?_eq_some_iff {value : Json} : countOf? value = some n ↔ IsCount value n := by
  constructor
  · intro h
    unfold countOf? at h
    split at h
    · obtain rfl := Option.some.inj h
      exact .number _
    · obtain ⟨hnumeral, hn⟩ := Text.natBelow?_eq_some_iff.mp h
      exact .text hnumeral hn
    · cases h
  · intro h
    cases h with
    | number n => rfl
    | text h hn => exact Text.natBelow?_eq_some_iff.mpr ⟨h, hn⟩

/-- The reply is a success and its content, as a text, a result. In its first row, the last column of the name
`n` has the count. -/
inductive Shows : Reply → Nat → Prop
  | answered {status : Nat} {content : Wire.Content} {names : List Text} {values : List Json}
      {data : List (List Json)} {before after : List (Text × Json)} {value : Json} {n : Nat}
      (hlow : 200 ≤ status) (hhigh : status < 300)
      (hdecodes : ClickHouse.resultShape.parse content.text =
        .ok (ClickHouse.compact names (values :: data)))
      (hvalue : names.zip values =
        before ++ (("n" : Text), value) :: after)
      (hlast : ("n" : Text) ∉ after.map Prod.fst) (hcount : IsCount value n) :
      Shows (.answered status content) n

/-- The count that is read is the one that is shown. -/
theorem tells_iff : Tells reply n ↔ Shows reply n := by
  constructor
  · rintro ⟨rows, hrows, hcount⟩
    obtain ⟨t, hreply, ht⟩ := Json.bind_eq_ok_iff.mp hrows
    obtain ⟨status, content, rfl, hlow, hhigh, rfl⟩ := ClickHouse.exists_of_readReply hreply
    cases hdecodes : ClickHouse.resultShape.parse content.text with
    | error e => simp [ClickHouse.readRows, hdecodes] at ht
    | ok result =>
      obtain ⟨names, data, rfl⟩ := ClickHouse.exists_compact_of_parse hdecodes
      rw [ClickHouse.readRows_of_parse hdecodes] at ht
      obtain rfl := Except.ok.inj ht
      rw [readCount?, Option.bind_eq_some_iff] at hcount
      obtain ⟨value, hvalue, hcount⟩ := hcount
      obtain ⟨row, hrow, hvalue⟩ := Option.bind_eq_some_iff.mp hvalue
      cases data with
      | nil => cases hrow
      | cons values data =>
        obtain rfl := Option.some.inj hrow
        obtain ⟨before, after, hzip, hlast⟩ := Fields.get?_ofList_eq_some_iff.mp hvalue
        exact .answered hlow hhigh hdecodes hzip hlast (countOf?_eq_some_iff.mp hcount)
  · rintro ⟨hlow, hhigh, hdecodes, hvalue, hlast, hcount⟩
    have hreply := ClickHouse.readReply_answered hlow hhigh
    have hrows := ClickHouse.readRows_of_parse hdecodes
    have hrow := Fields.get?_ofList_eq_some_iff.mpr ⟨_, _, hvalue, hlast⟩
    refine ⟨_, Json.bind_eq_ok_iff.mpr ⟨_, hreply _, hrows⟩, ?_⟩
    rw [readCount?, List.map_cons, List.head?_cons, Option.bind_some, ClickHouse.zipRow, hrow,
      Option.bind_some]
    exact countOf?_eq_some_iff.mpr hcount

/-- A count may be quoted, and zeros may lead it. -/
example : Shows (.answered 200 (.ofText
    "\x7b\"meta\":[\x7b\"name\":\"n\"\x7d],\"data\":[[\"007\"]]\x7d")) 7 :=
  tells_iff.mp ⟨_, rfl, rfl⟩

theorem Shows.unique (h : Shows reply n) (h' : Shows reply m) : n = m := by
  obtain ⟨rows, hrows, hcount⟩ := tells_iff.mpr h
  obtain ⟨rows', hrows', hcount'⟩ := tells_iff.mpr h'
  rw [hrows] at hrows'
  obtain rfl := Except.ok.inj hrows'
  exact Option.some.inj (hcount.symm.trans hcount')

/-! ## Ends of a preparation -/

/-- The statements of a preparation, in order. -/
def statements : List Text := [createSql, countSql, insertSql]

/-- A preparation fails at the statement with this number. -/
inductive FailsAt (replies : Nat → Reply) : Nat → Prop
  | create (h : ¬ (replies 0).Succeeds) : FailsAt replies 0
  | count (hcreate : (replies 0).Succeeds) (h : ∀ n, ¬ Shows (replies 1) n) : FailsAt replies 1
  | insert (hcreate : (replies 0).Succeeds) (hcount : Shows (replies 1) 0)
      (h : ¬ (replies 2).Succeeds) : FailsAt replies 2

/-- How a preparation ends: the statements that were sent, and what comes out. -/
inductive Ends (replies : Nat → Reply) : List Text → Except Error Outcome → Prop
  | failed {step : Nat} (h : FailsAt replies step) (detail : Text) :
      Ends replies (statements.take (step + 1)) (.error (.execution detail))
  | populated {n : Nat} (hcreate : (replies 0).Succeeds) (hcount : Shows (replies 1) n)
      (hn : 1 ≤ n) : Ends replies (statements.take 2) (.ok (.alreadyPopulated n))
  | seeded (hcreate : (replies 0).Succeeds) (hcount : Shows (replies 1) 0)
      (hinsert : (replies 2).Succeeds) : Ends replies statements (.ok .seeded)

/-- How a preparation ends that has found no row. -/
theorem ends_replay_inserting (engine : ClickHouse) (hcreate : (replies 0).Succeeds)
    (hcount : Shows (replies 1) 0) :
    Ends replies (createSql :: countSql ::
        (Wire.replay (fun i => replies (i + 2)) (inserting engine)).1.map Wire.Request.body)
      (Wire.replay (fun i => replies (i + 2)) (inserting engine)).2 := by
  rw [inserting_eq]
  change Ends replies statements ((ClickHouse.readReply (replies 2)).map fun _ => Outcome.seeded)
  cases hreply : ClickHouse.readReply (replies 2) with
  | error e =>
    obtain ⟨hnot, detail, rfl⟩ := ClickHouse.of_readReply_error hreply
    exact .failed (.insert hcreate hcount hnot) detail
  | ok t => exact .seeded hcreate hcount (ClickHouse.succeeds_of_readReply hreply)

/-- How a preparation ends when the table is there. -/
theorem ends_replay_counting (engine : ClickHouse) (hcreate : (replies 0).Succeeds) :
    Ends replies (createSql ::
        (Wire.replay (fun i => replies (i + 1)) (counting engine)).1.map Wire.Request.body)
      (Wire.replay (fun i => replies (i + 1)) (counting engine)).2 := by
  rw [counting_eq, Wire.replay]
  have hfails (h : ∀ n, ¬ Tells (replies 1) n) : FailsAt replies 1 :=
    .count hcreate fun n hn => h n (tells_iff.mpr hn)
  cases hresult : ClickHouse.readReply (replies 1) >>= ClickHouse.readRows with
  | error e =>
    -- A refused request and a content that is no result fail alike: neither shows a count.
    obtain ⟨detail, rfl⟩ := ClickHouse.exists_of_bind_readRows_error hresult
    refine .failed (hfails ?_) detail
    rintro n ⟨rows, hrows, -⟩
    rw [hresult] at hrows
    cases hrows
  | ok rows =>
    cases hcount : readCount? rows with
    | none =>
      simp only [hcount]
      refine .failed (hfails ?_) _
      rintro n ⟨rows', hrows, hn⟩
      rw [hresult] at hrows
      obtain rfl := Except.ok.inj hrows
      rw [hcount] at hn
      cases hn
    | some n =>
      have hshows : Shows (replies 1) n := tells_iff.mp ⟨rows, hresult, hcount⟩
      simp only [hcount]
      cases n with
      | zero => exact ends_replay_inserting engine hcreate hshows
      | succ n => exact .populated hcreate hshows (Nat.succ_pos n)

/-- How a preparation ends, for any replies. -/
theorem ends_replay_run (engine : ClickHouse) (replies : Nat → Reply) :
    Ends replies ((Wire.replay replies (run engine)).1.map Wire.Request.body)
      (Wire.replay replies (run engine)).2 := by
  rw [run_eq, Wire.replay]
  cases hreply : ClickHouse.readReply (replies 0) with
  | error e =>
    obtain ⟨hnot, detail, rfl⟩ := ClickHouse.of_readReply_error hreply
    exact .failed (.create hnot) detail
  | ok t =>
    exact ends_replay_counting engine (ClickHouse.succeeds_of_readReply hreply)

/-! ## What is sent, and what comes out -/

/-- What a preparation sends, and what comes out of it, by the replies that it gets. -/
structure IsPrepared (replies : Nat → Reply) (sent : List Text)
    (result : Except Error Outcome) : Prop where
  sent_prefix : sent <+: statements
  insertSql_mem_iff : insertSql ∈ sent ↔ (replies 0).Succeeds ∧ Shows (replies 1) 0
  seeded_iff : result = .ok .seeded ↔
    (replies 0).Succeeds ∧ Shows (replies 1) 0 ∧ (replies 2).Succeeds
  alreadyPopulated_iff : ∀ n, result = .ok (.alreadyPopulated n) ↔
    (replies 0).Succeeds ∧ Shows (replies 1) n ∧ 1 ≤ n
  failure : (∀ outcome, result ≠ .ok outcome) → ∃ step detail, FailsAt replies step ∧
    result = .error (.execution detail) ∧ sent = statements.take (step + 1)

theorem insertSql_mem_take_iff {step : Nat} : insertSql ∈ statements.take step ↔ 3 ≤ step := by
  have hearly : ∀ step < 3, insertSql ∉ statements.take step := by decide
  constructor
  · intro h
    by_contra hlt
    exact hearly step (by omega) h
  · intro h
    rw [List.take_of_length_le h]
    exact List.mem_of_getLast? rfl

/-- Only one of the statements fails, and only a preparation that counts no row inserts. -/
theorem FailsAt.step_eq_two_iff {step : Nat} (h : FailsAt replies step) :
    step = 2 ↔ (replies 0).Succeeds ∧ Shows (replies 1) 0 := by
  cases h with
  | create h => simp [h]
  | count hcreate h => simp [h 0]
  | insert hcreate hcount h => simp [hcreate, hcount]

/-- After a failure, neither of the two outcomes would be right. -/
theorem FailsAt.not_succeeds {step : Nat} (h : FailsAt replies step) :
    ¬ ((replies 0).Succeeds ∧ Shows (replies 1) 0 ∧ (replies 2).Succeeds) ∧
      ∀ n, ¬ ((replies 0).Succeeds ∧ Shows (replies 1) n ∧ 1 ≤ n) := by
  cases h with
  | create h => exact ⟨fun hall => h hall.1, fun n hall => h hall.1⟩
  | count hcreate h => exact ⟨fun hall => h 0 hall.2.1, fun n hall => h n hall.2.1⟩
  | insert hcreate hcount h =>
    refine ⟨fun hall => h hall.2.2, fun n hall => ?_⟩
    have hzero := hall.2.1.unique hcount
    omega

theorem Ends.isPrepared {sent : List Text} {result : Except Error Outcome}
    (h : Ends replies sent result) : IsPrepared replies sent result := by
  cases h with
  | failed h detail =>
    refine ⟨List.take_prefix _ _, ?_, ?_, fun n => ?_, fun _ => ⟨_, detail, h, rfl, rfl⟩⟩
    · -- The rows are sent where the third statement fails, and not where an earlier one does.
      rw [insertSql_mem_take_iff, ← h.step_eq_two_iff]
      cases h <;> decide
    · exact iff_of_false nofun h.not_succeeds.1
    · exact iff_of_false nofun (h.not_succeeds.2 n)
  | @populated n hcreate hcount hn =>
    have hnot : ¬ Shows (replies 1) 0 := fun hzero => by
      have := hcount.unique hzero
      omega
    refine ⟨List.take_prefix _ _, ?_, ?_, fun m => ?_, fun h => absurd rfl (h _)⟩
    · exact iff_of_false (mt insertSql_mem_take_iff.mp (by decide)) fun h => hnot h.2
    · exact iff_of_false nofun fun h => hnot h.2.1
    · constructor
      · intro h
        cases h
        exact ⟨hcreate, hcount, hn⟩
      · rintro ⟨-, hm, -⟩
        rw [hcount.unique hm]
  | seeded hcreate hcount hinsert =>
    refine ⟨List.prefix_refl _, ?_, ?_, fun n => ?_, fun h => absurd rfl (h _)⟩
    · exact iff_of_true (List.mem_of_getLast? rfl) ⟨hcreate, hcount⟩
    · exact iff_of_true rfl ⟨hcreate, hcount, hinsert⟩
    · refine iff_of_false nofun fun h => ?_
      have hzero := h.2.1.unique hcount
      omega

/-- What a preparation sends, and what comes out of it, whatever the replies are. -/
theorem isPrepared_replay_run (engine : ClickHouse) (replies : Nat → Reply) :
    IsPrepared replies ((Wire.replay replies (run engine)).1.map Wire.Request.body)
      (Wire.replay replies (run engine)).2 :=
  (ends_replay_run engine replies).isPrepared

end Bootstrap

end AskTable
