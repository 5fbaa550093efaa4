import AskTable.Drafting
import AskTable.Proofs.Text.Search
/-!
# Drafts when the model fails

When the model gives no text the rules step in, unless the failure tells of an exhausted quota. This
is read off the wording of the failure. For an answer that is no completion the wording ends in a
line and a column of that answer, so the search for the status 429 also finds a place with these
digits, and an answer that has nothing to do with a quota is then taken for a refusal.

## Main definitions

* `Wire.Fault` - what is wrong with a content that cannot be decoded, and where
* `Wire.Content.TellsFaults` - the client words what is wrong as such a fault
* `Wire.Fault.namesQuota` - the fault is taken to tell of an exhausted quota
* `Drafter.Degrades` - the draft after an answer that cannot be used

## Main results

* `Wire.Fault.isQuotaExceeded_decode` - where in a fault the signs of a quota are found
* `Drafter.draft_of_unusable` - the draft after a successful answer that cannot be used
* `Drafter.draft_of_column_429` - an unusable answer for which the rules do not step in
-/

namespace AskTable

open Text (includes includesAny includes_append_cons includes_eq_false_iff IsFrame)
open Dialogue (play)

/-! ## Faults of a content -/

namespace Wire

/-- What is wrong with a content that cannot be decoded, and where. -/
structure Fault where
  cause : Text
  line : Nat
  column : Nat

namespace Fault

/-- The wording of a fault. -/
def message (fault : Fault) : Text :=
  "error decoding response body: " ++ (fault.cause ++ " at line " ++ Text.ofNat fault.line
    ++ " column " ++ Text.ofNat fault.column)

/-- Is the fault taken to tell of an exhausted quota? The digits of its place count. -/
def namesQuota (fault : Fault) : Bool :=
  includesAny fault.cause ChatError.quotaSigns ||
    includes (Text.ofNat fault.line) "429" || includes (Text.ofNat fault.column) "429"

end Fault

/-- Whatever shape is asked for, the client tells what is wrong with the content, and where. -/
def Content.TellsFaults (content : Content) : Prop :=
  ∀ schema detail, content.json schema = .error detail → ∃ fault : Fault, detail = fault.message

theorem Content.tellsFaults_ofText (t : Text) : (Content.ofText t).TellsFaults := by
  intro schema detail h
  simp only [ofText] at h
  generalize schema.parse t = parsed at h
  cases parsed with
  | ok value => cases h
  | error e =>
    exact ⟨⟨e.cause.message, e.line, e.column⟩, (Except.error.inj h).symm⟩

end Wire

/-! ## Signs of an exhausted quota -/

/-- A number does not include a word with anything but digits. -/
theorem Text.includes_ofNat_eq_false {word : Text} (hword : word.all Char.isDigit = false)
    (n : Nat) : includes (ofNat n) word = false := by
  refine includes_eq_false_iff.mpr fun hfound => ?_
  -- All characters of a part of a number are digits.
  refine Bool.eq_false_iff.mp hword (List.all_eq_true.mpr fun c hc => ?_)
  exact Nat.isDigit_of_mem_toDigits (by decide) (by decide) (hfound.subset hc)

namespace Wire.Fault

/-- The wording of a fault in the error of the model, cut where the letter l stands. -/
theorem message_decode (fault : Fault) :
    (ChatError.decode fault.message).message =
      "Failed to parse LLM response: error decoding response body: ".toList ++ fault.cause ++
        " at ".toList ++ 'l' :: ("ine ".toList ++ Text.ofNat fault.line ++ " co".toList ++ 'l' ::
          ("umn ".toList ++ Text.ofNat fault.column ++ [])) := by
  have hmessage : (ChatError.decode fault.message).message =
      "Failed to parse LLM response: ".toList ++ ("error decoding response body: ".toList ++
        (fault.cause ++ " at line " ++ Text.ofNat fault.line ++ " column " ++
          Text.ofNat fault.column)) := rfl
  rw [hmessage]
  simp

/-- A sign of a quota is in the cause of a fault, in its line or in its column. -/
theorem includes_message_decode (fault : Fault) :
    ∀ sign ∈ ChatError.quotaSigns, includes (ChatError.decode fault.message).message sign =
      (includes fault.cause sign ||
        (includes (Text.ofNat fault.line) sign || includes (Text.ofNat fault.column) sign)) := by
  intro sign hsign
  -- No sign has the letter l, and none runs into what is left of the wording between two of them.
  have hletter : ∀ sign ∈ ChatError.quotaSigns, 'l' ∉ sign := by decide +kernel
  have hcause : ∀ sign ∈ ChatError.quotaSigns,
      IsFrame "Failed to parse LLM response: error decoding response body: " " at " sign := by
    decide +kernel
  have hline : ∀ sign ∈ ChatError.quotaSigns, IsFrame "ine " " co" sign := by decide +kernel
  have hcolumn : ∀ sign ∈ ChatError.quotaSigns, IsFrame "umn " [] sign := by decide +kernel
  rw [message_decode, includes_append_cons (hletter sign hsign),
    includes_append_cons (hletter sign hsign), (hcause sign hsign).includes_eq,
    (hline sign hsign).includes_eq, (hcolumn sign hsign).includes_eq]

/-- The signs of a quota are looked for in the cause of a fault and in the digits of its place. -/
theorem isQuotaExceeded_decode (fault : Fault) :
    (ChatError.decode fault.message).isQuotaExceeded = fault.namesQuota := by
  have hsigns := includes_message_decode fault
  have hstatus : "429".toList ∈ ChatError.quotaSigns := by decide +kernel
  have hdigits : ∀ sign ∈ ChatError.quotaSigns,
      sign = "429".toList ∨ sign.all Char.isDigit = false := by decide +kernel
  change includesAny (ChatError.decode fault.message).message ChatError.quotaSigns =
    fault.namesQuota
  rw [Bool.eq_iff_iff, namesQuota, Bool.or_eq_true, Bool.or_eq_true]
  constructor
  · intro h
    obtain ⟨sign, hsign, hfound⟩ := List.any_eq_true.mp h
    rw [hsigns sign hsign, Bool.or_eq_true, Bool.or_eq_true] at hfound
    rcases hfound with hcause | hplace
    · exact Or.inl (Or.inl (List.any_eq_true.mpr ⟨sign, hsign, hcause⟩))
    · -- Of all signs only the status can be in a number.
      rcases hdigits sign hsign with rfl | hword
      · exact hplace.imp_left Or.inr
      · simp [Text.includes_ofNat_eq_false hword] at hplace
  · intro h
    refine List.any_eq_true.mpr ?_
    rcases h with (hcause | hline) | hcolumn
    · obtain ⟨sign, hsign, hfound⟩ := List.any_eq_true.mp hcause
      refine ⟨sign, hsign, ?_⟩
      rw [hsigns sign hsign, hfound, Bool.true_or]
    · refine ⟨_, hstatus, ?_⟩
      rw [hsigns _ hstatus, hline, Bool.true_or, Bool.or_true]
    · refine ⟨_, hstatus, ?_⟩
      rw [hsigns _ hstatus, hcolumn, Bool.or_true, Bool.or_true]

end Wire.Fault

/-! ## Answers that cannot be used -/

namespace ChatClient

theorem readReply_of_isSuccess {status : Nat} (h : Wire.isSuccess status = true)
    (content : Wire.Content) : readReply (.answered status content) = readCompletion content :=
  if_pos h

/-- A content has the text of a completion, or is reported with what the client finds wrong with it,
or is a completion without choices. -/
theorem readCompletion_cases (content : Wire.Content) :
    (∃ text, readCompletion content = .ok text) ∨
      (∃ detail, content.json completion = .error detail ∧
        readCompletion content = .error (.decode detail)) ∨
      (∃ value, content.json completion = .ok value) ∧
        readCompletion content = .error (.decode "response contained no choices") := by
  unfold readCompletion
  cases hjson : content.json completion with
  | error detail => exact Or.inr (Or.inl ⟨detail, rfl, rfl⟩)
  | ok value =>
    simp only
    split
    · exact Or.inl ⟨_, rfl⟩
    · exact Or.inr (Or.inr ⟨⟨value, rfl⟩, rfl⟩)

end ChatClient

namespace Drafter

open ChatClient (completion readCompletion)
open Wire (Content Fault)

/-- The draft after an answer that cannot be used. The rules step in, unless the content has a fault
that is taken to tell of an exhausted quota. -/
inductive Degrades (content : Content) (question : Text) : Except Error Draft → Prop
  | rules (h : ∀ fault : Fault, content.json completion = .error fault.message →
      fault.namesQuota = false) : Degrades content question (.ok (Draft.byRules question))
  | refused {fault : Fault} (hfault : content.json completion = .error fault.message)
      (hquota : fault.namesQuota = true) : Degrades content question
        (.error (.quotaExceeded (ChatError.decode fault.message).message))

/-- With a model there is one request, and the draft follows from the reply to it. -/
theorem play_draft_model (client : ChatClient) (system question : Text) (reply : Wire.Reply) :
    play (fun _ => reply) (((Drafter.model system).draft question).interpret client.complete) =
      ([client.request ⟨system, question⟩], judge question (ChatClient.readReply reply)) := rfl

/-- After a successful answer that cannot be used there is one request, and the rules step in unless
what is wrong with the answer is taken to tell of an exhausted quota. -/
theorem draft_of_unusable (client : ChatClient) (system question : Text) {status : Nat}
    {content : Content} (hstatus : Wire.isSuccess status = true) (hfaults : content.TellsFaults)
    (hcontent : ∀ text, readCompletion content ≠ .ok text) :
    ∃ result, play (fun _ => .answered status content)
        (((Drafter.model system).draft question).interpret client.complete) =
        ([client.request ⟨system, question⟩], result) ∧
      Degrades content question result := by
  rw [play_draft_model, ChatClient.readReply_of_isSuccess hstatus]
  refine ⟨_, rfl, ?_⟩
  rcases ChatClient.readCompletion_cases content with
    ⟨text, htext⟩ | ⟨detail, hjson, hread⟩ | ⟨⟨value, hjson⟩, hread⟩
  · exact absurd htext (hcontent text)
  · -- The fault is reported, and the search in its wording decides.
    obtain ⟨fault, rfl⟩ := hfaults _ _ hjson
    rw [hread, judge, fault.isQuotaExceeded_decode]
    cases hquota : fault.namesQuota with
    | true => exact .refused hjson hquota
    | false =>
      refine .rules fun other hother => ?_
      rw [← hquota, ← fault.isQuotaExceeded_decode, ← other.isQuotaExceeded_decode]
      rw [hjson] at hother
      rw [Except.error.inj hother]
  · -- A completion without choices has no fault, and its error no sign of a quota.
    have hquota : (ChatError.decode "response contained no choices").isQuotaExceeded = false := by
      decide +kernel
    rw [hread, judge, hquota]
    refine .rules fun fault hfault => ?_
    rw [hjson] at hfault
    cases hfault

/-- An answer that is no JSON is unusable, and the rules step in. -/
theorem draft_of_boom :
    Wire.isSuccess 200 = true ∧ (Content.ofText "boom").TellsFaults ∧
    (∀ text, readCompletion (.ofText "boom") ≠ .ok text) ∧
    play (fun _ => .answered 200 (.ofText "boom"))
        (((Drafter.model "system").draft "Count all users").interpret
          (ChatClient.complete ⟨"key", "gpt-5", "http://localhost"⟩)) =
      ([ChatClient.request ⟨"key", "gpt-5", "http://localhost"⟩ ⟨"system", "Count all users"⟩],
        .ok (Draft.byRules "Count all users")) := by
  have hstatus : Wire.isSuccess 200 = true := by decide
  have hjson : (Content.ofText "boom").json completion =
      .error (⟨"expected value", 1, 1⟩ : Fault).message := rfl
  have hfaults := Content.tellsFaults_ofText "boom"
  have hcontent : ∀ text, readCompletion (.ofText "boom") ≠ .ok text := nofun
  refine ⟨hstatus, hfaults, hcontent, ?_⟩
  obtain ⟨result, hplay, hdegrades⟩ := draft_of_unusable ⟨"key", "gpt-5", "http://localhost"⟩
    "system" "Count all users" hstatus hfaults hcontent
  rw [hplay]
  cases hdegrades with
  | rules h => rfl
  | @refused fault hfault hquota =>
    rw [hjson] at hfault
    rw [← fault.isQuotaExceeded_decode, ← Except.error.inj hfault] at hquota
    exact absurd hquota (by decide +kernel)

/-- So many blanks and one wrong letter that the column of the letter is 429. -/
def padded : Text := List.replicate 428 ' ' ++ ['x']

/-- An unusable answer is taken to tell of an exhausted quota, because its fault is in column 429:
the rules do not always step in. -/
theorem draft_of_column_429 :
    (∀ client system question,
      (play (fun _ => .answered 200 (.ofText padded))
        (((Drafter.model system).draft question).interpret (ChatClient.complete client))).2 =
        .error (.quotaExceeded
          ("Failed to parse LLM response: error decoding response body: ".toList ++
            "expected value at line 1 column 429".toList))) ∧
    ¬ ∀ (client : ChatClient) (system question : Text) (status : Nat) (content : Content),
      Wire.isSuccess status = true → content.TellsFaults →
      (∀ text, readCompletion content ≠ .ok text) →
      (play (fun _ => .answered status content)
        (((Drafter.model system).draft question).interpret client.complete)).2 =
        .ok (Draft.byRules question) := by
  -- Reading stops at the letter, in a column that a search for the status finds.
  have hread : readCompletion (.ofText padded) =
      .error (.decode "error decoding response body: expected value at line 1 column 429") := by
    decide +kernel
  have hquota : (ChatError.decode
      "error decoding response body: expected value at line 1 column 429").isQuotaExceeded =
        true := by
    decide +kernel
  have hwording : (ChatError.decode
      "error decoding response body: expected value at line 1 column 429").message =
      "Failed to parse LLM response: error decoding response body: ".toList ++
        "expected value at line 1 column 429".toList := by decide +kernel
  have hdraft : ∀ client system question,
      (play (fun _ => .answered 200 (.ofText padded))
        (((Drafter.model system).draft question).interpret (ChatClient.complete client))).2 =
        .error (.quotaExceeded
          ("Failed to parse LLM response: error decoding response body: ".toList ++
            "expected value at line 1 column 429".toList)) := by
    intro client system question
    rw [play_draft_model, ChatClient.readReply_of_isSuccess (by decide), hread, judge, hquota,
      hwording]
    rfl
  refine ⟨hdraft, fun hall => ?_⟩
  have hrules := hall ⟨[], [], []⟩ [] [] 200 (.ofText padded) (by decide)
    (Content.tellsFaults_ofText padded) (by simp [hread])
  rw [hdraft] at hrules
  cases hrules

end Drafter

end AskTable
