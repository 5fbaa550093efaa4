import AskTable.Dialogue
/-!
# Traces of dialogues

A trace of a dialogue is a list of calls, each with the reply that was given to it, and the result
after them. Nothing is assumed about the replies: a dialogue has a trace for every way to answer its
calls. What holds of all traces of a dialogue holds whatever the world outside does.

## Main definitions

* `Dialogue.Event` - a call with its reply
* `Dialogue.Trace` - the calls, the replies and the result of a dialogue

## Main results

* `Dialogue.trace_bind_iff` - a trace of a sequence is a trace of each of its parts
* `Dialogue.trace_interpret_iff` - a dialogue whose calls are answered by others has their traces
* `Dialogue.Trace.unique` - the replies determine the result
* `Dialogue.exists_trace` - every way to answer the calls gives a trace
-/

namespace AskTable.Dialogue

variable {Call : Type} {Reply : Call → Type} {α β : Type}

/-- A call with its reply. -/
abbrev Event (Call : Type) (Reply : Call → Type) : Type := (call : Call) × Reply call

/-- The dialogue makes these calls, if it gets these replies, and is done with this result. -/
inductive Trace : Dialogue Call Reply α → List (Event Call Reply) → α → Prop
  | done (a : α) : Trace (.done a) [] a
  | ask {call : Call} {next : Reply call → Dialogue Call Reply α} {reply : Reply call}
      {events : List (Event Call Reply)} {a : α} (h : Trace (next reply) events a) :
      Trace (.ask call next) (⟨call, reply⟩ :: events) a

variable {d : Dialogue Call Reply α} {f : α → Dialogue Call Reply β}
  {events : List (Event Call Reply)} {a b : α}

@[simp] theorem trace_done_iff : Trace (.done a) events b ↔ events = [] ∧ b = a := by
  constructor
  · rintro ⟨⟩
    exact ⟨rfl, rfl⟩
  · rintro ⟨rfl, rfl⟩
    exact .done b

theorem trace_done_prod_iff {a' : α} {b b' : β} :
    Trace (.done (a, b) : Dialogue Call Reply (α × β)) events (a', b') ↔
      events = [] ∧ a' = a ∧ b' = b := by
  rw [trace_done_iff, Prod.mk.injEq]

@[simp] theorem trace_ask_iff {call : Call} {next : Reply call → Dialogue Call Reply α} :
    Trace (.ask call next) events a ↔
      ∃ reply rest, events = ⟨call, reply⟩ :: rest ∧ Trace (next reply) rest a := by
  constructor
  · rintro (_ | h)
    exact ⟨_, _, rfl, h⟩
  · rintro ⟨reply, rest, rfl, h⟩
    exact .ask h

/-- A trace of a sequence is a trace of its first part, followed by one of what comes then. -/
theorem trace_bind_iff {result : β} :
    Trace (d >>= f) events result ↔
      ∃ before after a, events = before ++ after ∧ Trace d before a ∧ Trace (f a) after result := by
  induction d generalizing events with
  | done a =>
    -- The first part makes no call.
    rw [bind_done]
    constructor
    · intro h
      exact ⟨[], events, a, rfl, .done a, h⟩
    · rintro ⟨before, after, b, rfl, hbefore, hafter⟩
      obtain ⟨rfl, rfl⟩ := trace_done_iff.mp hbefore
      exact hafter
  | ask call next ih =>
    -- The first call belongs to the first part.
    rw [bind_ask, trace_ask_iff]
    constructor
    · rintro ⟨reply, rest, rfl, h⟩
      obtain ⟨before, after, a, rfl, hbefore, hafter⟩ := (ih reply).mp h
      exact ⟨⟨call, reply⟩ :: before, after, a, rfl, .ask hbefore, hafter⟩
    · rintro ⟨before, after, a, rfl, hbefore, hafter⟩
      obtain ⟨reply, rest, rfl, hrest⟩ := trace_ask_iff.mp hbefore
      exact ⟨reply, rest ++ after, rfl, (ih reply).mpr ⟨rest, after, a, rfl, hrest, hafter⟩⟩

/-- The calls and their replies determine the result. -/
theorem Trace.unique (h : Trace d events a) (h' : Trace d events b) : a = b := by
  induction h with
  | done a => exact (trace_done_iff.mp h').2.symm
  | ask h ih =>
    obtain ⟨reply, rest, heq, h'⟩ := trace_ask_iff.mp h'
    obtain ⟨hevent, rfl⟩ := List.cons.inj heq
    cases hevent
    exact ih h'

/-- Every way to answer the calls gives a trace. -/
theorem exists_trace (answer : (call : Call) → Reply call) (d : Dialogue Call Reply α) :
    Trace d ((play answer d).1.map fun call => ⟨call, answer call⟩) (play answer d).2 := by
  induction d with
  | done a => exact .done a
  | ask call next ih => exact .ask (ih (answer call))

/-- If each call is answered by one call with the same reply, a dialogue makes its own calls under
other names. -/
theorem trace_interpret_iff {Call' : Type} {Reply' : Call' → Type}
    {answer : (call : Call) → Dialogue Call' Reply' (Reply call)}
    (named : Event Call Reply → Event Call' Reply')
    (hanswer : ∀ call (next : Reply call → Dialogue Call' Reply' α) events a,
      Trace (answer call >>= next) events a ↔
        ∃ reply rest, events = named ⟨call, reply⟩ :: rest ∧ Trace (next reply) rest a)
    {events : List (Event Call' Reply')} :
    Trace (d.interpret answer) events a ↔ ∃ own, events = own.map named ∧ Trace d own a := by
  induction d generalizing events with
  | done b =>
    change Trace (.done b) events a ↔ _
    simp only [trace_done_iff]
    constructor
    · rintro ⟨rfl, rfl⟩
      exact ⟨[], rfl, rfl, rfl⟩
    · rintro ⟨own, rfl, rfl, rfl⟩
      exact ⟨rfl, rfl⟩
  | ask call next ih =>
    change Trace (answer call >>= fun reply => (next reply).interpret answer) events a ↔ _
    simp only [hanswer, trace_ask_iff, ih]
    constructor
    · rintro ⟨reply, rest, rfl, own, rfl, h⟩
      exact ⟨⟨call, reply⟩ :: own, rfl, reply, own, rfl, h⟩
    · rintro ⟨own, rfl, reply, rest, rfl, h⟩
      exact ⟨reply, rest.map named, rfl, rest, rfl, h⟩

end AskTable.Dialogue
