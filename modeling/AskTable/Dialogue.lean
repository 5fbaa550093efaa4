/-!
# Dialogues

A program that needs answers from outside is a dialogue: it is done with a result, or it makes a
call and goes on with the reply, whatever that is. A call fixes the type of its reply. Nothing is
said about where replies come from, so a statement about all replies is a statement about the tree
of a dialogue, and a program that talks to the world differs from its model only in the handler that
answers the calls.

## Main definitions

* `Dialogue` - a program with calls, a monad in its result
* `Dialogue.run` - answers the calls in another monad
* `Dialogue.interpret` - answers the calls by dialogues with other calls
* `Dialogue.play` - answers the calls by a function, and records them

## Main results

* `Dialogue.play_bind` - the calls of a sequence are the calls of its parts, in order
-/

namespace AskTable

/-- A program that makes calls and is done with a result. -/
inductive Dialogue (Call : Type) (Reply : Call → Type) (α : Type) : Type where
  /-- the program is done -/
  | done (result : α)
  /-- the program makes a call and goes on with the reply -/
  | ask (call : Call) (next : Reply call → Dialogue Call Reply α)

namespace Dialogue

variable {Call : Type} {Reply : Call → Type} {α β : Type}

/-- Goes on with `f` when a dialogue is done. -/
def bind : Dialogue Call Reply α → (α → Dialogue Call Reply β) → Dialogue Call Reply β
  | .done a, f => f a
  | .ask call next, f => .ask call fun reply => bind (next reply) f

instance : Monad (Dialogue Call Reply) where
  pure := .done
  bind := bind

/-- One call, done with its reply. -/
def call (c : Call) : Dialogue Call Reply (Reply c) := .ask c .done

/-- Answers every call in another monad. -/
def run {m : Type → Type} [Monad m] (answer : (c : Call) → m (Reply c)) :
    Dialogue Call Reply α → m α
  | .done a => Pure.pure a
  | .ask c next => do
    let reply ← answer c
    run answer (next reply)

/-- Answers every call by a dialogue with calls of another kind. -/
def interpret {Call' : Type} {Reply' : Call' → Type}
    (answer : (c : Call) → Dialogue Call' Reply' (Reply c)) :
    Dialogue Call Reply α → Dialogue Call' Reply' α :=
  run answer

/-- Answers every call by a function. The calls made are recorded, with the result. -/
def play (answer : (c : Call) → Reply c) : Dialogue Call Reply α → List Call × α
  | .done a => ([], a)
  | .ask c next =>
    let (calls, a) := play answer (next (answer c))
    (c :: calls, a)

@[simp] theorem bind_done (a : α) (f : α → Dialogue Call Reply β) :
    (Dialogue.done a : Dialogue Call Reply α) >>= f = f a := rfl

@[simp] theorem bind_ask (c : Call) (next : Reply c → Dialogue Call Reply α)
    (f : α → Dialogue Call Reply β) :
    (Dialogue.ask c next) >>= f = .ask c fun reply => next reply >>= f := rfl

@[simp] theorem pure_eq_done (a : α) : (pure a : Dialogue Call Reply α) = .done a := rfl

theorem play_bind (answer : (c : Call) → Reply c) (d : Dialogue Call Reply α)
    (f : α → Dialogue Call Reply β) :
    play answer (d >>= f) =
      ((play answer d).1 ++ (play answer (f (play answer d).2)).1,
        (play answer (f (play answer d).2)).2) := by
  induction d with
  | done a => simp [play]
  | ask c next ih => simp [play, ih]

theorem bind_pure (d : Dialogue Call Reply α) : d >>= pure = d := by
  induction d with
  | done a => rfl
  | ask c next ih => exact congrArg (Dialogue.ask c) (funext ih)

theorem bind_assoc {γ : Type} (d : Dialogue Call Reply α) (f : α → Dialogue Call Reply β)
    (g : β → Dialogue Call Reply γ) : d >>= f >>= g = d >>= fun a => f a >>= g := by
  induction d with
  | done a => rfl
  | ask c next ih => exact congrArg (Dialogue.ask c) (funext ih)

instance : LawfulMonad (Dialogue Call Reply) :=
  LawfulMonad.mk' _ bind_pure (fun _ _ => rfl) bind_assoc

end Dialogue

end AskTable
