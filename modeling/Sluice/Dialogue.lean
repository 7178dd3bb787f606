/-!
# Dialogues

A `Dialogue` is a course of action that asks questions on its way: it has come to its end, or it
asks one question and goes on by the answer.  What may be asked is told by a `Protocol`, which
gives every question its own type of answers.

A dialogue says nothing about where its answers come from.  `Dialogue.run` answers them in any
monad; whoever looks at single steps takes the answers one by one, in any order with those of
other dialogues, or stops in the middle.
-/

namespace Sluice

/-- The questions that may be asked, and the answers to each. -/
structure Protocol where
  Question : Type
  /-- The answers to a question. -/
  Answer : Question → Type

/-- A course of action that asks questions. -/
inductive Dialogue (P : Protocol) (α : Type) where
  | done (value : α)
  /-- A question, and what follows on each answer. -/
  | ask (question : P.Question) (next : P.Answer question → Dialogue P α)

namespace Dialogue

variable {P Q : Protocol} {α β γ : Type}

/-- A dialogue, and then the one that its value leads to. -/
def andThen : Dialogue P α → (α → Dialogue P β) → Dialogue P β
  | .done a, f => f a
  | .ask q next, f => .ask q fun a => (next a).andThen f

instance : Monad (Dialogue P) where
  pure := .done
  bind := andThen

def question (q : P.Question) : Dialogue P (P.Answer q) := .ask q .done

@[simp] theorem pure_bind (a : α) (f : α → Dialogue P β) : (pure a >>= f) = f a := rfl

@[simp] theorem done_bind (a : α) (f : α → Dialogue P β) : (Dialogue.done a >>= f) = f a := rfl

@[simp] theorem ask_bind (q : P.Question) (next : P.Answer q → Dialogue P α)
    (f : α → Dialogue P β) : (Dialogue.ask q next >>= f) = .ask q fun a => next a >>= f := rfl

theorem bind_pure (d : Dialogue P α) : (d >>= pure) = d := by
  induction d with
  | done a => rfl
  | ask q next ih =>
    rw [ask_bind]
    exact congrArg (Dialogue.ask q) (funext ih)

theorem bind_assoc (d : Dialogue P α) (f : α → Dialogue P β) (g : β → Dialogue P γ) :
    (d >>= f >>= g) = (d >>= fun a => f a >>= g) := by
  induction d with
  | done a => rfl
  | ask q next ih =>
    simp only [ask_bind]
    exact congrArg (Dialogue.ask q) (funext ih)

instance : LawfulMonad (Dialogue P) :=
  LawfulMonad.mk' (Dialogue P) (fun x => bind_pure x) (fun _ _ => rfl) bind_assoc

/-! ## Answering -/

/-- The end of a dialogue whose questions are answered in a monad. -/
def run {m : Type → Type} [Monad m] (answer : (q : P.Question) → m (P.Answer q)) :
    Dialogue P α → m α
  | .done a => pure a
  | .ask q next => answer q >>= fun a => (next a).run answer

@[simp] theorem run_done {m : Type → Type} [Monad m]
    (answer : (q : P.Question) → m (P.Answer q)) (a : α) :
    (Dialogue.done a : Dialogue P α).run answer = pure a := rfl

@[simp] theorem run_ask {m : Type → Type} [Monad m]
    (answer : (q : P.Question) → m (P.Answer q)) (q : P.Question)
    (next : P.Answer q → Dialogue P α) :
    (Dialogue.ask q next).run answer = answer q >>= fun a => (next a).run answer := rfl

theorem run_bind {m : Type → Type} [Monad m] [LawfulMonad m]
    (answer : (q : P.Question) → m (P.Answer q)) (d : Dialogue P α) (f : α → Dialogue P β) :
    (d >>= f).run answer = d.run answer >>= fun a => (f a).run answer := by
  induction d with
  | done a => simp
  | ask q next ih => simp [ih]

end Dialogue

end Sluice
