/-!
# Dialogues

A computation that asks the outside world questions. A `Dialogue` is either done, or asks
a question and goes on with the answer, or aborts; the type of the answer depends on the
question. What the world does is a separate matter: `run` answers from a state, `relay`
answers each question by a dialogue of another kind, and `perform` answers in any monad.

To abort is not a failure that a dialogue reports and that whoever holds it may handle: what
was to follow is gone with it, and there is no result (`abort_bind`).
-/

namespace LogCourier

/-- A computation with questions from `Q`, of which `q` is answered by an `A q`. -/
inductive Dialogue (Q : Type) (A : Q → Type) (α : Type) : Type
  | done (result : α)
  | ask (question : Q) (next : A question → Dialogue Q A α)
  | abort

namespace Dialogue

variable {Q : Type} {A : Q → Type} {α β σ : Type}

/-- Go on with the result of a dialogue. -/
def bind : Dialogue Q A α → (α → Dialogue Q A β) → Dialogue Q A β
  | .done a, f => f a
  | .ask q next, f => .ask q fun answer => (next answer).bind f
  | .abort, _ => .abort

instance : Monad (Dialogue Q A) where
  pure := .done
  bind := bind

@[simp] theorem bind_pure_right (d : Dialogue Q A α) : d.bind .done = d := by
  induction d with
  | done => rfl
  | ask q next ih => simp only [bind, ih]
  | abort => rfl

@[simp] theorem bind_assoc {γ : Type} (d : Dialogue Q A α) (f : α → Dialogue Q A β)
  (g : β → Dialogue Q A γ) :
  (d.bind f).bind g = d.bind fun a => (f a).bind g
  := by
  induction d with
  | done => rfl
  | ask q next ih => simp only [bind, ih]
  | abort => rfl

instance : LawfulMonad (Dialogue Q A) :=
  LawfulMonad.mk' _ bind_pure_right (fun _ _ => rfl) bind_assoc

@[simp]
theorem abort_bind (f : α → Dialogue Q A β) :
  (abort : Dialogue Q A α) >>= f = abort
  := rfl

/-- Ask a question. -/
def question (q : Q) : Dialogue Q A (A q) :=
  .ask q .done

/-- Hold a dialogue with a world that answers from its state. There is no result if it
aborts. -/
def run (answer : (q : Q) → σ → A q × σ) : Dialogue Q A α → σ → Option α × σ
  | .done a, s => (some a, s)
  | .ask q next, s =>
    let (a, s) := answer q s
    (next a).run answer s
  | .abort, s => (none, s)

/-- Answer each question by a dialogue with questions of another kind. -/
def relay {Q' : Type} {A' : Q' → Type} (answer : (q : Q) → Dialogue Q' A' (A q)) :
  Dialogue Q A α → Dialogue Q' A' α
  | .done a => .done a
  | .ask q next => (answer q).bind fun a => (next a).relay answer
  | .abort => .abort

/-- Hold a dialogue in a monad. There is no result if it aborts. -/
def perform {m : Type → Type} [Monad m] (answer : (q : Q) → m (A q)) :
  Dialogue Q A α → m (Option α)
  | .done a => return some a
  | .ask q next => do (next (← answer q)).perform answer
  | .abort => return none

end Dialogue

end LogCourier
