import LogCourier.Dialogue
import Mathlib.Tactic.Common

/-!
# Transcripts of dialogues

A transcript lists the questions of a dialogue with the answers they got. The outside world
is free to answer as it likes, so a statement about all transcripts of a dialogue is a
statement about the dialogue in every world.

* `Dialogue.Yields d t a`: held along the transcript `t`, the dialogue `d` ends with `a`.
* `Dialogue.Aborts d t`: held along the transcript `t`, the dialogue `d` aborts. A dialogue
  that never does is `Dialogue.Total`.
* The transcripts of a composite are the transcripts of its parts put together
  (`yields_bind`, `aborts_bind`).
* In a world that answers from its state every dialogue has a transcript, along which it
  ends with a result or aborts (`ends_transcript`).
* A dialogue whose questions all satisfy a predicate (`Dialogue.Confined`) has transcripts
  with such questions only.
-/

namespace LogCourier

namespace Dialogue

/-- A question with its answer. -/
abbrev Exchange {Q : Type} (A : Q → Type) : Type :=
  (q : Q) × A q

/-- The exchanges of a dialogue, in order. -/
abbrev Transcript {Q : Type} (A : Q → Type) : Type :=
  List (Exchange A)

variable {Q : Type} {A : Q → Type} {α β σ : Type}

/-- Held along the transcript, the dialogue asks exactly its questions and ends with the
result. -/
inductive Yields : Dialogue Q A α → Transcript A → α → Prop
  | done (a : α) : Yields (.done a) [] a
  | ask {q : Q} {next : A q → Dialogue Q A α} {t : Transcript A} {a : α} (x : A q)
      (h : Yields (next x) t a) : Yields (.ask q next) (⟨q, x⟩ :: t) a

/-- Held along the transcript, the dialogue asks exactly its questions and aborts. -/
inductive Aborts : Dialogue Q A α → Transcript A → Prop
  | abort : Aborts .abort []
  | ask {q : Q} {next : A q → Dialogue Q A α} {t : Transcript A} (x : A q)
      (h : Aborts (next x) t) : Aborts (.ask q next) (⟨q, x⟩ :: t)

/-- Held along the transcript, the dialogue comes to its end, with a result or without one. -/
def Ends (d : Dialogue Q A α) (t : Transcript A) : Option α → Prop
  | some a => Yields d t a
  | none => Aborts d t

/-- Along a transcript on which it aborts, a dialogue has no result. -/
theorem Aborts.not_yields {d : Dialogue Q A α} {t : Transcript A} {a : α} (h : Aborts d t) :
  ¬ Yields d t a
  := by
  intro ha
  induction h with
  | abort => cases ha
  | ask x h ih =>
      cases ha with
      | ask x ha => apply ih ha

/-! ### Composites -/

@[simp]
theorem yields_pure {a b : α} {t : Transcript A} :
  Yields (pure a : Dialogue Q A α) t b ↔ t = [] ∧ a = b
  := by
  constructor
  · intro h
    cases h
    exact ⟨rfl, rfl⟩
  · rintro ⟨rfl, rfl⟩
    apply Yields.done

@[simp]
theorem yields_question {q : Q} {t : Transcript A} {x : A q} :
  Yields (question q) t x ↔ t = [⟨q, x⟩]
  := by
  constructor
  · intro h
    cases h with
    | ask x h =>
        cases h
        rfl
  · rintro rfl
    apply Yields.ask
    apply Yields.done

/-- The transcripts of a composite are a transcript of the first part followed by one of
the second part. -/
theorem yields_bind
    {d : Dialogue Q A α} {f : α → Dialogue Q A β} {t : Transcript A} {b : β} :
  Yields (d >>= f) t b ↔ ∃ t₁ a t₂, t = t₁ ++ t₂ ∧ Yields d t₁ a ∧ Yields (f a) t₂ b
  := by
  change Yields (d.bind f) t b ↔ _
  induction d generalizing t with
  | done a =>
      constructor
      · intro h
        exact ⟨[], a, t, rfl, .done a, h⟩
      · rintro ⟨t₁, a', t₂, rfl, h₁, h₂⟩
        cases h₁
        apply h₂
  | ask q next ih =>
      constructor
      · intro h
        cases h with
        | ask x h =>
            obtain ⟨t₁, a, t₂, rfl, h₁, h₂⟩ := (ih x).mp h
            exact ⟨⟨q, x⟩ :: t₁, a, t₂, rfl, .ask x h₁, h₂⟩
      · rintro ⟨t₁, a, t₂, rfl, h₁, h₂⟩
        cases h₁ with
        | ask x h₁ =>
            apply Yields.ask
            exact (ih x).mpr ⟨_, a, t₂, rfl, h₁, h₂⟩
  | abort =>
      constructor
      · intro h
        cases h
      · rintro ⟨t₁, a, t₂, rfl, h₁, h₂⟩
        cases h₁

/-- A composite aborts where its first part does, or where its second part does. -/
theorem aborts_bind {d : Dialogue Q A α} {f : α → Dialogue Q A β} {t : Transcript A} :
  Aborts (d >>= f) t
    ↔ Aborts d t ∨ ∃ t₁ a t₂, t = t₁ ++ t₂ ∧ Yields d t₁ a ∧ Aborts (f a) t₂
  := by
  change Aborts (d.bind f) t ↔ _
  induction d generalizing t with
  | done a =>
      constructor
      · intro h
        exact .inr ⟨[], a, t, rfl, .done a, h⟩
      · rintro (h | ⟨t₁, a', t₂, rfl, h₁, h₂⟩)
        · cases h
        · cases h₁
          apply h₂
  | ask q next ih =>
      constructor
      · intro h
        cases h with
        | ask x h =>
            rcases (ih x).mp h with h | ⟨t₁, a, t₂, rfl, h₁, h₂⟩
            · exact .inl (.ask x h)
            · exact .inr ⟨⟨q, x⟩ :: t₁, a, t₂, rfl, .ask x h₁, h₂⟩
      · rintro (h | ⟨t₁, a, t₂, rfl, h₁, h₂⟩)
        · cases h with
          | ask x h => exact .ask x ((ih x).mpr (.inl h))
        · cases h₁ with
          | ask x h₁ => exact .ask x ((ih x).mpr (.inr ⟨_, a, t₂, rfl, h₁, h₂⟩))
  | abort =>
      constructor
      · intro h
        cases h
        exact .inl .abort
      · rintro (h | ⟨t₁, a, t₂, rfl, h₁, h₂⟩)
        · cases h
          apply Aborts.abort
        · cases h₁

/-- A transcript of a question with what follows it begins with the question. -/
theorem yields_question_bind
    {q : Q} {f : A q → Dialogue Q A β} {t : Transcript A} {b : β} :
  Yields (question q >>= f) t b ↔ ∃ x t', t = ⟨q, x⟩ :: t' ∧ Yields (f x) t' b
  := by
  constructor
  · intro h
    obtain ⟨t₁, x, t₂, rfl, h₁, h₂⟩ := yields_bind.mp h
    obtain rfl := yields_question.mp h₁
    exact ⟨x, t₂, rfl, h₂⟩
  · rintro ⟨x, t', rfl, h⟩
    apply yields_bind.mpr
    exact ⟨[⟨q, x⟩], x, t', rfl, yields_question.mpr rfl, h⟩

theorem aborts_question_bind {q : Q} {f : A q → Dialogue Q A β} {t : Transcript A} :
  Aborts (question q >>= f) t ↔ ∃ x t', t = ⟨q, x⟩ :: t' ∧ Aborts (f x) t'
  := by
  constructor
  · intro h
    cases h with
    | ask x h => exact ⟨x, _, rfl, h⟩
  · rintro ⟨x, t', rfl, h⟩
    apply Aborts.ask x h

theorem yields_map {d : Dialogue Q A α} {f : α → β} {t : Transcript A} {b : β} :
  Yields (f <$> d) t b ↔ ∃ a, Yields d t a ∧ f a = b
  := by
  rw [map_eq_pure_bind, yields_bind]
  constructor
  · rintro ⟨t₁, a, t₂, rfl, h, hb⟩
    obtain ⟨rfl, rfl⟩ := yields_pure.mp hb
    use a
    rw [List.append_nil]
    exact ⟨h, rfl⟩
  · rintro ⟨a, h, rfl⟩
    exact ⟨t, a, [], (List.append_nil t).symm, h, yields_pure.mpr ⟨rfl, rfl⟩⟩

/-- Answering the questions of a composite answers those of its parts. -/
theorem relay_bind {Q' : Type} {A' : Q' → Type} {answer : (q : Q) → Dialogue Q' A' (A q)}
    {d : Dialogue Q A α} {f : α → Dialogue Q A β} :
  (d >>= f).relay answer = d.relay answer >>= fun a => (f a).relay answer
  := by
  induction d with
  | done a => rfl
  | ask q next ih =>
      change ((answer q).bind fun a => (next a >>= f).relay answer)
        = ((answer q).bind fun a => (next a).relay answer) >>= fun a => (f a).relay answer
      simp only [ih]
      exact (LawfulMonad.bind_assoc (answer q) _ _).symm
  | abort => rfl

/-! ### Dialogues that never abort -/

/-- The dialogue never aborts, whatever it is answered. -/
def Total (d : Dialogue Q A α) : Prop :=
  ∀ t, ¬ Aborts d t

theorem total_pure {a : α} :
  Total (pure a : Dialogue Q A α)
  := nofun

theorem total_question {q : Q} :
  Total (question q : Dialogue Q A (A q))
  := by
  rintro t (_ | ⟨x, ⟨⟩⟩)

theorem Total.bind {d : Dialogue Q A α} {f : α → Dialogue Q A β} (hd : Total d)
    (hf : ∀ a, Total (f a)) :
  Total (d >>= f)
  := by
  intro t h
  rcases aborts_bind.mp h with h | ⟨t₁, a, t₂, -, -, h⟩
  · apply hd t h
  · apply hf a t₂ h

theorem Total.map {d : Dialogue Q A α} {f : α → β} (hd : Total d) :
  Total (f <$> d)
  := by
  rw [map_eq_pure_bind]
  exact hd.bind fun _ => total_pure

/-- Where the first part never aborts a composite aborts in its second part. -/
theorem Total.aborts_bind {d : Dialogue Q A α} {f : α → Dialogue Q A β} {t : Transcript A}
    (hd : Total d) :
  Aborts (d >>= f) t ↔ ∃ t₁ a t₂, t = t₁ ++ t₂ ∧ Yields d t₁ a ∧ Aborts (f a) t₂
  := by
  rw [Dialogue.aborts_bind, or_iff_right (hd t)]

/-! ### Worlds with a state -/

/-- The transcript of a dialogue in a world that answers from its state. -/
def transcript (answer : (q : Q) → σ → A q × σ) : Dialogue Q A α → σ → Transcript A
  | .done _, _ => []
  | .ask q next, s =>
    ⟨q, (answer q s).1⟩ :: (next (answer q s).1).transcript answer (answer q s).2
  | .abort, _ => []

theorem Ends.ask {q : Q} {next : A q → Dialogue Q A α} {t : Transcript A} {r : Option α}
    (x : A q) (h : Ends (next x) t r) :
  Ends (.ask q next) (⟨q, x⟩ :: t) r
  := by
  cases r with
  | some a => apply Yields.ask x h
  | none => apply Aborts.ask x h

/-- A dialogue held in a world comes to its end there along its transcript there. -/
theorem ends_transcript (answer : (q : Q) → σ → A q × σ) (d : Dialogue Q A α) (s : σ) :
  Ends d (d.transcript answer s) (d.run answer s).1
  := by
  induction d generalizing s with
  | done a => apply Yields.done
  | ask q next ih =>
      apply Ends.ask
      apply ih
  | abort => apply Aborts.abort

/-- A dialogue with a result in a world yields it along its transcript there. -/
theorem yields_transcript {answer : (q : Q) → σ → A q × σ} {d : Dialogue Q A α} {s : σ} {a : α}
    (h : (d.run answer s).1 = some a) :
  Yields d (d.transcript answer s) a
  := by
  have hends := ends_transcript answer d s
  rwa [h] at hends

/-- If its result in a world has a property that can be checked, then a dialogue yields a result
with the property along its transcript there. -/
theorem exists_yields_of_any (answer : (q : Q) → σ → A q × σ) (d : Dialogue Q A α) (s : σ)
    {P : α → Prop} [DecidablePred P] (h : (d.run answer s).1.any (fun a => P a) = true) :
  ∃ a, Yields d (d.transcript answer s) a ∧ P a
  := by
  obtain ⟨a, ha, hp⟩ := (Option.any_eq_true _ _).mp h
  exact ⟨a, yields_transcript ha, of_decide_eq_true hp⟩

/-- A dialogue that never aborts has a result in every world. -/
theorem Total.isSome_run {d : Dialogue Q A α} (hd : Total d) (answer : (q : Q) → σ → A q × σ)
    (s : σ) :
  (d.run answer s).1.isSome = true
  := by
  have hends := ends_transcript answer d s
  cases hr : (d.run answer s).1 with
  | some a => rfl
  | none =>
      rw [hr] at hends
      exact absurd hends (hd _)

/-- The result of a dialogue that never aborts in a world. -/
def Total.result {d : Dialogue Q A α} (hd : Total d) (answer : (q : Q) → σ → A q × σ) (s : σ) : α :=
  (d.run answer s).1.get (hd.isSome_run answer s)

theorem Total.yields_result {d : Dialogue Q A α} (hd : Total d) (answer : (q : Q) → σ → A q × σ)
    (s : σ) :
  Yields d (d.transcript answer s) (hd.result answer s)
  := by
  apply yields_transcript
  rw [result, Option.some_get]

/-! ### Confined dialogues -/

/-- Every question that the dialogue can come to ask satisfies the predicate, and it never
aborts unless it may. -/
def Confined (P : Q → Prop) (d : Dialogue Q A α) (mayAbort : Prop := False) : Prop :=
  match d with
  | .done _ => True
  | .ask q next => P q ∧ ∀ x, (next x).Confined P mayAbort
  | .abort => mayAbort

variable {P : Q → Prop} {mayAbort : Prop}

@[simp]
theorem confined_pure {a : α} :
  Confined P (pure a : Dialogue Q A α) mayAbort
  := trivial

@[simp]
theorem confined_question {q : Q} :
  Confined P (question q : Dialogue Q A (A q)) mayAbort ↔ P q
  := and_iff_left fun _ => trivial

theorem Confined.bind {d : Dialogue Q A α} {f : α → Dialogue Q A β}
    (hd : Confined P d mayAbort) (hf : ∀ a, Confined P (f a) mayAbort) :
  Confined P (d >>= f) mayAbort
  := by
  change Confined P (d.bind f) mayAbort
  induction d with
  | done a => apply hf
  | ask q next ih =>
      constructor
      · apply hd.1
      · intro x
        apply ih x (hd.2 x)
  | abort => apply hd

theorem Confined.mono {P' : Q → Prop} {mayAbort' : Prop} {d : Dialogue Q A α}
    (hd : Confined P d mayAbort) (h : ∀ q, P q → P' q)
    (habort : mayAbort → mayAbort' := by exact id) :
  Confined P' d mayAbort'
  := by
  induction d with
  | done a => trivial
  | ask q next ih => exact ⟨h q hd.1, fun x => ih x (hd.2 x)⟩
  | abort => apply habort hd

/-- Answering the questions of a confined dialogue by confined dialogues gives a confined
dialogue. -/
theorem Confined.relay {Q' : Type} {A' : Q' → Type} {P' : Q' → Prop} {d : Dialogue Q A α}
    {answer : (q : Q) → Dialogue Q' A' (A q)} (hd : Confined P d mayAbort)
    (ha : ∀ q, P q → Confined P' (answer q) mayAbort) :
  Confined P' (d.relay answer) mayAbort
  := by
  induction d with
  | done a => trivial
  | ask q next ih =>
      apply Confined.bind (ha q hd.1)
      intro x
      apply ih x (hd.2 x)
  | abort => apply hd

/-- The questions in a transcript of a confined dialogue satisfy the predicate. -/
theorem Yields.of_confined {d : Dialogue Q A α} {t : Transcript A} {a : α}
    (h : Yields d t a) (hd : Confined P d mayAbort) :
  ∀ x ∈ t, P x.1
  := by
  induction h with
  | done a => simp
  | ask x h ih =>
      rintro y (_ | ⟨_, hy⟩)
      · apply hd.1
      · apply ih (hd.2 x) y hy

/-- A confined dialogue never aborts, unless it may. -/
theorem Confined.total {d : Dialogue Q A α} (hd : Confined P d) :
  Total d
  := by
  intro t h
  induction h with
  | abort => apply hd
  | ask x h ih => apply ih (hd.2 x)

end Dialogue

end LogCourier
