import LogCourier.Proofs.Grouping
import Mathlib.Data.List.Forall2

/-!
# Work in two worlds

Two worlds that differ in their name servers and clocks only: what remains of the outside world
(`Outside`) is a machine that sees fetches, pushes and the calls on the store of the cursor, and
of a push only that it is made.

Two parts of the work are akin (`Work.Akin`) if they make the same calls but for lookups and
what is told of them (`Call.IsAboutNames`), with requests of the same entries under other names.
In two worlds with the same `Outside` they come to results that are related, and their
transcripts go alongside each other (`Work.Akin.alongside`).
-/

namespace LogCourier

open Dialogue

/-! ### Calls about names -/

/-- The call looks up a name, or tells about lookups. -/
def Call.IsAboutNames : Call → Prop
  | lookup _ => True
  | note (.metric (.hostnameCacheSize _)) => True
  | note (.log l) =>
    l.message = "Client address is not an IP; skipping reverse lookup"
      ∨ l.message = "Reverse lookup failed; using address"
  | _ => False

/-- The call is on the source or on the store of the cursor. -/
def Call.IsShared : Call → Prop
  | fetch _ | load | store _ => True
  | _ => False

theorem Call.IsAboutNames.not_isShared {q : Call} (h : q.IsAboutNames) :
  ¬ q.IsShared
  := by
  cases q <;> first | exact id | cases h

/-- Two notes are the same but for times, names of clients and the wording of failures at the log
store. -/
inductive Note.Akin : Note → Note → Prop
  | same (n : Note) : Akin n n
  | time (x y : Double) : Akin (.metric (.fetchSucceeded x)) (.metric (.fetchSucceeded y))
  | name (x y rcode qtype protocol domain : String) :
      Akin (.metric (.queryProcessed x rcode qtype protocol domain))
        (.metric (.queryProcessed y rcode qtype protocol domain))
  | wording (x y : String) (fields : List (String × FieldValue)) :
      Akin
        (.log ⟨.error, "Failed to push sub-batch; holding cursor for the rest of this cycle",
          fields ++ [("error", .text x)]⟩)
        (.log ⟨.error, "Failed to push sub-batch; holding cursor for the rest of this cycle",
          fields ++ [("error", .text y)]⟩)

/-- Two requests are of the same entries, in the same order, under names that may differ. -/
def PushRequest.Akin (job : String) (q₁ q₂ : PushRequest) : Prop :=
  ∃ ns₁ ns₂ : List NamedEntry, ns₁.map NamedEntry.entry = ns₂.map NamedEntry.entry
    ∧ q₁ = ⟨Formatting.streamsOf job [] ns₁⟩ ∧ q₂ = ⟨Formatting.streamsOf job [] ns₂⟩

/-- What comes of two pushes: of the same entries, both accepted or both refused. -/
def Work.AkinPushes (job : String) (x y : PushRequest × Except Failure Unit) : Prop :=
  x.1.Akin job y.1 ∧ x.2.isOk = y.2.isOk

/-! ### The outside world but for name servers and clocks -/

/-- The outside world but for name servers and clocks: what is fetched, whether a push is
accepted, and what comes of the calls on the store of the cursor may depend on all that went
before, apart from what was pushed. -/
structure Outside (σ : Type) where
  fetch : PageRequest → σ → Except SourceError QueryLogPage × σ
  accepts : σ → Bool × σ
  load : σ → Cursor × σ
  store : Cursor → σ → Except Failure Unit × σ

namespace Outside

open Work

variable {σ : Type} {w : Outside σ} {s : σ} {t₁ t₂ : Transcript}

/-- The exchange can take place in a state of the outside world. -/
def Allows (w : Outside σ) (s : σ) : Exchange → Prop
  | ⟨.fetch r, x⟩ => x = (w.fetch r s).1
  | ⟨.push _, x⟩ => x.isOk = (w.accepts s).1
  | ⟨.load, c⟩ => c = (w.load s).1
  | ⟨.store c, x⟩ => x = (w.store c s).1
  | _ => True

/-- The state of the outside world after an exchange. -/
def next (w : Outside σ) (s : σ) : Exchange → σ
  | ⟨.fetch r, _⟩ => (w.fetch r s).2
  | ⟨.push _, _⟩ => (w.accepts s).2
  | ⟨.load, _⟩ => (w.load s).2
  | ⟨.store c, _⟩ => (w.store c s).2
  | _ => s

/-- The transcript can come about from a state of the outside world on, with any name servers
and clocks. -/
def Answers (w : Outside σ) : σ → Transcript → Prop
  | _, [] => True
  | s, x :: t => w.Allows s x ∧ w.Answers (w.next s x) t

/-- The state of the outside world after a transcript. -/
def after (w : Outside σ) (s : σ) (t : Transcript) : σ :=
  t.foldl w.next s

theorem answers_append :
  w.Answers s (t₁ ++ t₂) ↔ w.Answers s t₁ ∧ w.Answers (w.after s t₁) t₂
  := by
  induction t₁ generalizing s with
  | nil => exact (and_iff_right trivial).symm
  | cons x t ih =>
      rw [List.cons_append, Answers, Answers, ih, and_assoc]
      rfl

/-- A call on the source or on the store of the cursor has one answer. -/
theorem Allows.eq {q : Call} {x y : q.Answer} (hx : w.Allows s ⟨q, x⟩) (hy : w.Allows s ⟨q, y⟩)
    (hq : q.IsShared) :
  x = y
  := by
  cases q <;> first | exact hx.trans hy.symm | cases hq

theorem next_of_isAboutNames {x : Exchange} (h : x.1.IsAboutNames) :
  w.next s x = s
  := by
  obtain ⟨q, x⟩ := x
  cases q <;> first | rfl | cases h

end Outside

/-! ### Transcripts alongside each other -/

namespace Work

variable {α β γ δ σ : Type} {job : String} {w : Outside σ} {s : σ} {x y : Exchange}
  {t₁ t₂ : Transcript}

/-- Two exchanges that take the place of each other: they are the same but for the names of
clients in what is pushed, the wording of a refusal, and times. -/
inductive Counterpart (job : String) : Exchange → Exchange → Prop
  | same (x : Exchange) (hx : x.1.IsShared) : Counterpart job x x
  | push {q₁ q₂ : PushRequest} {x y : Except Failure Unit}
      (h : AkinPushes job (q₁, x) (q₂, y)) : Counterpart job ⟨.push q₁, x⟩ ⟨.push q₂, y⟩
  | clock (x y : Nat) : Counterpart job ⟨.clock, x⟩ ⟨.clock, y⟩
  | note {n₁ n₂ : Note} (h : n₁.Akin n₂) : Counterpart job ⟨.note n₁, ()⟩ ⟨.note n₂, ()⟩

/-- Two transcripts are the same exchange by exchange, but for calls about names in either. -/
inductive Alongside (job : String) : Transcript → Transcript → Prop
  | nil : Alongside job [] []
  | both {x y : Exchange} {t₁ t₂ : Transcript} (hx : Counterpart job x y)
      (ht : Alongside job t₁ t₂) : Alongside job (x :: t₁) (y :: t₂)
  | left {x : Exchange} {t₁ t₂ : Transcript} (hx : x.1.IsAboutNames)
      (ht : Alongside job t₁ t₂) : Alongside job (x :: t₁) t₂
  | right {y : Exchange} {t₁ t₂ : Transcript} (hy : y.1.IsAboutNames)
      (ht : Alongside job t₁ t₂) : Alongside job t₁ (y :: t₂)

/-- Views of the exchanges, which do not see calls about names, show in related transcripts what
they show in related exchanges. -/
theorem Alongside.filterMap {R : β → β → Prop} {view : Exchange → Option β}
    (h : Alongside job t₁ t₂) (hcall : ∀ x, x.1.IsAboutNames → view x = none)
    (hview : ∀ x y, Counterpart job x y → Option.Rel R (view x) (view y)) :
  List.Forall₂ R (t₁.filterMap view) (t₂.filterMap view)
  := by
  induction h with
  | nil => apply List.Forall₂.nil
  | @both x y _ _ hx ht ih =>
      have hxy := hview x y hx
      rw [List.filterMap_cons, List.filterMap_cons]
      cases hx : view x <;> cases hy : view y <;> rw [hx, hy] at hxy
      · exact ih
      · cases hxy
      · cases hxy
      · cases hxy with
        | some hR => exact .cons hR ih
  | left hx ht ih => rwa [List.filterMap_cons_none (hcall _ hx)]
  | right hy ht ih => rwa [List.filterMap_cons_none (hcall _ hy)]

/-- Views that see calls on the source and on the store of the cursor only show the same. -/
theorem Alongside.filterMap_eq {view : Exchange → Option β} (h : Alongside job t₁ t₂)
    (hview : ∀ x, ¬ x.1.IsShared → view x = none) :
  t₁.filterMap view = t₂.filterMap view
  := by
  rw [← List.forall₂_eq_eq_eq]
  apply h.filterMap
  · intro x hx
    apply hview x hx.not_isShared
  · intro x y hxy
    cases hxy with
    | same x =>
        cases view x with
        | none => apply Option.Rel.none
        | some seen => exact .some rfl
    | push h =>
        rw [hview ⟨.push _, _⟩ id, hview ⟨.push _, _⟩ id]
        apply Option.Rel.none
    | clock x y =>
        rw [hview ⟨.clock, _⟩ id, hview ⟨.clock, _⟩ id]
        apply Option.Rel.none
    | note h =>
        rw [hview ⟨.note _, _⟩ id, hview ⟨.note _, _⟩ id]
        apply Option.Rel.none

theorem Alongside.fetches_eq (h : Alongside job t₁ t₂) :
  fetches t₁ = fetches t₂
  := by
  apply h.filterMap_eq
  rintro ⟨q, x⟩ hx
  cases q <;> first | rfl | exact absurd trivial hx

theorem Alongside.writes_eq (h : Alongside job t₁ t₂) :
  writes t₁ = writes t₂
  := by
  apply h.filterMap_eq
  rintro ⟨q, x⟩ hx
  cases q <;> first | rfl | exact absurd trivial hx

theorem Alongside.pushes (h : Alongside job t₁ t₂) :
  List.Forall₂ (AkinPushes job) (pushes t₁) (pushes t₂)
  := by
  apply h.filterMap
  · rintro ⟨q, x⟩ hx
    cases q <;> first | rfl | cases hx
  · intro x y hxy
    cases hxy with
    | same x hx =>
        obtain ⟨q, x⟩ := x
        cases q <;> first | apply Option.Rel.none | cases hx
    | push h => exact .some h
    | clock x y => apply Option.Rel.none
    | note h => apply Option.Rel.none

theorem Counterpart.next_eq (h : Counterpart job x y) :
  w.next s x = w.next s y
  := by
  cases h <;> rfl

/-- The outside world does not see the difference. -/
theorem Alongside.after_eq (h : Alongside job t₁ t₂) :
  w.after s t₁ = w.after s t₂
  := by
  induction h generalizing s with
  | nil => rfl
  | both hx ht ih =>
      rw [Outside.after, Outside.after, List.foldl_cons, List.foldl_cons, hx.next_eq]
      apply ih
  | left hx ht ih =>
      rw [Outside.after, List.foldl_cons, Outside.next_of_isAboutNames hx]
      apply ih
  | right hy ht ih =>
      apply ih.trans
      rw [Outside.after, Outside.after, List.foldl_cons, Outside.next_of_isAboutNames hy]

/-! ### Work that is akin -/

/-- Two parts of the work make the same calls but for calls about names, what they push is of the
same entries, and their results are related; of a push they only take note whether it is
accepted, and they may read different times. -/
inductive Akin (job : String) (R : α → β → Prop) : Work α → Work β → Prop
  | done {a : α} {b : β} (h : R a b) : Akin job R (.done a) (.done b)
  | ask {q : Call} {f : q.Answer → Work α} {g : q.Answer → Work β}
      (hq : q.IsShared) (h : ∀ x, Akin job R (f x) (g x)) :
      Akin job R (.ask q f) (.ask q g)
  | push {q₁ q₂ : PushRequest} {f : Except Failure Unit → Work α}
      {g : Except Failure Unit → Work β} (hq : q₁.Akin job q₂)
      (h : ∀ x y, x.isOk = y.isOk → Akin job R (f x) (g y)) :
      Akin job R (.ask (.push q₁) f) (.ask (.push q₂) g)
  | clock {f : Nat → Work α} {g : Nat → Work β} (h : ∀ x y, Akin job R (f x) (g y)) :
      Akin job R (.ask .clock f) (.ask .clock g)
  | note {n₁ n₂ : Note} {f : Unit → Work α} {g : Unit → Work β} (hn : n₁.Akin n₂)
      (h : ∀ x, Akin job R (f x) (g x)) :
      Akin job R (.ask (.note n₁) f) (.ask (.note n₂) g)
  | left {q : Call} {f : q.Answer → Work α} {d : Work β} (hq : q.IsAboutNames)
      (h : ∀ x, Akin job R (f x) d) : Akin job R (.ask q f) d
  | right {q : Call} {d : Work α} {g : q.Answer → Work β} (hq : q.IsAboutNames)
      (h : ∀ x, Akin job R d (g x)) : Akin job R d (.ask q g)
  | abort : Akin job R .abort .abort

variable {R : α → β → Prop} {S : γ → δ → Prop} {d d₁ : Work α} {d₂ : Work β} {a : α}
  {b : β}

theorem akin_pure (h : R a b) :
  Akin job R (pure a) (pure b)
  := .done h

theorem Akin.bind {f : α → Work γ} {g : β → Work δ} (hd : Akin job R d₁ d₂)
    (h : ∀ a b, R a b → Akin job S (f a) (g b)) :
  Akin job S (d₁ >>= f) (d₂ >>= g)
  := by
  induction hd with
  | done hR => exact h _ _ hR
  | ask hq _ ih => exact .ask hq ih
  | push hq _ ih => exact .push hq ih
  | clock _ ih => exact .clock ih
  | note hn _ ih => exact .note hn ih
  | left hq _ ih => exact .left hq ih
  | right hq _ ih => exact .right hq ih
  | abort => exact .abort

/-- Calls on the source or on the store of the cursor go on with the same answer. -/
theorem akin_question_bind {q : Call} {f : q.Answer → Work α} {g : q.Answer → Work β}
    (hq : q.IsShared) (h : ∀ x, Akin job R (f x) (g x)) :
  Akin job R (question q >>= f) (question q >>= g)
  := .ask hq h

theorem akin_push_bind {q₁ q₂ : PushRequest} {f : Except Failure Unit → Work α}
    {g : Except Failure Unit → Work β} (hq : q₁.Akin job q₂)
    (h : ∀ x y, x.isOk = y.isOk → Akin job R (f x) (g y)) :
  Akin job R (Work.push q₁ >>= f) (Work.push q₂ >>= g)
  := .push hq h

theorem akin_clock_bind {f : Nat → Work α} {g : Nat → Work β}
    (h : ∀ x y, Akin job R (f x) (g y)) :
  Akin job R (Work.clock >>= f) (Work.clock >>= g)
  := .clock h

theorem Akin.mono {R' : α → β → Prop} (hd : Akin job R d₁ d₂) (h : ∀ a b, R a b → R' a b) :
  Akin job R' d₁ d₂
  := by
  rw [← bind_pure d₁, ← bind_pure d₂]
  exact hd.bind fun a b hR => akin_pure (h a b hR)

/-- Work that makes only calls that are answered the same is akin to itself. -/
theorem akin_self (h : Uses [.abort, .fetch, .load, .store, .note] d) :
  Akin job Eq d d
  := by
  induction d with
  | done a => exact .done rfl
  | ask q next ih =>
      cases q <;> first
        | exact .ask trivial fun x => ih x (h.2 x)
        | exact .note (.same _) fun x => ih x (h.2 x)
        | exact absurd h.1 (by simp [Call.kind])
  | abort => exact .abort

theorem akin_note {n₁ n₂ : Note} (h : n₁.Akin n₂) :
  Akin job Eq (question (Call.note n₁) : Work Unit) (question (Call.note n₂) : Work Unit)
  := .note h fun _ => .done rfl

theorem akin_note_bind {n₁ n₂ : Note} {f : Unit → Work α} {g : Unit → Work β} (hn : n₁.Akin n₂)
    (h : Akin job R (f ()) (g ())) :
  Akin job R (question (Call.note n₁) >>= f) (question (Call.note n₂) >>= g)
  := .note hn fun _ => h

/-- Work that makes calls about names only is akin to any such work. -/
theorem akin_of_confined (h₁ : d₁.Confined Call.IsAboutNames)
    (h₂ : d₂.Confined Call.IsAboutNames) :
  Akin job (fun _ _ => True) d₁ d₂
  := by
  induction d₁ with
  | done a =>
      induction d₂ with
      | done b => exact .done trivial
      | ask q next ih => exact .right h₂.1 fun x => ih x (h₂.2 x)
      | abort => exact h₂.elim
  | ask q next ih => exact .left h₁.1 fun x => ih x (h₁.2 x)
  | abort => exact h₁.elim

/-- The results of akin work are results that it has along some transcript. -/
theorem Akin.yields (h : Akin job R d₁ d₂) :
  Akin job (fun a b => R a b ∧ (∃ t, d₁.Yields t a) ∧ ∃ t, d₂.Yields t b) d₁ d₂
  := by
  induction h with
  | done hR => exact .done ⟨hR, ⟨[], .done _⟩, [], .done _⟩
  | ask hq _ ih =>
      apply Akin.ask hq
      intro x
      apply (ih x).mono
      rintro a b ⟨hR, ⟨t₁, h₁⟩, t₂, h₂⟩
      exact ⟨hR, ⟨_, .ask x h₁⟩, _, .ask x h₂⟩
  | push hq _ ih =>
      apply Akin.push hq
      intro x y hxy
      apply (ih x y hxy).mono
      rintro a b ⟨hR, ⟨t₁, h₁⟩, t₂, h₂⟩
      exact ⟨hR, ⟨_, .ask x h₁⟩, _, .ask y h₂⟩
  | clock _ ih =>
      apply Akin.clock
      intro x y
      apply (ih x y).mono
      rintro a b ⟨hR, ⟨t₁, h₁⟩, t₂, h₂⟩
      exact ⟨hR, ⟨_, .ask x h₁⟩, _, .ask y h₂⟩
  | note hn _ ih =>
      apply Akin.note hn
      intro x
      apply (ih x).mono
      rintro a b ⟨hR, ⟨t₁, h₁⟩, t₂, h₂⟩
      exact ⟨hR, ⟨_, .ask x h₁⟩, _, .ask x h₂⟩
  | left hq _ ih =>
      apply Akin.left hq
      intro x
      apply (ih x).mono
      rintro a b ⟨hR, ⟨t₁, h₁⟩, h₂⟩
      exact ⟨hR, ⟨_, .ask x h₁⟩, h₂⟩
  | right hq _ ih =>
      apply Akin.right hq
      intro x
      apply (ih x).mono
      rintro a b ⟨hR, h₁, t₂, h₂⟩
      exact ⟨hR, h₁, _, .ask x h₂⟩
  | abort => exact .abort

/-- In two worlds with the same outside but for name servers and clocks, akin work comes to
related results, and the transcripts go alongside each other. -/
theorem Akin.alongside (h : Akin job R d₁ d₂) (h₁ : d₁.Yields t₁ a) (h₂ : d₂.Yields t₂ b)
    (hw₁ : w.Answers s t₁) (hw₂ : w.Answers s t₂) :
  R a b ∧ Alongside job t₁ t₂
  := by
  induction h generalizing s t₁ t₂ with
  | done hR =>
      cases h₁
      cases h₂
      exact ⟨hR, .nil⟩
  | ask hq _ ih =>
      cases h₁ with
      | ask x h₁ =>
      cases h₂ with
      | ask y h₂ =>
          obtain rfl := hw₁.1.eq hw₂.1 hq
          obtain ⟨hR, ht⟩ := ih x h₁ h₂ hw₁.2 hw₂.2
          exact ⟨hR, .both (.same _ hq) ht⟩
  | push hq _ ih =>
      cases h₁ with
      | ask x h₁ =>
      cases h₂ with
      | ask y h₂ =>
          have hxy : x.isOk = y.isOk := hw₁.1.trans hw₂.1.symm
          obtain ⟨hR, ht⟩ := ih x y hxy h₁ h₂ hw₁.2 hw₂.2
          exact ⟨hR, .both (.push ⟨hq, hxy⟩) ht⟩
  | clock _ ih =>
      cases h₁ with
      | ask x h₁ =>
      cases h₂ with
      | ask y h₂ =>
          obtain ⟨hR, ht⟩ := ih x y h₁ h₂ hw₁.2 hw₂.2
          exact ⟨hR, .both (.clock x y) ht⟩
  | note hn _ ih =>
      cases h₁ with
      | ask x h₁ =>
      cases h₂ with
      | ask y h₂ =>
          obtain ⟨hR, ht⟩ := ih x h₁ h₂ hw₁.2 hw₂.2
          exact ⟨hR, .both (.note hn) ht⟩
  | left hq _ ih =>
      cases h₁ with
      | ask x h₁ =>
          rw [Outside.Answers, Outside.next_of_isAboutNames hq] at hw₁
          obtain ⟨hR, ht⟩ := ih x h₁ h₂ hw₁.2 hw₂
          exact ⟨hR, .left hq ht⟩
  | right hq _ ih =>
      cases h₂ with
      | ask y h₂ =>
          rw [Outside.Answers, Outside.next_of_isAboutNames hq] at hw₂
          obtain ⟨hR, ht⟩ := ih y h₁ h₂ hw₁ hw₂.2
          exact ⟨hR, .right hq ht⟩
  | abort => cases h₁

end Work

end LogCourier
