import LogCourier.Proofs.Metrics
import LogCourier.Proofs.Notes
import LogCourier.Proofs.Rehearsals

/-!
# Runs of the job

The job carries out cycles with pauses in between, and what it does besides is to write log lines
(`Job.Ran`). So up to these, a run of the job is a number of whole cycles one after the other
(`Pipeline.cycles`), and the number is known from the moment when the job is told to end
(`Cancellation`): all cycles up to the pause that is cut off, unless one of them meets an open
circuit and is the last (`Job.Concluded`, `Job.run_eq_cycles`).
-/

namespace LogCourier

open Dialogue Work
open Rehearsal (World)

namespace Work

variable {t t₁ t₂ : Transcript}

/-! ### Pauses, and calls to the outside -/

/-- The answer at a pause, if the exchange is one. -/
def pause? : Exchange → Option Bool
  | ⟨.pause, b⟩ => some b
  | _ => none

/-- The answers at the pauses. -/
def pauses (t : Transcript) : List Bool :=
  t.filterMap pause?

/-- Nothing but log lines. -/
def OnlyLines (t : Transcript) : Prop :=
  ∀ x ∈ t, ∃ l, x.1 = .note (.log l)

end Work

/-! ### Cycles in a row -/

namespace Pipeline

/-- Carry out cycles one after the other, and return their outcomes. -/
def cycles (p : Pipeline) : Nat → Memory → Work (List (Except Failure CycleReport) × Memory)
  | 0, m => return ([], m)
  | n + 1, m => do
    let (o, m) ← p.cycle m
    let (os, m) ← p.cycles n m
    return (o :: os, m)

variable {p : Pipeline} {m m' m'' : Memory} {t t' : Transcript} {o : Except Failure CycleReport}
  {os : List (Except Failure CycleReport)} {n : Nat}

end Pipeline

/-- The cycle met an open circuit. -/
def Fatal (o : Except Failure CycleReport) : Prop :=
  ∃ n, o = .error (.circuitOpen n)

theorem Failure.isFatal_iff {e : Failure} :
  e.isFatal = true ↔ ∃ n, e = .circuitOpen n
  := by
  cases e <;> simp [isFatal]

namespace Job

variable {j : Job} {m m' : Memory} {t : Transcript} {rounds : Nat}

/-! ### What a job notes -/

theorem onlyLines_log {level : LogLevel} {message : String} {fields : List (String × FieldValue)}
    (h : (Work.log level message fields).Yields t ()) :
  OnlyLines t
  := by
  obtain rfl := yields_question.mp h
  intro x hx
  obtain rfl := List.mem_singleton.mp hx
  exact ⟨_, rfl⟩

theorem onlyLines_noteReport {r : CycleReport} (h : (noteReport r).Yields t ()) :
  OnlyLines t
  := by
  cases r with
  | sourceEmpty => apply onlyLines_log h
  | upToDate cursor => apply onlyLines_log h
  | reset previous latestRow => apply onlyLines_log h
  | shipped harvest report =>
      rw [noteReport, noteShipped] at h
      split at h <;> apply onlyLines_log h

theorem onlyLines_noteFailure {e : Failure} (h : (noteFailure e).Yields t ()) :
  OnlyLines t
  := by
  rw [noteFailure] at h
  split at h <;> apply onlyLines_log h

/-- The failure that ends the job, if the outcome of a cycle is one. -/
theorem yields_round {f : Option Failure} (h : (j.round m).Yields t (f, m')) :
  ∃ t₁ n o, t = t₁ ++ n ∧ (j.pipeline.cycle m).Yields t₁ (o, m') ∧ OnlyLines n
    ∧ (f = none ∧ ¬ Fatal o ∨ ∃ k, f = some (.circuitOpen k) ∧ o = .error (.circuitOpen k))
  := by
  rw [round] at h
  obtain ⟨t₁, ⟨o, m''⟩, t₂, rfl, hc, hr⟩ := yields_bind.mp h
  cases o with
  | ok r =>
      obtain ⟨n, u, t₃, rfl, hn, hr⟩ := yields_bind.mp hr
      obtain ⟨rfl, hpair⟩ := yields_pure.mp hr
      obtain ⟨rfl, rfl⟩ := Prod.mk.inj hpair
      rw [List.append_nil]
      refine ⟨t₁, n, _, rfl, hc, onlyLines_noteReport hn, .inl ⟨rfl, ?_⟩⟩
      rintro ⟨k, hk⟩
      cases hk
  | error e =>
      obtain ⟨n, u, t₃, rfl, hn, hr⟩ := yields_bind.mp hr
      obtain ⟨rfl, hpair⟩ := yields_pure.mp hr
      obtain ⟨rfl, rfl⟩ := Prod.mk.inj hpair
      rw [List.append_nil]
      refine ⟨t₁, n, _, rfl, hc, onlyLines_noteFailure hn, ?_⟩
      by_cases he : e.isFatal
      · obtain ⟨k, rfl⟩ := Failure.isFatal_iff.mp he
        exact .inr ⟨k, rfl, rfl⟩
      · refine .inl ⟨if_neg he, ?_⟩
        rintro ⟨k, hk⟩
        apply he
        apply Failure.isFatal_iff.mpr
        use k, Except.error.inj hk

/-! ### How a job runs -/

/-- How the cycles of a job go, at most `rounds` of them: their transcript, and the end of the
job with the memory after it. -/
inductive Ran (j : Job) : (rounds : Nat) → Memory → Transcript → End × Memory → Prop
  | spent {m : Memory} : Ran j 0 m [] (.unfinished, m)
  | failed {rounds : Nat} {m m' : Memory} {t n : Transcript} {k : UInt32}
      (hc : (j.pipeline.cycle m).Yields t (.error (.circuitOpen k), m')) (hn : OnlyLines n) :
      Ran j (rounds + 1) m (t ++ n) (.failed (.circuitOpen k), m')
  | cancelled {rounds : Nat} {m m' : Memory} {t n n' : Transcript}
      {o : Except Failure CycleReport} (hc : (j.pipeline.cycle m).Yields t (o, m'))
      (ho : ¬ Fatal o) (hn : OnlyLines n) (hn' : OnlyLines n') :
      Ran j (rounds + 1) m (t ++ n ++ [⟨.pause, true⟩] ++ n') (.cancelled, m')
  | further {rounds : Nat} {m m' : Memory} {t n t' : Transcript}
      {o : Except Failure CycleReport} {x : End × Memory}
      (hc : (j.pipeline.cycle m).Yields t (o, m')) (ho : ¬ Fatal o) (hn : OnlyLines n)
      (hr : Ran j rounds m' t' x) :
      Ran j (rounds + 1) m (t ++ n ++ [⟨.pause, false⟩] ++ t') x

theorem ran_of_yields {x : End × Memory} (h : (j.cycles rounds m).Yields t x) :
  Ran j rounds m t x
  := by
  induction rounds generalizing m t with
  | zero =>
      obtain ⟨rfl, rfl⟩ := yields_pure.mp h
      apply Ran.spent
  | succ rounds ih =>
      rw [cycles] at h
      obtain ⟨t₁, ⟨f, m'⟩, t₂, rfl, hround, hr⟩ := yields_bind.mp h
      obtain ⟨t₁, n, o, rfl, hc, hn, ⟨rfl, ho⟩ | ⟨k, rfl, rfl⟩⟩ := yields_round hround
      · obtain ⟨b, t₃, rfl, hb⟩ := yields_question_bind.mp hr
        rw [← List.singleton_append, ← List.append_assoc]
        cases b with
        | true =>
            obtain ⟨n', u, t₄, rfl, hn', hr⟩ := yields_bind.mp hb
            obtain ⟨rfl, rfl⟩ := yields_pure.mp hr
            rw [List.append_nil]
            apply Ran.cancelled hc ho hn (onlyLines_log hn')
        | false => apply Ran.further hc ho hn (ih hb)
      · obtain ⟨rfl, rfl⟩ := yields_pure.mp hr
        rw [List.append_nil]
        apply Ran.failed hc hn

/-! ### When a job ends -/

/-- When a job is told to end: before it starts, while the cycle with the given number is carried
out, or in the pause after that cycle. Numbers are counted from 0. -/
inductive Cancellation
  | beforeStart
  | duringCycle (i : Nat)
  | duringPause (i : Nat)

/-- The pause that is cut off, if the job comes to it. -/
def Cancellation.pause : Cancellation → Nat
  | beforeStart => 0
  | duringCycle i => i
  | duringPause i => i

/-- How a job ends whose cycles had the given outcomes, if the pause number `k` is the one that
is cut off: there, unless one of the cycles up to it met an open circuit. -/
inductive Concluded (k : Nat) : List (Except Failure CycleReport) → End → Prop
  | cancelled {os : List (Except Failure CycleReport)} (hlength : os.length = k + 1)
      (hos : ∀ o ∈ os, ¬ Fatal o) : Concluded k os .cancelled
  | failed {os : List (Except Failure CycleReport)} {n : UInt32} (hlength : os.length ≤ k)
      (hos : ∀ o ∈ os, ¬ Fatal o) :
      Concluded k (os ++ [.error (.circuitOpen n)]) (.failed (.circuitOpen n))

theorem Concluded.cons {k : Nat} {o : Except Failure CycleReport}
    {os : List (Except Failure CycleReport)} {x : End} (h : Concluded k os x) (ho : ¬ Fatal o) :
  Concluded (k + 1) (o :: os) x
  := by
  cases h with
  | cancelled hlength hos =>
      apply Concluded.cancelled
      · rw [List.length_cons, hlength]
      · exact List.forall_mem_cons.mpr ⟨ho, hos⟩
  | failed hlength hos =>
      rw [← List.cons_append]
      apply Concluded.failed
      · rw [List.length_cons]
        omega
      · exact List.forall_mem_cons.mpr ⟨ho, hos⟩

/-- The end of a job in a scripted world, unless it aborts, and the answers at its pauses there. -/
def rehearse (j : Job) (rounds : Nat) (m : Memory) (w : World) : Option End × List Bool :=
  ((w.hold (j.run rounds m)).1.map Prod.fst, pauses ((j.run rounds m).transcript World.answer w))

deriving instance DecidableEq for End

end Job

end LogCourier
