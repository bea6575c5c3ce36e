import LogCourier.Proofs.Account

/-!
# Rounds of a pipeline

A round (`Pipeline.Round`) is a cycle that was carried out, with its transcript and its
account (`exists_round`). What it remembers at first may be anything, so a list of rounds need
not be of one program that was never stopped (`Continues`). A statement about all lists of
rounds with a store of the cursor that reads back is a statement about all runs of the pipeline
in all worlds.
-/

namespace LogCourier

open Dialogue Work

namespace Pipeline

/-- A cycle of the pipeline that was carried out. -/
structure Round (p : Pipeline) where
  memory : Memory
  transcript : Transcript
  account : Account
  yields : (p.account memory).Yields transcript account

variable {p : Pipeline} {c : Cursor} {r : Round p} {rs rs₁ rs₂ : List (Round p)}

/-- The transcript of rounds, one after the other. -/
def transcripts (rs : List (Round p)) : Transcript :=
  rs.flatMap Round.transcript

@[simp]
theorem transcripts_nil :
  transcripts ([] : List (Round p)) = []
  := rfl

@[simp]
theorem transcripts_cons :
  transcripts (r :: rs) = r.transcript ++ transcripts rs
  := List.flatMap_cons

@[simp]
theorem transcripts_append :
  transcripts (rs₁ ++ rs₂) = transcripts rs₁ ++ transcripts rs₂
  := List.flatMap_append

/-- The rounds are those of one program: each takes up what is remembered of the one before, and
the first takes up the given memory. -/
def Continues : Memory → List (Round p) → Prop
  | _, [] => True
  | m, r :: rs => r.memory = m ∧ Continues r.account.memory rs

theorem Continues.left {m : Memory} (h : Continues m (rs₁ ++ rs₂)) :
  Continues m rs₁
  := by
  induction rs₁ generalizing m with
  | nil => trivial
  | cons r rs ih => exact ⟨h.1, ih h.2⟩

/-- Every cycle is a round. -/
theorem exists_round {m m' : Memory} {t : Transcript} {o : Except Failure CycleReport}
    (h : (p.cycle m).Yields t (o, m')) :
  ∃ r : Round p, r.memory = m ∧ r.transcript = t ∧ r.account.outcome = o
    ∧ r.account.memory = m'
  := by
  rw [cycle_eq_account] at h
  obtain ⟨a, ha, heq⟩ := yields_map.mp h
  obtain ⟨rfl, rfl⟩ := Prod.mk.inj heq
  exact ⟨⟨m, t, a, ha⟩, rfl, rfl, rfl, rfl⟩

/-- A round that gets pages only leaves the circuit as it is. -/
theorem Round.terminated_of_answered (r : Round p) (h : Answered r.transcript) :
  r.account.memory.governor.terminated = r.memory.governor.terminated
  := Pipeline.terminated_of_answered r.yields h

/-- How a round goes. -/
theorem Round.course (r : Round p) (h : ReadsBack c r.transcript) :
  Course p c r.transcript r.account
  := course_of_yields r.yields h

end Pipeline

end LogCourier
