import LogCourier.Pipeline.Polling
import LogCourier.Proofs.Traffic

/-!
# How a fetch goes

A fetch under the eyes of the governor goes in one of three ways (`Polling.Fetched`): it is
refused while the circuit is open, or the source answers with a page, or it answers with an
error. What a fetch leaves in a transcript, what comes of it, and how the governor goes on
are read off from these.

A fetch that fails has a failure of its own kind (`Failure.IsOfSource`), and then the circuit is
open or the source answered with an error (`refused_or_failed`). As long as the source answers
with pages the circuit stays as it is (`terminated_of_answered`).
-/

namespace LogCourier

/-- The failure of a fetch: the source answered with an error, or it is not asked any more. -/
def Failure.IsOfSource : Failure → Prop
  | .source _ | .circuitOpen _ => True
  | _ => False

namespace Polling

open Dialogue Work

variable {g g' : Governor} {r : PageRequest} {t : Transcript}

/-- How a fetch goes: its transcript, and the outcome with the governor after it. -/
inductive Fetched (g : Governor) (r : PageRequest) :
    Transcript → Except Failure QueryLogPage × Governor → Prop
  | refused (h : g.terminated = true) :
      Fetched g r [] (.error (.circuitOpen g.failures), g)
  | answered {page : QueryLogPage} {time : Nat} {n : Transcript} (h : g.terminated = false)
      (hn : (noteFetched time r page).Yields n ()) :
      Fetched g r (⟨.fetch r, .ok page⟩ :: ⟨.clock, time⟩ :: n) (.ok page, g.success time)
  | failed {e : SourceError} {n : Transcript} (h : g.terminated = false)
      (hn : (noteFailed r e (g.failure e).1.failures).Yields n ()) :
      Fetched g r (⟨.fetch r, .error e⟩ :: n)
        (.error (failureOf e (g.failure e).1), (g.failure e).2)

theorem fetched_of_yields {o : Except Failure QueryLogPage × Governor}
    (h : (fetch g r).Yields t o) :
  Fetched g r t o
  := by
  rw [fetch] at h
  split at h
  · next hg =>
    obtain ⟨rfl, rfl⟩ := yields_pure.mp h
    apply Fetched.refused hg
  · next hg =>
    rw [Bool.not_eq_true] at hg
    obtain ⟨x, t', rfl, hx⟩ := yields_question_bind.mp h
    cases x with
    | error e =>
        obtain ⟨n, u, t'', rfl, hn, hr⟩ := yields_bind.mp hx
        obtain ⟨rfl, rfl⟩ := yields_pure.mp hr
        rw [List.append_nil]
        apply Fetched.failed hg hn
    | ok page =>
        obtain ⟨time, t'', rfl, ht⟩ := yields_question_bind.mp hx
        obtain ⟨n, u, t', rfl, hn, hr⟩ := yields_bind.mp ht
        obtain ⟨rfl, rfl⟩ := yields_pure.mp hr
        rw [List.append_nil]
        apply Fetched.answered hg hn

theorem uses_noteFetched (time : Nat) (page : QueryLogPage) :
  Uses [.note] (noteFetched time r page)
  := (uses_record _).bind fun _ => uses_log _ _ _

theorem uses_noteFailed (e : SourceError) (failures : UInt32) :
  Uses [.note] (noteFailed r e failures)
  := (uses_record _).bind fun _ => uses_log _ _ _

theorem uses_fetch :
  Uses [.fetch, .clock, .note] (fetch g r)
  := by
  rw [fetch]
  split
  · apply confined_pure
  · apply Confined.bind
    · apply confined_question.mpr
      exact List.mem_cons_self
    · rintro (e | page)
      · apply Confined.bind
        · exact (uses_noteFailed _ _).mono
        · intro _
          apply confined_pure
      · apply Confined.bind
        · apply confined_question.mpr
          decide
        · intro time
          apply Confined.bind
          · exact (uses_noteFetched _ _).mono
          · intro _
            apply confined_pure

/-- A fetch that gets a page asks the source for this page only. -/
theorem fetches_of_yields_ok {page : QueryLogPage} (h : (fetch g r).Yields t (.ok page, g')) :
  fetches t = [(r, .ok page)]
  := by
  cases fetched_of_yields h with
  | answered hg hn =>
      have hn := fetches_of_within ((uses_noteFetched _ _).within hn)
      rw [fetches_cons, fetches_cons, hn]
      rfl

theorem answered_of_yields_ok {page : QueryLogPage} (h : (fetch g r).Yields t (.ok page, g')) :
  Answered t
  := by
  rw [Answered, fetches_of_yields_ok h]
  exact List.forall_mem_singleton.mpr ⟨page, rfl⟩

/-- A fetch asks for its page unless the circuit is open. -/
theorem asked_of_yields {o : Except Failure QueryLogPage} (h : (fetch g r).Yields t (o, g')) :
  asked t = if g.terminated then [] else [r]
  := by
  cases fetched_of_yields h with
  | refused hg =>
      rw [if_pos hg]
      rfl
  | answered hg hn =>
      rw [hg, asked, fetches_of_yields_ok h]
      rfl
  | failed hg hn =>
      rw [hg, asked, fetches_cons, fetches_of_within ((uses_noteFailed _ _).within hn)]
      rfl

/-- A page is got by asking for it. -/
theorem asked_of_yields_ok {page : QueryLogPage} (h : (fetch g r).Yields t (.ok page, g')) :
  g.terminated = false ∧ asked t = [r] ∧ received t = [page]
  := by
  rw [asked, received, fetches_of_yields_ok h]
  cases fetched_of_yields h with
  | answered hg hn => exact ⟨hg, rfl, rfl⟩

theorem isOfSource_failureOf (error : SourceError) (v : Verdict) :
  (failureOf error v).IsOfSource
  := by
  cases v <;> trivial

/-- A fetch fails because the circuit is open, or because the source answers with an error. -/
theorem refused_or_failed {e : Failure} (h : (fetch g r).Yields t (.error e, g')) :
  e.IsOfSource ∧ (g'.terminated = true ∨ ∃ error, (r, .error error) ∈ fetches t)
  := by
  cases fetched_of_yields h with
  | refused hg => exact ⟨trivial, .inl hg⟩
  | @failed error n hg hn =>
      refine ⟨isOfSource_failureOf _ _, .inr ⟨error, ?_⟩⟩
      rw [fetches_cons]
      apply List.mem_cons_self

/-- A fetch that does not get an error from the source leaves the circuit as it is. -/
theorem terminated_of_answered {o : Except Failure QueryLogPage}
    (h : (fetch g r).Yields t (o, g')) (ht : Answered t) :
  g'.terminated = g.terminated
  := by
  cases fetched_of_yields h with
  | refused hg => rfl
  | answered hg hn => rfl
  | @failed error n hg hn =>
      have hmem : (r, .error error) ∈ fetches (⟨.fetch r, .error error⟩ :: n) := by
        rw [fetches_cons]
        apply List.mem_cons_self
      obtain ⟨page, hpage⟩ := ht _ hmem
      cases hpage

end Polling

end LogCourier
