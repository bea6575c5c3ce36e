import LogCourier.Proofs.Rehearsals

/-!
# Cycles that fail

A cycle can fail at any of its fetches and at its one attempt to write the cursor, but nowhere
else (`Course.of_error`). A fetch that fails comes before anything is pushed, on whatever page
of the scan, and an attempt to write that fails leaves the cursor as it was. So a cycle that
fails changes nothing that lasts (`failed_cycle_keeps`): the entries it collected are collected
again by a later cycle.
-/

namespace LogCourier

namespace Pipeline

open Dialogue Work
open Rehearsal (World)

variable {p : Pipeline} {c : Cursor} {t : Transcript}

/-- A cycle fails with a fetch, before anything is pushed or written, or with its one attempt
to write the cursor. -/
theorem Course.of_error {a : Account} {e : Failure} (h : Course p c t a)
    (hout : a.outcome = .error e) :
  (e.IsOfSource ∧ pushes t = [] ∧ writes t = []) ∨ ∃ d, writes t = [(d, .error e)]
  := by
  cases h with
  | idle hw hp hh hi =>
      cases hi with
      | failed ho he hcause =>
          cases ho.symm.trans hout
          exact .inl ⟨he, hp, hw⟩
      | sourceEmpty hf hrow ho => cases ho.symm.trans hout
      | upToDate hf hrow ho => cases ho.symm.trans hout
  | @reset head row x hf hrow hlt hw hp hh ho =>
      cases x with
      | error failure =>
          cases ho.symm.trans hout
          exact .inr ⟨.zero, hw⟩
      | ok u => cases ho.symm.trans hout
  | shipped hc hd hsettled hw hrec ho hall =>
      cases hrec with
      | nothing hnone => cases ho.symm.trans hout
      | @written last x hsome =>
          cases x with
          | error failure =>
              cases ho.symm.trans hout
              exact .inr ⟨⟨last.row⟩, hw⟩
          | ok u => cases ho.symm.trans hout

/-- A cycle that fails leaves the cursor as it was. Either its one attempt to write the cursor
failed, and this is its failure, or it failed with a fetch, and then nothing was pushed and no
attempt was made to write the cursor. As the store of the cursor fails with input and output
only, the failure tells which. -/
theorem failed_cycle_keeps {m m' : Memory} {e : Failure}
    (h : (p.cycle m).Yields t (.error e, m')) :
  (∀ c, persisted c t = c)
    ∧ ((∃ d, writes t = [(d, .error e)]) ∨ (e.IsOfSource ∧ pushes t = [] ∧ writes t = []))
    ∧ ((∀ d f, (d, .error f) ∈ writes t → ∃ detail, f = .io detail) →
      e.IsOfSource → pushes t = [] ∧ writes t = [])
  := by
  obtain ⟨r, -, rfl, hout, -⟩ := exists_round h
  obtain ⟨c', t', -, hcourse⟩ := exists_course r.yields
  rcases hcourse.of_error hout with ⟨he, hp, hw⟩ | ⟨d, hw⟩
  · refine ⟨?_, .inr ⟨he, hp, hw⟩, fun _ _ => ⟨hp, hw⟩⟩
    intro c
    apply persisted_of_writes_eq_nil hw
  · refine ⟨?_, .inl ⟨d, hw⟩, ?_⟩
    · intro c
      rw [persisted_of_writes_singleton hw, settle]
    · intro hstore he
      rw [hw] at hstore
      obtain ⟨detail, rfl⟩ := hstore d e List.mem_cons_self
      cases he

/-- The second page of a scan fails after a page of entries was collected; and a cursor cannot
be written after all entries were delivered. -/
theorem failed_cycle_keeps_of_page_two_and_full_disk :
  (∃ t m', (sample.cycle (.new 5)).Yields t (.error (.source ⟨.network, "down"⟩), m')
    ∧ (fetches t).length = 3 ∧ pushes t = [] ∧ writes t = [])
    ∧ ∃ t m', (sample.cycle (.new 5)).Yields t (.error (.io "disk full"), m')
      ∧ (pushes t).length = 2 ∧ writes t = [(⟨3⟩, .error (.io "disk full"))]
      ∧ persisted .zero t = .zero
  := by
  let w : World := { sampleWorld 0 [7, 6, 5, 4, 3, 2, 1] with
    source := [.plain, .plain, .fail ⟨.network, "down"⟩] }
  let w' : World := { sampleWorld 0 [3, 2, 1] with storeFailure := some "disk full" }
  obtain ⟨⟨o, m⟩, h, ho⟩ := exists_yields_of_any World.answer (sample.cycle (.new 5)) w
    (P := fun x => Failure.of? x.1 = some (.source ⟨.network, "down"⟩)) (by decide +kernel)
  obtain ⟨⟨o', m'⟩, h', ho'⟩ := exists_yields_of_any World.answer (sample.cycle (.new 5)) w'
    (P := fun x => Failure.of? x.1 = some (.io "disk full")) (by decide +kernel)
  obtain rfl := Failure.of?_eq_some.mp ho
  obtain rfl := Failure.of?_eq_some.mp ho'
  have hwrites : writes ((sample.cycle (.new 5)).transcript World.answer w) = [] := by
    decide +kernel
  have hkeeps := failed_cycle_keeps h
  have hkeeps' := failed_cycle_keeps h'
  refine ⟨⟨_, m, h, by decide +kernel, hkeeps.2.2 ?_ trivial⟩,
    ⟨_, m', h', by decide +kernel, by decide +kernel, hkeeps'.1 _⟩⟩
  rw [hwrites]
  nofun

end Pipeline

end LogCourier
