import LogCourier.Proofs.Operations

/-!
# The governor along a run

The governor knows of the source what the outcomes of the fetches tell (`outcomes`). `Fed g os g'`
says what the outcomes `os` make of it, and `Governor.Tracks threshold os g` that `g` is a governor
with this threshold that has seen `os`: its count is the number of failures in a row
(`failuresInARow`), and an open circuit was opened by the last outcome.

A fetch ends with an open circuit if and only if the circuit is open after it
(`terminated_of_circuitOpen`, `circuitOpen_of_terminated`). Every operation keeps track of the
outcomes as long as fewer than 2³² failures come in a row (`FewInARow`, `Proceeds.tracks`); once
the circuit is open no operation asks the source (`Proceeds.of_terminated`).
-/

namespace LogCourier

open Dialogue Work

/-- The outcome of asking the source for a page. -/
abbrev SourceOutcome := Except SourceError QueryLogPage

/-! ### Outcomes -/

/-- What came of the fetches. -/
def Work.outcomes (t : Transcript) : List SourceOutcome :=
  (fetches t).map Prod.snd

@[simp]
theorem Work.outcomes_append {t₁ t₂ : Transcript} :
  outcomes (t₁ ++ t₂) = outcomes t₁ ++ outcomes t₂
  := by
  rw [outcomes, fetches_append, List.map_append]
  rfl

theorem Work.outcomes_cons_fetch {r : PageRequest} {x : SourceOutcome} {t : Transcript} :
  outcomes (⟨.fetch r, x⟩ :: t) = x :: outcomes t
  := rfl

theorem Work.outcomes_of_within {ks : List Call.Kind} {t : Transcript} (ht : Within ks t)
    (hk : Call.Kind.fetch ∉ ks := by decide) :
  outcomes t = []
  := by
  rw [outcomes, fetches_of_within ht hk]
  rfl

/-- The count of failures in a row after one more outcome. -/
def countOutcome (n : Nat) : SourceOutcome → Nat
  | .ok _ => 0
  | .error _ => n + 1

/-- The failures in a row with which the outcomes end. -/
def failuresInARow (os : List SourceOutcome) : Nat :=
  os.foldl countOutcome 0

theorem failuresInARow_concat (os : List SourceOutcome) (x : SourceOutcome) :
  failuresInARow (os ++ [x]) = countOutcome (failuresInARow os) x
  := by
  rw [failuresInARow, List.foldl_append]
  rfl

/-- At no time there are 2³² failures in a row. -/
def FewInARow (os : List SourceOutcome) : Prop :=
  ∀ os', os' <+: os → failuresInARow os' < UInt32.size

theorem failuresInARow_le_length (os : List SourceOutcome) :
  failuresInARow os ≤ os.length
  := by
  induction os using List.reverseRecOn with
  | nil => apply Nat.le_refl
  | append_singleton os x ih =>
      rw [failuresInARow_concat, List.length_append, List.length_singleton]
      cases x with
      | ok page => apply Nat.zero_le
      | error e => apply Nat.succ_le_succ ih

/-- Fewer than 2³² outcomes have fewer than 2³² failures in a row. -/
theorem fewInARow_of_length_lt {os : List SourceOutcome} (h : os.length < UInt32.size) :
  FewInARow os
  := by
  intro os' hp
  apply Nat.lt_of_le_of_lt (failuresInARow_le_length os')
  apply Nat.lt_of_le_of_lt hp.length_le h

theorem FewInARow.of_isPrefix {os os' : List SourceOutcome} (h : FewInARow os) (hp : os' <+: os) :
  FewInARow os'
  := fun l hl => h l (hl.trans hp)

/-! ### Feeding a governor -/

/-- What outcomes make of a governor. The times of the successes may be any. -/
inductive Fed : Governor → List SourceOutcome → Governor → Prop
  | nil {g : Governor} : Fed g [] g
  | success {g g' : Governor} {page : QueryLogPage} {os : List SourceOutcome} (time : Nat)
      (h : Fed (g.success time) os g') : Fed g (.ok page :: os) g'
  | failure {g g' : Governor} {e : SourceError} {os : List SourceOutcome}
      (h : Fed (g.failure e).2 os g') : Fed g (.error e :: os) g'

namespace Fed

variable {g g' g'' : Governor} {os os' : List SourceOutcome}

theorem append (h : Fed g os g') (h' : Fed g' os' g'') :
  Fed g (os ++ os') g''
  := by
  induction h with
  | nil => apply h'
  | success time h ih => apply Fed.success time (ih h')
  | failure h ih => apply Fed.failure (ih h')

/-- Whether outcomes open the circuit does not depend on the times of the successes. -/
theorem terminated_eq {k k' : Governor} (h : Fed g os g') (hk : Fed k os k')
    (hthreshold : g.threshold = k.threshold) (hfailures : g.failures = k.failures)
    (hterminated : g.terminated = k.terminated) :
  g'.terminated = k'.terminated
  := by
  induction h generalizing k with
  | nil =>
      cases hk
      apply hterminated
  | success time h ih =>
      cases hk with
      | success time' hk => apply ih hk hthreshold rfl hterminated
  | @failure g g' e os h ih =>
      cases hk with
      | failure hk =>
          apply ih hk
          · simp only [Governor.failure, hfailures, hthreshold, hterminated]
            split <;> rfl
          · simp only [Governor.failure, hfailures, hthreshold, hterminated]
            split <;> rfl
          · simp only [Governor.failure, hfailures, hthreshold, hterminated]
            split <;> rfl

end Fed

namespace Governor

variable {g : Governor} {e : SourceError} {n : UInt32}

@[simp]
theorem threshold_failure :
  (g.failure e).2.threshold = g.threshold
  := by
  rw [failure]
  split <;> rfl

@[simp]
theorem failures_failure :
  (g.failure e).2.failures = g.failures + 1
  := by
  rw [failure]
  split <;> rfl

/-- The verdict tells the count. -/
theorem verdict_failures :
  (g.failure e).1.failures = countAfter g.failures
  := by
  rw [failure]
  split <;> rfl

/-- The circuit is open after a failure if and only if the verdict is to end. -/
theorem terminated_failure :
  (g.failure e).2.terminated = true ↔ (g.failure e).1 = .trip (countAfter g.failures)
  := by
  rw [failure]
  split
  · exact ⟨fun _ => rfl, fun _ => rfl⟩
  · next h =>
    constructor
    · intro hterminated
      exact absurd (Bool.or_eq_true_iff.mpr (.inl hterminated)) h
    · nofun

/-- A failure opens the circuit if it refuses the credentials and its count meets the threshold. -/
theorem terminated_failure_iff :
  (g.failure e).2.terminated = true
    ↔ g.terminated = true ∨ e.isAuthentication = true ∧ g.threshold ≤ countAfter g.failures
  := by
  rw [failure]
  split
  · next h =>
    rw [Bool.or_eq_true, Bool.and_eq_true, decide_eq_true_eq] at h
    exact iff_of_true rfl h
  · next h =>
    rw [Bool.or_eq_true, Bool.and_eq_true, decide_eq_true_eq] at h
    exact iff_of_false (fun hterminated => h (.inl hterminated)) h

/-- The verdict over a failure is to end if the circuit is open after it. -/
theorem verdict_eq :
  (g.failure e).1
    = if (g.failure e).2.terminated then .trip (countAfter g.failures)
      else .retry (countAfter g.failures)
  := by
  rw [failure]
  split
  · rfl
  · next h =>
    rw [if_neg]
    intro hterminated
    exact h (Bool.or_eq_true_iff.mpr (.inl hterminated))

/-- A failure opens a circuit if the credentials were refused and the threshold is reached. -/
theorem of_trip (hg : g.terminated = false) (h : (g.failure e).1 = .trip n) :
  e.isAuthentication = true ∧ g.threshold ≤ n ∧ n = countAfter g.failures
  := by
  rw [failure] at h
  split at h
  · next hcond =>
    cases h
    rw [hg, Bool.false_or, Bool.and_eq_true, decide_eq_true_eq] at hcond
    exact ⟨hcond.1, hcond.2, rfl⟩
  · cases h

/-- Short of the largest word, the count that is reported is the count that is kept. -/
theorem countAfter_of_lt (h : n.toNat + 1 < UInt32.size) :
  countAfter n = n + 1
  := by
  rw [countAfter, if_neg]
  rintro rfl
  exact absurd h (by decide)

theorem countAfter_of_ne_zero (h : n + 1 ≠ 0) :
  countAfter n = n + 1
  := by
  rw [countAfter, if_neg]
  rintro rfl
  exact h (by decide)

/-- The governor has seen the outcomes, since it was made with the threshold. -/
structure Tracks (threshold : UInt32) (os : List SourceOutcome) (g : Governor) : Prop where
  fed : Fed (.new threshold) os g
  threshold_eq : g.threshold = max threshold 1
  failures : g.failures.toNat = failuresInARow os
  tripped : g.terminated = true → ∃ front e g', os = front ++ [.error e]
    ∧ Fed (.new threshold) front g' ∧ g'.terminated = false ∧ (g'.failure e).1 = .trip g.failures
    ∧ e.isAuthentication = true ∧ max threshold 1 ≤ g.failures

theorem tracks_new (threshold : UInt32) :
  (new threshold).Tracks threshold []
  := ⟨.nil, rfl, rfl, nofun⟩

namespace Tracks

variable {threshold : UInt32} {os : List SourceOutcome}

theorem success {page : QueryLogPage} (h : g.Tracks threshold os) (hg : g.terminated = false)
    (time : Nat) :
  (g.success time).Tracks threshold (os ++ [.ok page])
  := by
  constructor
  · apply h.fed.append (.success time .nil)
  · apply h.threshold_eq
  · rw [failuresInARow_concat]
    rfl
  · intro hterminated
    cases hg.symm.trans hterminated

theorem failure (h : g.Tracks threshold os) (hg : g.terminated = false)
    (hfew : FewInARow (os ++ [.error e])) :
  (g.failure e).2.Tracks threshold (os ++ [.error e])
  := by
  have hlt : g.failures.toNat + 1 < UInt32.size := by
    have hlast := hfew _ List.prefix_rfl
    rw [failuresInARow_concat, ← h.failures] at hlast
    apply hlast
  have hcount := countAfter_of_lt hlt
  constructor
  · apply h.fed.append (.failure .nil)
  · rw [threshold_failure, h.threshold_eq]
  · rw [failuresInARow_concat, ← h.failures, failures_failure, UInt32.toNat_add]
    apply Nat.mod_eq_of_lt hlt
  · intro hterminated
    have htrip := terminated_failure.mp hterminated
    obtain ⟨hauth, hle, -⟩ := of_trip hg htrip
    rw [hcount] at htrip hle
    rw [failures_failure]
    refine ⟨os, e, g, rfl, h.fed, hg, htrip, hauth, ?_⟩
    rw [← h.threshold_eq]
    apply hle

/-- An open circuit has seen failures. -/
theorem failures_ne_zero (h : g.Tracks threshold os) (hg : g.terminated = true) :
  g.failures ≠ 0
  := by
  obtain ⟨front, e, g', -, -, -, -, -, hle⟩ := h.tripped hg
  intro hzero
  rw [hzero] at hle
  have hone := UInt32.le_trans (Limits.one_le_max_one32 threshold) hle
  exact absurd hone (by decide)

/-- The governor that has seen the outcomes is terminated with every other one that has. -/
theorem terminated_eq {k : Governor} (h : g.Tracks threshold os) (hk : Fed (.new threshold) os k) :
  k.terminated = g.terminated
  := hk.terminated_eq h.fed rfl rfl rfl

end Tracks

end Governor

/-! ### Fetches and the circuit -/

namespace Polling

variable {g g' : Governor} {r : PageRequest} {t : Transcript} {o : Except Failure QueryLogPage}

/-- After a fetch that finds or leaves an open circuit the circuit is open. -/
theorem terminated_of_circuitOpen {n : UInt32}
    (h : (fetch g r).Yields t (.error (.circuitOpen n), g')) :
  g'.terminated = true
  := by
  generalize hx : (Except.error (Failure.circuitOpen n), g') = x at h
  cases fetched_of_yields h with
  | refused hg =>
      cases hx
      apply hg
  | answered hg hn => cases hx
  | @failed e _ hg hn =>
      obtain ⟨ho, rfl⟩ := Prod.mk.inj hx
      apply Governor.terminated_failure.mpr
      cases hv : (g.failure e).1 with
      | retry k =>
          rw [hv] at ho
          cases ho
      | trip k => rw [(Governor.of_trip hg hv).2.2]

/-- A fetch after which the circuit is open tells so, with the count that is kept unless this one
has wrapped around. -/
theorem circuitOpen_of_terminated (h : (fetch g r).Yields t (o, g')) (ht : g'.terminated = true) :
  ∃ n, o = .error (.circuitOpen n) ∧ (g'.failures ≠ 0 → n = g'.failures)
  := by
  cases fetched_of_yields h with
  | refused hg => exact ⟨_, rfl, fun _ => rfl⟩
  | answered hg hn => cases hg.symm.trans ht
  | @failed e _ hg hn =>
      use Governor.countAfter g.failures
      rw [Governor.terminated_failure.mp ht, Governor.failures_failure]
      exact ⟨rfl, Governor.countAfter_of_ne_zero⟩

/-- After a fetch that gets a page the circuit is closed. -/
theorem terminated_of_ok {page : QueryLogPage} (h : (fetch g r).Yields t (.ok page, g')) :
  g'.terminated = false
  := by
  cases fetched_of_yields h with
  | answered hg hn => apply hg

/-- A fetch under an open circuit asks nothing. -/
theorem eq_nil_of_terminated (h : (fetch g r).Yields t (o, g')) (hg : g.terminated = true) :
  t = [] ∧ g' = g
  := by
  cases fetched_of_yields h with
  | refused hg => exact ⟨rfl, rfl⟩
  | answered hg' hn => cases hg'.symm.trans hg
  | failed hg' hn => cases hg'.symm.trans hg

/-- A fetch opens the circuit only if the credentials are refused. -/
theorem refused_of_terminated (h : (fetch g r).Yields t (o, g')) (hg : g.terminated = false)
    (hg' : g'.terminated = true) :
  ∃ e, outcomes t = [.error e] ∧ e.isAuthentication = true
  := by
  cases fetched_of_yields h with
  | refused hopen => cases hg.symm.trans hopen
  | answered hclosed hn => cases hclosed.symm.trans hg'
  | @failed e _ hclosed hn =>
      refine ⟨e, ?_, (Governor.of_trip hg (Governor.terminated_failure.mp hg')).1⟩
      rw [outcomes_cons_fetch, outcomes_of_within ((uses_noteFailed _ _).within hn)]

/-- A fetch lets the governor see its outcome. -/
theorem tracks_of_yields {threshold : UInt32} {os : List SourceOutcome}
    (h : (fetch g r).Yields t (o, g')) (hg : g.Tracks threshold os)
    (hfew : FewInARow (os ++ outcomes t)) :
  g'.Tracks threshold (os ++ outcomes t)
  := by
  cases fetched_of_yields h with
  | refused hopen =>
      rw [outcomes, fetches, List.filterMap_nil, List.map_nil, List.append_nil]
      apply hg
  | @answered _ time n hclosed hn =>
      have hrest : Within [.clock, .note] (⟨.clock, time⟩ :: n) :=
        within_cons.mpr ⟨List.mem_cons_self, ((uses_noteFetched _ _).within hn).mono⟩
      rw [outcomes_cons_fetch, outcomes_of_within hrest]
      apply hg.success hclosed
  | failed hclosed hn =>
      rw [outcomes_cons_fetch, outcomes_of_within ((uses_noteFailed _ _).within hn)] at hfew ⊢
      apply hg.failure hclosed hfew

end Polling

/-! ### Operations and the circuit -/

namespace Goes

variable {m m' : Memory} {op : Operation} {t : Transcript}

/-- A single call is no fetch. -/
theorem fetches_of_isPlain {x : Work.Exchange} (h : x.1.IsPlain) :
  fetches [x] = []
  := by
  obtain ⟨q, y⟩ := x
  cases q with
  | fetch r => cases h
  | _ => rfl

theorem outcomes_eq_nil (h : Goes m op t m') (hm : ∀ r o, op ≠ .poll r o) :
  outcomes t = [] ∧ m'.governor = m.governor
  := by
  cases h with
  | poll h => exact absurd rfl (hm _ _)
  | hostname h =>
      exact ⟨outcomes_of_within ((HostnameCache.uses_hostname _ _).within h), rfl⟩
  | call h =>
      rw [outcomes, fetches_of_isPlain h]
      exact ⟨rfl, rfl⟩

theorem tracks {threshold : UInt32} {os : List SourceOutcome} (h : Goes m op t m')
    (hm : m.governor.Tracks threshold os) (hfew : FewInARow (os ++ outcomes t)) :
  m'.governor.Tracks threshold (os ++ outcomes t)
  := by
  cases op with
  | poll r o =>
      cases h with
      | poll hf => apply Polling.tracks_of_yields hf hm hfew
  | hostname client name =>
      obtain ⟨hnone, hsame⟩ := h.outcomes_eq_nil nofun
      rw [hnone, hsame, List.append_nil]
      apply hm
  | call x =>
      obtain ⟨hnone, hsame⟩ := h.outcomes_eq_nil nofun
      rw [hnone, hsame, List.append_nil]
      apply hm

/-- Under an open circuit an operation asks the source for nothing, and leaves the circuit as it
is. -/
theorem of_terminated (h : Goes m op t m') (hm : m.governor.terminated = true) :
  outcomes t = [] ∧ m'.governor = m.governor
  := by
  cases op with
  | poll r o =>
      cases h with
      | poll hf =>
          obtain ⟨rfl, rfl⟩ := Polling.eq_nil_of_terminated hf hm
          exact ⟨rfl, rfl⟩
  | hostname client name => apply h.outcomes_eq_nil nofun
  | call x => apply h.outcomes_eq_nil nofun

/-- An operation opens the circuit only by a refusal of the credentials. -/
theorem refused_of_terminated (h : Goes m op t m') (hm : m.governor.terminated = false)
    (hm' : m'.governor.terminated = true) :
  ∃ front e, outcomes t = front ++ [.error e] ∧ e.isAuthentication = true
  := by
  cases op with
  | poll r o =>
      cases h with
      | poll hf =>
          obtain ⟨e, houtcomes, he⟩ := Polling.refused_of_terminated hf hm hm'
          exact ⟨[], e, houtcomes, he⟩
  | hostname client name =>
      rw [(h.outcomes_eq_nil nofun).2] at hm'
      cases hm.symm.trans hm'
  | call x =>
      rw [(h.outcomes_eq_nil nofun).2] at hm'
      cases hm.symm.trans hm'

end Goes

namespace Proceeds

variable {m m' : Memory} {ops : List Operation} {t : Transcript}

/-- Operations let the governor see the outcomes of their fetches. -/
theorem tracks {threshold : UInt32} {os : List SourceOutcome} (h : Proceeds m ops t m')
    (hm : m.governor.Tracks threshold os) (hfew : FewInARow (os ++ outcomes t)) :
  m'.governor.Tracks threshold (os ++ outcomes t)
  := by
  induction h generalizing os with
  | nil =>
      rw [outcomes, fetches, List.filterMap_nil, List.map_nil, List.append_nil]
      apply hm
  | cons hop hs ih =>
      rw [outcomes_append, ← List.append_assoc] at hfew ⊢
      apply ih _ hfew
      apply hop.tracks hm
      apply hfew.of_isPrefix (List.prefix_append _ _)

/-- Under an open circuit operations ask the source for nothing, and leave the circuit as it
is. -/
theorem of_terminated (h : Proceeds m ops t m') (hm : m.governor.terminated = true) :
  outcomes t = [] ∧ m'.governor = m.governor
  := by
  induction h with
  | nil => exact ⟨rfl, rfl⟩
  | cons hop hs ih =>
      obtain ⟨hnone, hsame⟩ := hop.of_terminated hm
      rw [← hsame] at hm
      obtain ⟨hnone', hsame'⟩ := ih hm
      rw [outcomes_append, hnone, hnone', hsame', hsame]
      exact ⟨rfl, rfl⟩

/-- Operations open the circuit only by a refusal of the credentials that is the last outcome. -/
theorem refused_of_terminated (h : Proceeds m ops t m') (hm : m.governor.terminated = false)
    (hm' : m'.governor.terminated = true) :
  ∃ front e, outcomes t = front ++ [.error e] ∧ e.isAuthentication = true
  := by
  induction h with
  | nil => cases hm.symm.trans hm'
  | @cons m m₁ _ op _ _ _ hop hs ih =>
      rw [outcomes_append]
      cases hopen : m₁.governor.terminated with
      | false =>
          obtain ⟨front, e, hlast, he⟩ := ih hopen hm'
          exact ⟨_, e, by rw [hlast, List.append_assoc], he⟩
      | true =>
          -- the circuit has opened with this operation, and then no other one asks the source
          rw [(hs.of_terminated hopen).1, List.append_nil]
          apply hop.refused_of_terminated hm hopen

end Proceeds

namespace Job

variable {j : Job} {t : Transcript}

theorem outcomes_of_start (h : j.start.Yields t ()) :
  outcomes t = []
  := by
  obtain ⟨c, t₁, rfl, h₁⟩ := yields_question_bind.mp h
  obtain ⟨_, t₂, rfl, h₂⟩ := yields_question_bind.mp h₁
  obtain rfl := yields_question.mp h₂
  rfl

/-- A run of the job opens the circuit only by a refusal of the credentials that is the last
outcome. -/
theorem refused_of_terminated {rounds : Nat} {m m' : Memory} {o : End}
    (h : (j.run rounds m).Yields t (o, m')) (hm : m.governor.terminated = false)
    (hm' : m'.governor.terminated = true) :
  ∃ front e, outcomes t = front ++ [.error e] ∧ e.isAuthentication = true
  := by
  obtain ⟨t₁, _, t₂, rfl, hstart, hcycles⟩ := yields_bind.mp h
  obtain ⟨ops, hproceeds⟩ := exists_proceeds hcycles
  rw [outcomes_append, outcomes_of_start hstart, List.nil_append]
  apply hproceeds.refused_of_terminated hm hm'

end Job

end LogCourier
