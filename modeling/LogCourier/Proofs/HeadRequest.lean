import LogCourier.Proofs.FailFast

/-!
# Only the request for the newest row opens the circuit

A cycle asks for the newest row first, and if it gets it, there are no failures in a row any more.
As it gives up at the first page that fails, there is at most one when it ends
(`Governor.Spared`). So with a threshold of at least 2 its pages never open the circuit: a cycle
ends with an open circuit for the first time when its request for the newest row is refused
(`Pipeline.tripped_by_head`).
-/

namespace LogCourier

open Dialogue Work
open Rehearsal (World)

/-- A governor whose circuit is closed, and that counts one failure if a fetch failed, and none
otherwise. -/
structure Governor.Spared (g : Governor) (t : Transcript) : Prop where
  closed : g.terminated = false
  counted : Answered t ∧ g.failures = 0 ∨ ¬ Answered t ∧ g.failures = 1

/-- What comes before does not matter if it got pages only. -/
theorem Governor.Spared.prepend {g : Governor} {t t' : Transcript} (h : g.Spared t')
    (ht : Answered t) :
  g.Spared (t ++ t')
  := by
  have hiff : Answered (t ++ t') ↔ Answered t' :=
    answered_append.trans (and_iff_right ht)
  constructor
  · apply h.closed
  · rw [hiff]
    apply h.counted

namespace Polling

variable {g g' : Governor} {r : PageRequest} {t : Transcript} {o : Except Failure QueryLogPage}

/-- A fetch leaves the threshold as it is. -/
theorem threshold_eq (h : (fetch g r).Yields t (o, g')) :
  g'.threshold = g.threshold
  := by
  cases fetched_of_yields h with
  | refused hg => rfl
  | answered hg hn => rfl
  | failed hg hn => apply Governor.threshold_failure

/-- A fetch that gets a page ends the failures in a row. -/
theorem failures_of_ok {page : QueryLogPage} (h : (fetch g r).Yields t (.ok page, g')) :
  g'.failures = 0
  := by
  cases fetched_of_yields h with
  | answered hg hn => rfl

/-- A fetch that gets a page leaves a closed circuit without failures. -/
theorem spared_of_ok {page : QueryLogPage} (h : (fetch g r).Yields t (.ok page, g'))
    {t' : Transcript} (ht : Answered t') :
  g'.Spared t'
  := ⟨terminated_of_ok h, .inl ⟨ht, failures_of_ok h⟩⟩

/-- Under a closed circuit a fetch fails with an error of the source. -/
theorem failed_of_closed {e : Failure} (h : (fetch g r).Yields t (.error e, g'))
    (hg : g.terminated = false) :
  ∃ error, fetches t = [(r, .error error)] ∧ g' = (g.failure error).2
  := by
  cases fetched_of_yields h with
  | refused hopen => cases hg.symm.trans hopen
  | @failed error n _ hn =>
      use error
      rw [fetches_cons, fetches_of_within ((uses_noteFailed _ _).within hn)]
      exact ⟨rfl, rfl⟩

/-- After a success the next fetch does not open the circuit, unless a single failure is enough
for it. -/
theorem spared (h : (fetch g r).Yields t (o, g')) (hg : g.terminated = false)
    (hzero : g.failures = 0) (hthreshold : 2 ≤ g.threshold) :
  g'.Spared t
  := by
  cases o with
  | ok page => apply spared_of_ok h (answered_of_yields_ok h)
  | error e =>
      obtain ⟨error, hfetches, rfl⟩ := failed_of_closed h hg
      constructor
      · rw [← Bool.not_eq_true, Governor.terminated_failure_iff, hzero]
        rintro (hopen | ⟨-, hle⟩)
        · cases hg.symm.trans hopen
        · exact absurd (UInt32.le_trans hthreshold hle) (by decide)
      · refine .inr ⟨?_, by rw [Governor.failures_failure, hzero]; rfl⟩
        rw [Answered, hfetches]
        intro hall
        obtain ⟨page, hpage⟩ := hall _ List.mem_cons_self
        cases hpage

end Polling

/-- Whatever the work does, the threshold stays as it is. -/
theorem Work.Leads.threshold_eq {m m' : Memory} {t : Transcript} (h : Leads m t m') :
  m'.governor.threshold = m.governor.threshold
  := by
  obtain ⟨ops, h⟩ := h
  apply h.preserves (I := fun k => k.governor.threshold = m.governor.threshold) _ rfl
  intro m₁ op t₁ m₂ hop hm₁
  cases hop with
  | poll hf => exact (Polling.threshold_eq hf).trans hm₁
  | hostname h => exact hm₁
  | call h => exact hm₁

namespace Reconciliation

variable {limits : Limits} {cursor : Cursor} {g g' : Governor} {t : Transcript}

/-- After a success a scan does not open the circuit, unless a single failure is enough for it. -/
theorem Scanned.spared {pending : UInt64} {left page : Nat} {collected : List LogEntry}
    {o : Except Failure (List LogEntry) × Governor}
    (h : Scanned limits cursor pending left page g collected t o) (hg : g.terminated = false)
    (hzero : g.failures = 0) (hthreshold : 2 ≤ g.threshold) :
  o.2.Spared t
  := by
  induction h with
  | spent => exact ⟨hg, .inl ⟨smooth_nil.answered, hzero⟩⟩
  | failed hf => apply Polling.spared hf hg hzero hthreshold
  | blank hf hp => apply Polling.spared hf hg hzero hthreshold
  | enough hf hp henough => apply Polling.spared hf hg hzero hthreshold
  | further hf hp hs ih =>
      apply Governor.Spared.prepend _ (Polling.answered_of_yields_ok hf)
      apply ih (Polling.terminated_of_ok hf) (Polling.failures_of_ok hf)
      rw [Polling.threshold_eq hf]
      apply hthreshold

/-- The newest page comes first, and does not matter for what comes after it. -/
theorem spared_of_head {head : QueryLogPage} {g₁ : Governor} {c : Cursor} {t₁ t₂ : Transcript}
    (hf : (Polling.fetch g ⟨1, 1⟩).Yields t₁ (.ok head, g₁))
    (hrest : 2 ≤ g.threshold → g'.Spared t₂) :
  ∃ head, (fetches (⟨.load, c⟩ :: (t₁ ++ t₂))).head? = some (⟨1, 1⟩, .ok head)
    ∧ (2 ≤ g.threshold → g'.Spared (⟨.load, c⟩ :: (t₁ ++ t₂)))
  := by
  refine ⟨head, ?_, ?_⟩
  · rw [fetches_cons_of_ne (by nofun), fetches_append, Polling.fetches_of_yields_ok hf]
    rfl
  · intro hthreshold
    apply Governor.Spared.prepend (t := [⟨.load, c⟩]) _ (List.forall_mem_nil _)
    apply (hrest hthreshold).prepend (Polling.answered_of_yields_ok hf)

/-- Under a closed circuit a reconciliation ends with the request for the newest row, which the
source answers with an error, or it gets the newest page, and then its pages do not open the circuit
unless a single failure is enough for it. -/
theorem Reconciled.head_cases {o : Except Failure Reconciliation}
    (h : Reconciled limits g t (o, g')) (hg : g.terminated = false) :
  (∃ e, fetches t = [(⟨1, 1⟩, .error e)] ∧ g' = (g.failure e).2)
    ∨ ∃ head, (fetches t).head? = some (⟨1, 1⟩, .ok head) ∧ (2 ≤ g.threshold → g'.Spared t)
  := by
  cases h with
  | headFailed hf =>
      obtain ⟨e, hfetches, hg'⟩ := Polling.failed_of_closed hf hg
      exact .inl ⟨e, hfetches, hg'⟩
  | sourceEmpty hf hrow hn =>
      right
      apply spared_of_head hf
      intro _
      apply Polling.spared_of_ok hf (answered_of_within ((uses_log _ _ _).within hn))
  | reset hf hrow hlt hr =>
      right
      apply spared_of_head hf
      intro _
      apply Polling.spared_of_ok hf (answered_of_within (uses_resetCursor.within hr))
  | upToDate hf hrow hn =>
      right
      apply spared_of_head hf
      intro _
      apply Polling.spared_of_ok hf (answered_of_within ((uses_log _ _ _).within hn))
  | harvest hf hrow hlt hh =>
      obtain ⟨n, t₁, s, rfl, hn, hs, -⟩ := scanned_of_yields_harvest hh
      right
      apply spared_of_head hf
      intro hthreshold
      apply Governor.Spared.prepend _ (answered_of_within hn)
      apply hs.spared (Polling.terminated_of_ok hf) (Polling.failures_of_ok hf)
      rw [Polling.threshold_eq hf]
      apply hthreshold

/-- A scan that ends with an open circuit leaves it open. -/
theorem Scanned.terminated_of_circuitOpen {pending : UInt64} {left page : Nat} {n : UInt32}
    {collected : List LogEntry}
    (h : Scanned limits cursor pending left page g collected t (.error (.circuitOpen n), g')) :
  g'.terminated = true
  := by
  generalize ho : (Except.error (Failure.circuitOpen n), g') = o at h
  induction h with
  | spent => cases ho
  | failed hf =>
      cases ho
      apply Polling.terminated_of_circuitOpen hf
  | blank hf hp => cases ho
  | enough hf hp henough => cases ho
  | further hf hp hs ih => apply ih ho

/-- A reconciliation that ends with an open circuit leaves it open, or the store of the cursor
claimed that it is. -/
theorem Reconciled.terminated_of_circuitOpen {n : UInt32}
    (h : Reconciled limits g t (.error (.circuitOpen n), g')) :
  g'.terminated = true ∨ ∃ d, (d, .error (.circuitOpen n)) ∈ writes t
  := by
  cases h with
  | headFailed hf => exact .inl (Polling.terminated_of_circuitOpen hf)
  | reset hf hrow hlt hr =>
      obtain ⟨x, hw, hx⟩ := writes_resetCursor hr
      right
      use .zero
      cases x with
      | ok u => cases hx
      | error e =>
          cases hx
          rw [writes_cons, writes_append, hw]
          simp
  | harvest hf hrow hlt hh =>
      obtain ⟨k, t₁, s, rfl, -, hs, ho⟩ := scanned_of_yields_harvest hh
      cases s with
      | ok entries => cases ho
      | error e =>
          cases ho
          exact .inl hs.terminated_of_circuitOpen

end Reconciliation

namespace Pipeline

variable {p : Pipeline} {m : Memory} {t : Transcript} {a : Account}

/-- A cycle is a reconciliation as far as the source and the governor are concerned. -/
theorem exists_reconciled (h : (p.account m).Yields t a) :
  ∃ t₁ o, Reconciliation.Reconciled p.limits m.governor t₁ (o, a.memory.governor)
    ∧ fetches t = fetches t₁
  := by
  cases accounted_of_yields h with
  | @settled _ r _ _ hr ho => exact ⟨t, r, Reconciliation.reconciled_of_yields hr, rfl⟩
  | @shipped t₁ t₂ _ _ _ _ _ hr hship =>
      refine ⟨t₁, _, Reconciliation.reconciled_of_yields hr, ?_⟩
      rw [fetches_append, fetches_of_within (Shipping.uses_account.within hship), List.append_nil]

/-- A cycle that ends with an open circuit leaves it open, or the store of the cursor claimed that
it is. -/
theorem terminated_of_circuitOpen {n : UInt32} (h : (p.account m).Yields t a)
    (ho : a.outcome = .error (.circuitOpen n)) :
  a.memory.governor.terminated = true ∨ ∃ d, (d, .error (.circuitOpen n)) ∈ writes t
  := by
  cases accounted_of_yields h with
  | settled hr hsettles =>
      cases hsettles <;> cases ho
      apply (Reconciliation.reconciled_of_yields hr).terminated_of_circuitOpen
  | shipped hr hship =>
      obtain ⟨t₁, t₂, rfl, -, hover, hrec⟩ := Shipping.recorded_of_yields_account hship
      right
      cases hrec with
      | nothing hnone => cases ho
      | @written last x hsome =>
          cases x with
          | ok u => cases ho
          | error e =>
              cases ho
              use ⟨last.row⟩
              rw [writes_append, writes_append]
              exact List.mem_append_right _ (List.mem_append_right _ List.mem_cons_self)

/-! ### Rounds -/

/-- A round that gets the newest page begins with a closed circuit. -/
theorem Round.closed_of_head {r : Round p} {x : PageRequest × SourceOutcome}
    (h : (fetches r.transcript).head? = some x) :
  r.memory.governor.terminated = false
  := by
  rw [← Bool.not_eq_true]
  intro hopen
  obtain ⟨ops, hops⟩ := exists_proceeds r.yields
  obtain ⟨hnone, -⟩ := hops.of_terminated hopen
  rw [List.map_eq_nil_iff.mp hnone] at h
  cases h

/-- If a single failure is not enough, the pages of a round that gets the newest page do not open
the circuit. -/
theorem Round.spared_of_head {r : Round p} {head : QueryLogPage}
    (hthreshold : 2 ≤ r.memory.governor.threshold)
    (h : (fetches r.transcript).head? = some (⟨1, 1⟩, .ok head)) :
  r.account.memory.governor.Spared r.transcript
  := by
  obtain ⟨t₁, o, hrec, hfetches⟩ := exists_reconciled r.yields
  have hanswered : Answered r.transcript ↔ Answered t₁ := by
    rw [Answered, Answered, hfetches]
  obtain ⟨e, hrefused, -⟩ | ⟨-, -, hspared⟩ := hrec.head_cases (Round.closed_of_head h)
  · rw [hfetches, hrefused] at h
    cases h
  · obtain ⟨hclosed, hcounted⟩ := hspared hthreshold
    rw [← hanswered] at hcounted
    exact ⟨hclosed, hcounted⟩

/-- If a single failure is not enough, a round opens the circuit with its request for the newest
row, on which the source refuses the credentials. -/
theorem Round.refused_of_opened {r : Round p} (hclosed : r.memory.governor.terminated = false)
    (hthreshold : 2 ≤ r.memory.governor.threshold)
    (hopened : r.account.memory.governor.terminated = true) :
  ∃ e, fetches r.transcript = [(⟨1, 1⟩, .error e)] ∧ e.isAuthentication = true
  := by
  obtain ⟨t₁, o, hrec, hfetches⟩ := exists_reconciled r.yields
  obtain ⟨e, hrefused, hg⟩ | ⟨-, -, hspared⟩ := hrec.head_cases hclosed
  · rw [hg, Governor.terminated_failure_iff] at hopened
    rcases hopened with hopen | ⟨hauth, -⟩
    · cases hclosed.symm.trans hopen
    · exact ⟨e, hfetches.trans hrefused, hauth⟩
  · cases (hspared hthreshold).closed.symm.trans hopened

/-- Until a round ends with an open circuit, it is closed. -/
theorem Continues.closed {before after : List (Round p)} {r : Round p}
    (h : Continues m (before ++ r :: after)) (hm : m.governor.terminated = false)
    (hbefore : ∀ s ∈ before, ∀ n, s.account.outcome ≠ .error (.circuitOpen n)) :
  r.memory.governor.terminated = false
  := by
  induction before generalizing m with
  | nil =>
      obtain ⟨rfl, -⟩ := h
      apply hm
  | cons s before ih =>
      obtain ⟨rfl, hrest⟩ := h
      obtain ⟨hs, hbefore⟩ := List.forall_mem_cons.mp hbefore
      apply ih hrest _ hbefore
      rw [← Bool.not_eq_true]
      intro hopen
      obtain ⟨n, hout, -⟩ := stopped_of_terminated s.yields hopen
      exact hs n hout

/-- Let the threshold be at least 2, and the circuit closed at first. As the store of the cursor
does not claim that the circuit is open, a cycle that gets the newest page does not end with an
open circuit, and leaves the circuit closed with one failure in a row if a page failed, and none
otherwise. The first cycle that ends with an open circuit asked for the newest row only, and the
source refused the credentials. -/
theorem tripped_by_head {rs : List (Round p)} (hrun : Continues m rs)
    (hm : m.governor.terminated = false) (hthreshold : 2 ≤ m.governor.threshold)
    (hstore : ∀ d n, (d, .error (.circuitOpen n)) ∉ writes (transcripts rs)) :
  (∀ r ∈ rs, ∀ head, (fetches r.transcript).head? = some (⟨1, 1⟩, .ok head) →
    (∀ n, r.account.outcome ≠ .error (.circuitOpen n))
      ∧ r.account.memory.governor.terminated = false
      ∧ (Answered r.transcript ∧ r.account.memory.governor.failures = 0
        ∨ ¬ Answered r.transcript ∧ r.account.memory.governor.failures = 1))
    ∧ ∀ before r after n, rs = before ++ r :: after →
      (∀ s ∈ before, ∀ k, s.account.outcome ≠ .error (.circuitOpen k)) →
      r.account.outcome = .error (.circuitOpen n) →
      ∃ e, fetches r.transcript = [(⟨1, 1⟩, .error e)] ∧ e.isAuthentication = true
  := by
  have hround : ∀ before r after, rs = before ++ r :: after →
      2 ≤ r.memory.governor.threshold
        ∧ ∀ d n, (d, .error (.circuitOpen n)) ∉ writes r.transcript := by
    rintro before r after rfl
    constructor
    · rw [hrun.leads.1.threshold_eq]
      apply hthreshold
    · intro d n hw
      apply hstore d n
      rw [transcripts_append, transcripts_cons, writes_append, writes_append]
      exact List.mem_append_right _ (List.mem_append_left _ hw)
  constructor
  · intro r hr head hhead
    obtain ⟨before, after, hrs⟩ := List.append_of_mem hr
    obtain ⟨hlarge, hwrites⟩ := hround before r after hrs
    obtain ⟨hclosed, hcounted⟩ := Round.spared_of_head hlarge hhead
    refine ⟨?_, hclosed, hcounted⟩
    intro n hout
    rcases terminated_of_circuitOpen r.yields hout with hopen | ⟨d, hw⟩
    · cases hclosed.symm.trans hopen
    · exact hwrites d n hw
  · intro before r after n hrs hbefore hout
    obtain ⟨hlarge, hwrites⟩ := hround before r after hrs
    subst hrs
    rcases terminated_of_circuitOpen r.yields hout with hopen | ⟨d, hw⟩
    · apply Round.refused_of_opened (hrun.closed hm hbefore) hlarge hopen
    · exact absurd hw (hwrites d n)

/-- The credentials are refused for a page, and then for the newest row: only the second refusal
opens the circuit, though both were in a row. -/
theorem tripped_by_head_after_page :
  ∃ s r : Round sample, Continues (.new 2) [s, r]
    ∧ (fetches s.transcript).length = 2 ∧ s.account.memory.governor.failures = 1
    ∧ (∀ n, s.account.outcome ≠ .error (.circuitOpen n))
    ∧ r.account.outcome = .error (.circuitOpen 2)
    ∧ ∃ e, fetches r.transcript = [(⟨1, 1⟩, .error e)] ∧ e.isAuthentication = true
  := by
  let w : World := { sampleWorld 0 [2, 1] with
    source := [.plain, .fail ⟨.authentication, "no"⟩, .fail ⟨.authentication, "no"⟩] }
  let s := Round.rehearse isModest_sample (.new 2) w
  let r := Round.rehearse isModest_sample s.account.memory (w.hold (sample.account (.new 2))).2
  have hrun : Continues (.new 2) [s, r] := ⟨rfl, rfl, trivial⟩
  have hwrites : writes (transcripts [s, r]) = [] := by decide +kernel
  have hhead : (fetches s.transcript).head?
      = some (⟨1, 1⟩, .ok (QueryLogPage.ofEntries [sampleEntry 2])) := by decide +kernel
  have hfailed : (⟨1, sample.limits.pageSize⟩, .error ⟨.authentication, "no"⟩)
      ∈ fetches s.transcript := by decide +kernel
  have hout : Failure.of? r.account.outcome = some (.circuitOpen 2) := by decide +kernel
  obtain ⟨hspared, hfirst⟩ := tripped_by_head hrun rfl (by decide) (by rw [hwrites]; nofun)
  obtain ⟨hnot, -, hcounted⟩ := hspared s List.mem_cons_self _ hhead
  refine ⟨s, r, hrun, by decide +kernel, ?_, hnot, Failure.of?_eq_some.mp hout, ?_⟩
  · rcases hcounted with ⟨hanswered, -⟩ | ⟨-, hone⟩
    · obtain ⟨page, hpage⟩ := hanswered _ hfailed
      cases hpage
    · apply hone
  · apply hfirst [s] r [] 2 rfl (List.forall_mem_singleton.mpr hnot)
    exact Failure.of?_eq_some.mp hout

end Pipeline

end LogCourier
