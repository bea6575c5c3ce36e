import LogCourier.Proofs.Governing

/-!
# An open circuit is final

A cycle after which the circuit is open neither pushes nor writes the cursor, and ends with a
fetch that found the circuit open, or opened it (`Pipeline.stopped_of_terminated`). So from such a
fetch on, in every run of the program, nothing is asked of the source and nothing is delivered any
more (`Pipeline.final_of_circuitOpen`).
-/

namespace LogCourier

open Dialogue Work
open Rehearsal (World)

/-- The work ended with a fetch that found the circuit open, or opened it. -/
def Work.Stopped (m : Memory) (t : Transcript) (n : UInt32) (m' : Memory) : Prop :=
  ∃ t₁ m₁ request t₂ g, t = t₁ ++ t₂ ∧ Leads m t₁ m₁
    ∧ (Polling.fetch m₁.governor request).Yields t₂ (.error (.circuitOpen n), g)
    ∧ m' = { m₁ with governor := g }

namespace Work.Stopped

variable {m m' m'' : Memory} {t t' : Transcript} {n : UInt32}

theorem of_fetch {g g' : Governor} {cache : HostnameCache} {r : PageRequest}
    (h : (Polling.fetch g r).Yields t (.error (.circuitOpen n), g')) :
  Stopped ⟨g, cache⟩ t n ⟨g', cache⟩
  := ⟨[], ⟨g, cache⟩, r, t, g', rfl, ⟨[], .nil⟩, h, rfl⟩

theorem of_leads (h : Leads m t m') (hs : Stopped m' t' n m'') :
  Stopped m (t ++ t') n m''
  := by
  obtain ⟨t₁, m₁, request, t₂, g, rfl, hlead, hfetch, rfl⟩ := hs
  exact ⟨t ++ t₁, m₁, request, t₂, g, (List.append_assoc _ _ _).symm, h.append hlead, hfetch, rfl⟩

/-- The circuit is open then, and the count that is told is the one that is kept unless this one
has wrapped around. -/
theorem eq_failures (h : Stopped m t n m') :
  m'.governor.failures ≠ 0 → n = m'.governor.failures
  := by
  obtain ⟨t₁, m₁, request, t₂, g, -, -, hfetch, rfl⟩ := h
  obtain ⟨k, hk, hcount⟩ :=
    Polling.circuitOpen_of_terminated hfetch (Polling.terminated_of_circuitOpen hfetch)
  cases hk
  apply hcount

end Work.Stopped

namespace Reconciliation

variable {limits : Limits} {g g' : Governor} {cache : HostnameCache} {cursor : Cursor}
  {t : Transcript}

/-- A scan after which the circuit is open ended with a fetch that tells so. -/
theorem Scanned.stopped {pending : UInt64} {left page : Nat} {collected : List LogEntry}
    {o : Except Failure (List LogEntry) × Governor}
    (h : Scanned limits cursor pending left page g collected t o) (hg : g.terminated = false)
    (ht : o.2.terminated = true) :
  ∃ n, o.1 = .error (.circuitOpen n) ∧ Stopped ⟨g, cache⟩ t n ⟨o.2, cache⟩
  := by
  induction h with
  | spent => cases hg.symm.trans ht
  | failed hf =>
      obtain ⟨n, he, -⟩ := Polling.circuitOpen_of_terminated hf ht
      cases he
      exact ⟨n, rfl, .of_fetch hf⟩
  | blank hf hp => cases (Polling.terminated_of_ok hf).symm.trans ht
  | enough hf hp henough => cases (Polling.terminated_of_ok hf).symm.trans ht
  | further hf hp hs ih =>
      obtain ⟨n, he, hstop⟩ := ih (Polling.terminated_of_ok hf) ht
      exact ⟨n, he, .of_leads (Leads.poll hf) hstop⟩

/-- A reconciliation after which the circuit is open ended with a fetch that tells so, and did not
touch the cursor. -/
theorem Reconciled.stopped {o : Except Failure Reconciliation} (h : Reconciled limits g t (o, g'))
    (cache : HostnameCache) (ht : g'.terminated = true) :
  ∃ n, o = .error (.circuitOpen n) ∧ writes t = [] ∧ Stopped ⟨g, cache⟩ t n ⟨g', cache⟩
  := by
  have hload : ∀ c, Leads ⟨g, cache⟩ [⟨.load, c⟩] ⟨g, cache⟩ := fun c => Leads.call _
  cases h with
  | headFailed hf =>
      obtain ⟨n, he, -⟩ := Polling.circuitOpen_of_terminated hf ht
      cases he
      refine ⟨n, rfl, ?_, .of_leads (hload _) (.of_fetch hf)⟩
      rw [writes_cons, writes_of_within (Polling.uses_fetch.within hf)]
      rfl
  | sourceEmpty hf hrow hn => cases (Polling.terminated_of_ok hf).symm.trans ht
  | reset hf hrow hlt hr => cases (Polling.terminated_of_ok hf).symm.trans ht
  | upToDate hf hrow hn => cases (Polling.terminated_of_ok hf).symm.trans ht
  | harvest hf hrow hlt hh =>
      have hwithin := uses_harvest.within hh
      obtain ⟨n, t₁, s, rfl, hn, -, hs, rfl⟩ := parts_of_yields_harvest hh
      obtain ⟨k, hk, hstop⟩ := hs.stopped (Polling.terminated_of_ok hf) ht
      obtain rfl : s = .error (.circuitOpen k) := hk
      refine ⟨k, rfl, ?_, .of_leads (hload _) (.of_leads (Leads.poll hf) ?_)⟩
      rotate_left
      · apply Stopped.of_leads (Leads.of_plain plain_noteBacklog hn) hstop
      rw [writes_cons, writes_append, writes_of_within (Polling.uses_fetch.within hf),
        writes_of_within hwithin]
      rfl

end Reconciliation

namespace Pipeline

variable {p : Pipeline} {m : Memory} {t : Transcript} {a : Account}

/-- A cycle after which the circuit is open ended with a fetch that tells so, and it neither pushed
nor wrote the cursor. -/
theorem stopped_of_terminated (h : (p.account m).Yields t a)
    (ht : a.memory.governor.terminated = true) :
  ∃ n, a.outcome = .error (.circuitOpen n) ∧ pushes t = [] ∧ writes t = []
    ∧ Stopped m t n a.memory
  := by
  cases accounted_of_yields h with
  | settled hr ho =>
      obtain ⟨n, rfl, hwrites, hstop⟩ :=
        (Reconciliation.reconciled_of_yields hr).stopped m.hostnames ht
      cases ho
      exact ⟨n, rfl, pushes_of_within (Reconciliation.uses_reconcile.within hr), hwrites, hstop⟩
  | shipped hr hship =>
      obtain ⟨n, he, -⟩ := (Reconciliation.reconciled_of_yields hr).stopped m.hostnames ht
      cases he

/-- Then the failure tells the count that is kept unless this one has wrapped around. -/
theorem of_terminated (h : (p.account m).Yields t a) (ht : a.memory.governor.terminated = true)
    (hne : a.memory.governor.failures ≠ 0) :
  a.outcome = .error (.circuitOpen a.memory.governor.failures) ∧ pushes t = [] ∧ writes t = []
  := by
  obtain ⟨n, hout, hpushes, hwrites, hstop⟩ := stopped_of_terminated h ht
  rw [hstop.eq_failures hne] at hout
  exact ⟨hout, hpushes, hwrites⟩

/-! ### Rounds as operations -/

/-- The rounds before a round of one program take the memory to that of the round. -/
theorem Continues.leads {before after : List (Round p)} {r : Round p}
    (h : Continues m (before ++ r :: after)) :
  Leads m (transcripts before) r.memory ∧ Continues r.account.memory after
  := by
  induction before generalizing m with
  | nil =>
      obtain ⟨rfl, hafter⟩ := h
      exact ⟨⟨[], .nil⟩, hafter⟩
  | cons s before ih =>
      obtain ⟨rfl, hrest⟩ := h
      obtain ⟨hbefore, hafter⟩ := ih hrest
      rw [transcripts_cons]
      exact ⟨Leads.append (exists_proceeds s.yields) hbefore, hafter⟩

/-- Under an open circuit the rounds of one program ask for nothing and deliver nothing. -/
theorem Continues.of_terminated {rs : List (Round p)} (h : Continues m rs)
    (hm : m.governor.terminated = true) (hne : m.governor.failures ≠ 0) :
  fetches (transcripts rs) = [] ∧ pushes (transcripts rs) = [] ∧ writes (transcripts rs) = []
    ∧ ∀ r ∈ rs, r.account.outcome = .error (.circuitOpen m.governor.failures)
  := by
  induction rs generalizing m with
  | nil => exact ⟨rfl, rfl, rfl, List.forall_mem_nil _⟩
  | cons r rs ih =>
      obtain ⟨rfl, hrest⟩ := h
      obtain ⟨ops, hops⟩ := exists_proceeds r.yields
      obtain ⟨hnone, hsame⟩ := hops.of_terminated hm
      obtain ⟨hout, hpushes, hwrites⟩ :=
        Pipeline.of_terminated r.yields (by rw [hsame, hm]) (by rw [hsame]; apply hne)
      rw [← hsame] at hm hne
      obtain ⟨hfetches', hpushes', hwrites', hout'⟩ := ih hrest hm hne
      rw [hsame] at hout hout'
      rw [transcripts_cons, fetches_append, pushes_append, writes_append,
        List.map_eq_nil_iff.mp hnone, hfetches', hpushes, hpushes', hwrites, hwrites']
      exact ⟨rfl, rfl, rfl, List.forall_mem_cons.mpr ⟨hout, hout'⟩⟩

/-- Let a fetch of a run find the circuit open, or open it, while fewer than 2³² failures came in a
row. Then the last outcome of the source was a refusal of the credentials, on which the governor
tripped with the count that is told: it is the number of failures in a row, and at least the
threshold, which is at least 1. Every governor that is fed with all the outcomes so far is
terminated. And the fetch is final: the source is not asked again, neither its cycle nor a later
one pushes or writes the cursor, and all of them end with the same failure. -/
theorem final_of_circuitOpen {threshold n : UInt32} {before later : List (Round p)} {r : Round p}
    {m₁ : Memory} {g : Governor} {request : PageRequest} {t₁ t₂ t₃ : Transcript}
    (hrun : Continues (.new threshold) (before ++ r :: later))
    (ht : r.transcript = t₁ ++ t₂ ++ t₃) (hbefore : Leads r.memory t₁ m₁)
    (hfetch : (Polling.fetch m₁.governor request).Yields t₂ (.error (.circuitOpen n), g))
    (hafter : Leads { m₁ with governor := g } t₃ r.account.memory)
    (hfew : FewInARow (outcomes (transcripts before ++ t₁ ++ t₂))) :
  (∃ os e k, outcomes (transcripts before ++ t₁ ++ t₂) = os ++ [.error e]
      ∧ e.isAuthentication = true ∧ Fed (.new threshold) os k ∧ k.terminated = false
      ∧ (k.failure e).1 = .trip n)
    ∧ n.toNat = failuresInARow (outcomes (transcripts before ++ t₁ ++ t₂))
    ∧ max threshold 1 ≤ n
    ∧ (∀ k, Fed (.new threshold) (outcomes (transcripts before ++ t₁ ++ t₂)) k →
      k.terminated = true)
    ∧ fetches (r.transcript ++ transcripts later) = fetches (t₁ ++ t₂)
    ∧ pushes (r.transcript ++ transcripts later) = []
    ∧ writes (r.transcript ++ transcripts later) = []
    ∧ ∀ s ∈ r :: later, s.account.outcome = .error (.circuitOpen n)
  := by
  obtain ⟨hfirst, hlater⟩ := hrun.leads
  obtain ⟨ops, hops⟩ := hfirst.append (hbefore.append (Leads.poll hfetch))
  rw [List.append_assoc] at hfew ⊢
  -- the governor has seen all outcomes so far, the one of this fetch included
  have htracks : g.Tracks threshold (outcomes (transcripts before ++ (t₁ ++ t₂))) :=
    hops.tracks (Governor.tracks_new threshold) hfew
  have hopen := Polling.terminated_of_circuitOpen hfetch
  have hne := htracks.failures_ne_zero hopen
  have hstop : Stopped m₁ t₂ n { m₁ with governor := g } := Stopped.of_fetch hfetch
  obtain rfl : n = g.failures := hstop.eq_failures hne
  obtain ⟨os, e, k, hos, hfed, hk, htrip, hauth, hle⟩ := htracks.tripped hopen
  obtain ⟨ops', hops'⟩ := hafter
  obtain ⟨hnone, hsame⟩ := hops'.of_terminated hopen
  have hopen' : r.account.memory.governor.terminated = true := by
    rw [hsame]
    apply hopen
  have hne' : r.account.memory.governor.failures ≠ 0 := by
    rw [hsame]
    apply hne
  obtain ⟨hout, hpushes, hwrites⟩ := Pipeline.of_terminated r.yields hopen' hne'
  obtain ⟨hfetches', hpushes', hwrites', hout'⟩ := hlater.of_terminated hopen' hne'
  rw [hsame] at hout hout'
  refine ⟨⟨os, e, k, hos, hauth, hfed, hk, htrip⟩, htracks.failures, hle, ?_, ?_, ?_, ?_,
    List.forall_mem_cons.mpr ⟨hout, hout'⟩⟩
  · intro k hk
    rw [htracks.terminated_eq hk, hopen]
  · rw [ht, fetches_append, fetches_append, List.map_eq_nil_iff.mp hnone, hfetches',
      List.append_nil, List.append_nil]
  · rw [pushes_append, hpushes, hpushes']
    rfl
  · rw [writes_append, hwrites, hwrites']
    rfl

/-- The network fails, then the credentials are refused: with a threshold of 2 the second cycle
trips, and the third one asks for nothing. -/
theorem final_of_circuitOpen_after_two_failures :
  ∃ s r u : Round sample, Continues (.new 2) ([s] ++ r :: [u]) ∧ (fetches r.transcript).length = 1
    ∧ fetches u.transcript = []
    ∧ ∀ x ∈ [r, u], x.account.outcome = .error (.circuitOpen 2)
  := by
  let w : World := { sampleWorld 0 [2, 1] with
    source := [.fail ⟨.network, "down"⟩, .fail ⟨.authentication, "no"⟩] }
  let s := Round.rehearse isModest_sample (.new 2) w
  let w' := (w.hold (sample.account (.new 2))).2
  let r := Round.rehearse isModest_sample s.account.memory w'
  let u := Round.rehearse isModest_sample r.account.memory
    (w'.hold (sample.account s.account.memory)).2
  have hrun : Continues (.new 2) ([s] ++ r :: [u]) := ⟨rfl, rfl, rfl, trivial⟩
  have hopen : r.account.memory.governor.terminated = true := by decide +kernel
  have hcount : r.account.memory.governor.failures = 2 := by decide +kernel
  have hfew : FewInARow (outcomes (transcripts [s] ++ r.transcript)) :=
    fewInARow_of_length_lt (by decide +kernel)
  obtain ⟨n, -, -, -, hstop⟩ := stopped_of_terminated r.yields hopen
  have hn : n = 2 := by
    rw [hstop.eq_failures (by rw [hcount]; decide), hcount]
  obtain ⟨t₁, m₁, request, t₂, g, ht, hlead, hfetch, hmemory⟩ := hstop
  have hend : Leads { m₁ with governor := g } [] r.account.memory := by
    rw [hmemory]
    exact ⟨[], .nil⟩
  rw [ht, ← List.append_assoc] at hfew
  rw [← List.append_nil (t₁ ++ t₂)] at ht
  obtain ⟨-, -, -, -, -, -, -, hout⟩ := final_of_circuitOpen hrun ht hlead hfetch hend hfew
  rw [hn] at hout
  exact ⟨s, r, u, hrun, by decide +kernel, by decide +kernel, hout⟩

end Pipeline

end LogCourier
