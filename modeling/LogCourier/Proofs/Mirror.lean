import LogCourier.Proofs.Events
import LogCourier.Proofs.Gauges
import LogCourier.Proofs.Governing
import LogCourier.Proofs.Nearest
import LogCourier.Proofs.Rehearsals
import LogCourier.Proofs.StoredCursor

/-!
# The gauges mirror the state

Between two operations of a run there are what is remembered, the files, and the metrics
(`Snapshot`). At every such moment after the start of a job that keeps its cursor in a file, the
gauges show the row that can be read from the file, the count of the governor, and the number of
clients whose names are remembered (`Snapshot.Mirrors`, `Job.mirrors_of_run`). This holds of runs
on devices with the events that are recorded there (`Job.mirrors_of_wired_run`).

The count of the governor takes that fewer than 2³² failures come in a row, and the row of the
cursor that the path of the file is steady: otherwise a store that fails may change what can be read
without a word to the metrics (`Job.exists_run_without_mirror`).
-/

namespace LogCourier

open Dialogue (yields_bind yields_question yields_question_bind events events_append events_cons)
open Work (Transcript cursorCalls told outcomes)
open CursorFile (Served History Gets)

/-- What there is between two operations of a run: what is remembered, the files, and the
metrics. -/
structure Snapshot where
  memory : Memory
  files : FileTree
  metrics : Registry

namespace Snapshot

variable {path : String} {P : Snapshot → Prop} {σ σ' : Snapshot} {t : Transcript} {t₀ : FileTree}
  {threshold : UInt32} {os : List SourceOutcome}

/-- An operation takes one moment to the next, with the file of the path as the store of the
cursor. -/
inductive Step (path : String) : Snapshot → Transcript → Snapshot → Prop
  | mk {σ : Snapshot} {op : Operation} {t : Transcript} {m : Memory} {files : FileTree}
      (h : Goes σ.memory op t m) (hserved : Served path σ.files (cursorCalls t) files) :
      Step path σ t ⟨m, files, (told t).foldl Registry.record σ.metrics⟩

/-- One operation after the other takes one moment to another, and all moments have the property,
from the first to the last. -/
inductive Passes (path : String) (P : Snapshot → Prop) : Snapshot → Transcript → Snapshot → Prop
  | nil {σ : Snapshot} (h : P σ) : Passes path P σ [] σ
  | cons {σ σ' σ'' : Snapshot} {t t' : Transcript} (h : P σ) (hstep : Step path σ t σ')
      (hrest : Passes path P σ' t' σ'') : Passes path P σ (t ++ t') σ''

/-- The gauges show the state: the row that can be read from the file, the count of the governor,
and the number of clients whose names are remembered. -/
structure Mirrors (path : String) (σ : Snapshot) : Prop where
  lastRow : ∃ c x, (∀ c', Gets σ.files path c' ↔ c' = c)
    ∧ σ.metrics.get? .lastRow = some (.gauge x) ∧ x.IsNearest c.row.toNat
  consecutiveFailures : ∀ v, σ.metrics.get? .consecutiveFailures = some v →
    ∃ x, v = .gauge x ∧ x.value = σ.memory.governor.failures.toNat
  cacheEntries : ∀ v, σ.metrics.get? .cacheEntries = some v →
    ∃ x, v = .gauge x ∧ x.IsNearest σ.memory.hostnames.size
      ∧ (σ.memory.hostnames.size ≤ 2 ^ 53 → x.value = σ.memory.hostnames.size)
  /-- No client is remembered twice. -/
  clients : (σ.memory.hostnames.names.map Prod.fst).Nodup

/-- What every operation keeps up, after the outcomes of the source. -/
structure Keeps (path : String) (t₀ : FileTree) (threshold : UInt32) (os : List SourceOutcome)
    (σ : Snapshot) : Prop where
  history : ∃ last, History path t₀ last σ.files
  tracks : σ.memory.governor.Tracks threshold os
  clients : (σ.memory.hostnames.names.map Prod.fst).Nodup
  started : (σ.metrics.get? .lastRow).isSome
  lastRow : σ.metrics.Shows .lastRow (.ofNat (σ.files.held path).row.toNat)
  consecutiveFailures :
    σ.metrics.Shows .consecutiveFailures (.ofNat σ.memory.governor.failures.toNat)
  cacheEntries : σ.metrics.Shows .cacheEntries (.ofNat σ.memory.hostnames.size)

theorem Keeps.mirrors (h : Keeps path t₀ threshold os σ) :
  Mirrors path σ
  where
  lastRow := by
    obtain ⟨v, hv⟩ := Option.isSome_iff_exists.mp h.started
    obtain rfl := h.lastRow v hv
    exact ⟨_, _, fun _ => CursorFile.gets_iff, hv, Double.isNearest_ofNat _⟩
  consecutiveFailures := by
    intro v hv
    refine ⟨_, h.consecutiveFailures v hv, Double.value_ofNat ?_⟩
    have hlt := σ.memory.governor.failures.toNat_lt
    omega
  cacheEntries := fun v hv =>
    ⟨_, h.cacheEntries v hv, Double.isNearest_ofNat _, fun hle => Double.value_ofNat hle⟩
  clients := h.clients

theorem Passes.last (h : Passes path P σ t σ') :
  P σ'
  := by
  induction h with
  | nil h => apply h
  | cons _ _ _ ih => apply ih

/-! ### Operations keep the mirror -/

/-- A fetch that asks the source tells of the count of the governor after it, and nothing else of
the state. -/
theorem tells_fetch {g g' : Governor} {r : PageRequest} {o : Except Failure QueryLogPage}
    (h : (Polling.fetch g r).Yields t (o, g')) (hg : g.Tracks threshold os)
    (hfew : FewInARow (os ++ outcomes t)) :
  Tells (·.consecutiveFailures?) (events t) (.ofNat g.failures.toNat) (.ofNat g'.failures.toNat)
    ∧ ∀ e ∈ events t, e.lastRow? = none ∧ e.cacheEntries? = none
  := by
  cases Polling.fetched_of_yields h with
  | refused _ => exact ⟨.unset nofun, nofun⟩
  | answered _ hn =>
      rw [events_cons, events_cons, Polling.events_noteFetched hn]
      exact ⟨.set rfl, List.forall_mem_singleton.mpr ⟨rfl, rfl⟩⟩
  | @failed e n _ hn =>
      have hone : outcomes (⟨.fetch r, .error e⟩ :: n) = [.error e] := by
        rw [Work.outcomes_cons_fetch,
          Work.outcomes_of_within ((Polling.uses_noteFailed _ _).within hn)]
      have hlast := hfew _ List.prefix_rfl
      rw [hone, failuresInARow_concat, ← hg.failures] at hlast
      have hcount : (g.failure e).1.failures = (g.failure e).2.failures := by
        rw [Governor.verdict_failures, Governor.failures_failure, Governor.countAfter_of_lt hlast]
      rw [events_cons, Polling.events_noteFailed hn, hcount]
      exact ⟨.set rfl, List.forall_mem_singleton.mpr ⟨rfl, rfl⟩⟩

/-- The name of a client tells of the number of names after it, and nothing else of the state. -/
theorem tells_hostname {cache cache' : HostnameCache} {client name : String}
    (h : (cache.hostname client).Yields t (name, cache'))
    (hclients : (cache.names.map Prod.fst).Nodup) :
  Tells (·.cacheEntries?) (events t) (.ofNat cache.size) (.ofNat cache'.size)
    ∧ (∀ e ∈ events t, e.lastRow? = none ∧ e.consecutiveFailures? = none)
    ∧ (cache'.names.map Prod.fst).Nodup
  := by
  have hnamed := HostnameCache.named_of_yields h
  generalize events t = es at hnamed ⊢
  cases hnamed with
  | remembered _ => exact ⟨.unset nofun, nofun, hclients⟩
  | learnt hnew =>
      refine ⟨.set rfl, List.forall_mem_singleton.mpr ⟨rfl, rfl⟩, ?_⟩
      change (client :: cache.names.map Prod.fst).Nodup
      apply hclients.cons
      intro hmem
      obtain ⟨p, hp, hclient⟩ := List.mem_map.mp hmem
      have hne := List.lookup_eq_none_iff.mp hnew p hp
      rw [hclient, bne_self_eq_false] at hne
      cases hne

/-- A single call tells of the row of the cursor that is held after it, and nothing else of the
state. -/
theorem tells_call {x : Work.Exchange} {c : Cursor} (h : x.1.IsPlain) :
  Tells (·.lastRow?) (told [x]) (.ofNat c.row.toNat) (.ofNat (Work.persisted c [x]).row.toNat)
    ∧ ∀ e ∈ told [x], e.consecutiveFailures? = none ∧ e.cacheEntries? = none
  := by
  obtain ⟨q, y⟩ := x
  cases q with
  | fetch r => cases h
  | lookup ip => cases h
  | clock => cases h
  | load => exact ⟨.unset nofun, nofun⟩
  | push r => exact ⟨.unset nofun, nofun⟩
  | pause => exact ⟨.unset nofun, nofun⟩
  | store d =>
      cases y with
      | error e => exact ⟨.unset nofun, nofun⟩
      | ok _ => exact ⟨.set rfl, List.forall_mem_singleton.mpr ⟨rfl, rfl⟩⟩
  | note n =>
      cases n with
      | log l => exact ⟨.unset nofun, nofun⟩
      | metric e =>
          have hnone : e.lastRow? = none ∧ e.consecutiveFailures? = none
              ∧ e.cacheEntries? = none := by
            cases e <;> first | exact ⟨rfl, rfl, rfl⟩ | cases h
          exact ⟨.unset (List.forall_mem_singleton.mpr hnone.1),
            List.forall_mem_singleton.mpr hnone.2⟩

/-- What is told of the state keeps the gauges up with it. -/
theorem Keeps.of_tells (h : Keeps path t₀ threshold os σ) {m : Memory} {files : FileTree}
    {es : List MetricEvent} {os' : List SourceOutcome}
    (hhistory : ∃ last, History path t₀ last files) (htracks : m.governor.Tracks threshold os')
    (hclients : (m.hostnames.names.map Prod.fst).Nodup)
    (hrow : Tells (·.lastRow?) es (.ofNat (σ.files.held path).row.toNat)
      (.ofNat (files.held path).row.toNat))
    (hcount : Tells (·.consecutiveFailures?) es (.ofNat σ.memory.governor.failures.toNat)
      (.ofNat m.governor.failures.toNat))
    (hentries : Tells (·.cacheEntries?) es (.ofNat σ.memory.hostnames.size)
      (.ofNat m.hostnames.size)) :
  Keeps path t₀ threshold os' ⟨m, files, es.foldl Registry.record σ.metrics⟩
  where
  history := hhistory
  tracks := htracks
  clients := hclients
  started := Registry.isSome_get?_foldl_record h.started (fun _ e => (Registry.get?_record e).1) es
  lastRow := h.lastRow.foldl_record (fun _ e => (Registry.get?_record e).1) hrow
  consecutiveFailures :=
    h.consecutiveFailures.foldl_record (fun _ e => (Registry.get?_record e).2.1) hcount
  cacheEntries := h.cacheEntries.foldl_record (fun _ e => (Registry.get?_record e).2.2) hentries

/-- Every operation keeps the gauges up with the state. -/
theorem Keeps.step (h : Keeps path t₀ threshold os σ) (hstep : Step path σ t σ') (ht₀ : t₀.IsTree)
    (hsteady : t₀.Steady path) (hfew : FewInARow (os ++ outcomes t)) :
  Keeps path t₀ threshold (os ++ outcomes t) σ'
  := by
  obtain ⟨hgoes, hserved⟩ := hstep
  obtain ⟨last, hhistory⟩ := h.history
  have htracks := hgoes.tracks h.tracks hfew
  cases hgoes with
  | poll hfetch =>
      obtain ⟨hcalls, htold⟩ := Work.told_of_within (Polling.uses_fetch.within hfetch)
      rw [hcalls] at hserved
      cases hserved
      obtain ⟨hcount, hothers⟩ := tells_fetch hfetch h.tracks hfew
      rw [htold]
      exact h.of_tells h.history htracks h.clients (.unset fun e he => (hothers e he).1) hcount
        (.unset fun e he => (hothers e he).2)
  | hostname hname =>
      obtain ⟨hcalls, htold⟩ :=
        Work.told_of_within ((HostnameCache.uses_hostname _ _).within hname)
      rw [hcalls] at hserved
      cases hserved
      obtain ⟨hentries, hothers, hclients⟩ := tells_hostname hname h.clients
      rw [htold]
      exact h.of_tells h.history htracks hclients (.unset fun e he => (hothers e he).1)
        (.unset fun e he => (hothers e he).2) hentries
  | call hplain =>
      obtain ⟨hhistory', hheld, -⟩ := hserved.readsBack hhistory ht₀ hsteady
      obtain ⟨hrow, hothers⟩ := tells_call (c := σ.files.held path) hplain
      rw [← hheld] at hrow
      exact h.of_tells hhistory' htracks h.clients hrow (.unset fun e he => (hothers e he).1)
        (.unset fun e he => (hothers e he).2)

/-- Operations pass through moments at which the gauges show the state. -/
theorem Keeps.passes {m m' : Memory} {ops : List Operation} {files files' : FileTree} {r : Registry}
    (h : Proceeds m ops t m') (hkeeps : Keeps path t₀ threshold os ⟨m, files, r⟩)
    (hserved : Served path files (cursorCalls t) files') (ht₀ : t₀.IsTree)
    (hsteady : t₀.Steady path) (hfew : FewInARow (os ++ outcomes t)) :
  Passes path (Mirrors path) ⟨m, files, r⟩ t ⟨m', files', (told t).foldl Registry.record r⟩
  := by
  induction h generalizing os files r with
  | nil =>
      cases hserved
      exact .nil hkeeps.mirrors
  | @cons _ _ _ _ _ t t' hop hs ih =>
      rw [Work.cursorCalls_append] at hserved
      rw [Work.outcomes_append, ← List.append_assoc] at hfew
      obtain ⟨files₁, hserved₁, hserved₂⟩ := hserved.split
      have hstep : Step path ⟨_, files, r⟩ t ⟨_, files₁, (told t).foldl Registry.record r⟩ :=
        .mk hop hserved₁
      have hkeeps' := hkeeps.step hstep ht₀ hsteady (hfew.of_isPrefix (List.prefix_append _ _))
      rw [Work.told_append, List.foldl_append]
      exact .cons hkeeps.mirrors hstep (ih hkeeps' hserved₂ hfew)

end Snapshot

namespace Job

open CursorFile (workTree five roundabout madeTree)
open Rehearsal (World)
open Snapshot (Keeps Mirrors Passes)

variable {j : Job} {path : String} {threshold : UInt32} {t : Transcript} {files files' : FileTree}

/-- The start of the job sets the gauge for the row of the cursor, and leaves the files as they
are. -/
theorem keeps_of_start (h : j.start.Yields t ())
    (hserved : Served path files (cursorCalls t) files') :
  Keeps path files threshold [] ⟨.new threshold, files', (told t).foldl Registry.record .empty⟩
  := by
  obtain ⟨c, t₁, rfl, h₁⟩ := yields_question_bind.mp h
  obtain ⟨_, t₂, rfl, h₂⟩ := yields_question_bind.mp h₁
  obtain rfl := yields_question.mp h₂
  cases hserved with
  | load hload hs hrest =>
  cases hrest
  obtain rfl := CursorFile.eq_of_load hload.begins hs
  obtain rfl := CursorFile.held_of_load hload hs
  -- one event has been recorded, that of the row
  have hnone : ∀ s, Registry.empty.get? s = none := fun _ => rfl
  obtain ⟨hrow, hcount, hentries⟩ :=
    Registry.get?_record (r := .empty) (.lastRowUpdated (files'.held path).row)
  rw [hnone] at hrow hcount hentries
  refine ⟨⟨none, .start⟩, Governor.tracks_new threshold, List.nodup_nil, ?_, ?_, ?_, ?_⟩
  · exact Option.isSome_iff_exists.mpr ⟨_, hrow⟩
  · intro v hv
    exact (Option.some.inj (hrow.symm.trans hv)).symm
  · intro v hv
    cases hcount.symm.trans hv
  · intro v hv
    cases hentries.symm.trans hv

/-- The cycles of a job pass through moments at which the gauges show the state. -/
theorem passes_of_cycles {rounds : Nat} {o : End} {m : Memory} {t₀ t₁ : Transcript}
    {files₀ : FileTree} (hstart : j.start.Yields t₀ ())
    (hcycles : (j.cycles rounds (.new threshold)).Yields t₁ (o, m))
    (hserved₀ : Served path files (cursorCalls t₀) files₀)
    (hserved₁ : Served path files₀ (cursorCalls t₁) files') (hfiles : files.IsTree)
    (hsteady : files.Steady path) (hfew : FewInARow (outcomes t₁)) :
  Passes path (Mirrors path) ⟨.new threshold, files₀, (told t₀).foldl Registry.record .empty⟩ t₁
    ⟨m, files', (told (t₀ ++ t₁)).foldl Registry.record .empty⟩
  := by
  have hkeeps : Keeps path files threshold [] ⟨.new threshold, files₀,
    (told t₀).foldl Registry.record .empty⟩ := keeps_of_start hstart hserved₀
  obtain ⟨ops, hops⟩ := exists_proceeds hcycles
  rw [Work.told_append, List.foldl_append]
  apply hkeeps.passes hops hserved₁ hfiles hsteady hfew

/-- At every moment after the start of a job that keeps its cursor in a file the gauges show the
state. -/
theorem mirrors_of_run {rounds : Nat} {o : End} {m : Memory}
    (hrun : (j.run rounds (.new threshold)).Yields t (o, m))
    (hserved : Served path files (cursorCalls t) files') (hfiles : files.IsTree)
    (hsteady : files.Steady path) (hfew : FewInARow (outcomes t)) :
  ∃ t₀ t₁ σ, t = t₀ ++ t₁ ∧ j.start.Yields t₀ ()
    ∧ (j.cycles rounds (.new threshold)).Yields t₁ (o, m)
    ∧ σ.memory = .new threshold ∧ Served path files (cursorCalls t₀) σ.files
    ∧ σ.metrics = (told t₀).foldl Registry.record .empty
    ∧ Passes path (Mirrors path) σ t₁ ⟨m, files', (told t).foldl Registry.record .empty⟩
  := by
  obtain ⟨t₀, _, t₁, rfl, hstart, hcycles⟩ := yields_bind.mp hrun
  rw [Work.cursorCalls_append] at hserved
  obtain ⟨files₀, hserved₀, hserved₁⟩ := hserved.split
  rw [Work.outcomes_append, outcomes_of_start hstart] at hfew
  have hpasses := passes_of_cycles hstart hcycles hserved₀ hserved₁ hfiles hsteady hfew
  exact ⟨t₀, t₁, _, rfl, hstart, hcycles, rfl, hserved₀, rfl, hpasses⟩

/-- A job of which the first fetch fails, and that ships two rows then. -/
theorem mirrors_of_run_after_failure :
  ∃ t o m files, (Job.run ⟨Pipeline.sample, 1000⟩ 2 (.new 3)).Yields t (o, m)
    ∧ Served "last_row.txt" (workTree five) (cursorCalls t) files
    ∧ (outcomes t).head? = some (.error ⟨.network, "down"⟩)
    ∧ Mirrors "last_row.txt" ⟨m, files, (told t).foldl Registry.record .empty⟩
    ∧ ((told t).foldl Registry.record .empty).get? .lastRow = some (.gauge (.ofNat 7))
  := by
  let w : World := { Pipeline.sampleWorld 5 [7, 6, 5] with source := [.fail ⟨.network, "down"⟩] }
  let j : Job := ⟨Pipeline.sample, 1000⟩
  let t := (j.run 2 (.new 3)).transcript World.answer w
  have htotal : (j.run 2 (.new 3)).Total := total_run Pipeline.isModest_sample
  have hrun : (j.run 2 (.new 3)).Yields t _ := htotal.yields_result World.answer w
  generalize htotal.result World.answer w = x at hrun
  obtain ⟨o, m⟩ := x
  have hcalls : cursorCalls t = [.load ⟨5⟩, .load ⟨5⟩, .load ⟨5⟩, .store ⟨7⟩ (.ok ())] := by
    decide +kernel
  obtain ⟨s, hload, hs⟩ := CursorFile.exists_load (workTree five) "last_row.txt"
  obtain ⟨s', hstore, hs'⟩ := CursorFile.exists_store_workTree five ⟨7⟩
  rw [CursorFile.held_workTree] at hload
  have hserved : Served "last_row.txt" (workTree five) (cursorCalls t)
      (workTree (Utf8.bytes (Cursor.text ⟨7⟩))) := by
    rw [hcalls]
    exact .load hload hs (.load hload hs (.load hload hs (.store hstore hs' .nil)))
  have hfew : FewInARow (outcomes t) := fewInARow_of_length_lt (by decide +kernel)
  obtain ⟨_, _, _, -, -, -, -, -, -, hpasses⟩ := mirrors_of_run hrun hserved
    (CursorFile.isTree_workTree five) (CursorFile.steady_workTree five) hfew
  exact ⟨t, o, m, _, hrun, hserved, by decide +kernel, hpasses.last, by decide +kernel⟩

/-- A store fails, but the directory that it has made leads the path to a file with another row. -/
theorem exists_run_without_mirror :
  ∃ t o m files, (Job.run ⟨Pipeline.sample, 1000⟩ 1 (.new 3)).Yields t (o, m)
    ∧ Served "last_row.txt.tmp/../last_row.txt" (workTree five) (cursorCalls t) files
    ∧ (workTree five).IsTree ∧ FewInARow (outcomes t)
    ∧ ((told t).foldl Registry.record .empty).get? .lastRow = some (.gauge (.ofNat 0))
    ∧ Gets files "last_row.txt.tmp/../last_row.txt" ⟨5⟩
    ∧ ¬ Mirrors "last_row.txt.tmp/../last_row.txt"
      ⟨m, files, (told t).foldl Registry.record .empty⟩
  := by
  let w : World := { Pipeline.sampleWorld 0 [5] with
    storeFailure := some
      "Failed to write last_row.txt.tmp/../last_row.txt.tmp: Is a directory (os error 21)" }
  let j : Job := ⟨Pipeline.sample, 1000⟩
  let t := (j.run 1 (.new 3)).transcript World.answer w
  have htotal : (j.run 1 (.new 3)).Total := total_run Pipeline.isModest_sample
  have hrun : (j.run 1 (.new 3)).Yields t _ := htotal.yields_result World.answer w
  generalize htotal.result World.answer w = x at hrun
  obtain ⟨o, m⟩ := x
  have hcalls : cursorCalls t = [.load ⟨0⟩, .load ⟨0⟩, .store ⟨5⟩ (.error (.io
      "Failed to write last_row.txt.tmp/../last_row.txt.tmp: Is a directory (os error 21)"))] := by
    decide +kernel
  obtain ⟨s, hload, hs⟩ := CursorFile.exists_load (workTree five) roundabout
  obtain ⟨s', hstore, hs'⟩ := CursorFile.exists_store_roundabout ⟨5⟩
  rw [CursorFile.held_roundabout.1] at hload
  have hserved : Served roundabout (workTree five) (cursorCalls t) madeTree := by
    rw [hcalls]
    exact .load hload hs (.load hload hs (.store hstore hs' .nil))
  have hfew : FewInARow (outcomes t) := fewInARow_of_length_lt (by decide +kernel)
  have hzero : ((told t).foldl Registry.record .empty).get? .lastRow
      = some (.gauge (.ofNat 0)) := by
    decide +kernel
  have hfive : Gets madeTree roundabout ⟨5⟩ :=
    CursorFile.gets_iff.mpr CursorFile.held_roundabout.2.symm
  clear_value t
  refine ⟨t, o, m, madeTree, hrun, hserved, CursorFile.isTree_workTree five, hfew, hzero, hfive, ?_⟩
  intro hmirrors
  obtain ⟨c, x, hgets, hx, hnearest⟩ := hmirrors.lastRow
  obtain rfl := (hgets _).mp hfive
  obtain rfl : Double.ofNat 0 = x := MetricValue.gauge.inj (Option.some.inj (hzero.symm.trans hx))
  -- the double of 5 is nearer to 5 than that of 0
  have hshort : (Double.ofNat 5).mantissa < 2 ^ 53 := by decide
  have hle := hnearest.le _ hshort
  rw [Double.value_ofNat (by decide), Double.value_ofNat (by decide)] at hle
  change |((0 : Nat) : ℚ) - (5 : Nat)| ≤ |((5 : Nat) : ℚ) - (5 : Nat)| at hle
  norm_num at hle

end Job

/-! ### Runs on devices -/

/-- Whether the fetch succeeded that the event tells of, if it tells of one. -/
def MetricEvent.fetched? : MetricEvent → Option Bool
  | fetchSucceeded _ => some true
  | fetchFailed .. => some false
  | _ => none

/-- At no time do the events tell of 2³² failed fetches in a row. -/
def FewRecorded (es : List MetricEvent) : Prop :=
  ∀ os : List SourceOutcome, os.map Except.isOk = es.filterMap MetricEvent.fetched? → FewInARow os

/-- An operation tells of every fetch whether it succeeded. -/
theorem Goes.fetched_told {m m' : Memory} {op : Operation} {t : Transcript} (h : Goes m op t m') :
  (outcomes t).map Except.isOk = (told t).filterMap MetricEvent.fetched?
  := by
  cases h with
  | poll hfetch =>
      rw [(Work.told_of_within (Polling.uses_fetch.within hfetch)).2]
      cases Polling.fetched_of_yields hfetch with
      | refused hg => rfl
      | @answered page time n hg hn =>
          have hrest : Work.Within [.clock, .note] (⟨.clock, time⟩ :: n) :=
            Work.within_cons.mpr ⟨.head _, ((Polling.uses_noteFetched _ _).within hn).mono⟩
          rw [events_cons, events_cons, Polling.events_noteFetched hn, Work.outcomes_cons_fetch,
            Work.outcomes_of_within hrest]
          rfl
      | failed hg hn =>
          rw [events_cons, Polling.events_noteFailed hn, Work.outcomes_cons_fetch,
            Work.outcomes_of_within ((Polling.uses_noteFailed _ _).within hn)]
          rfl
  | hostname hname =>
      have hwithin := (HostnameCache.uses_hostname _ _).within hname
      rw [(Work.told_of_within hwithin).2, Work.outcomes_of_within hwithin]
      have hnamed := HostnameCache.named_of_yields hname
      generalize events t = es at hnamed ⊢
      cases hnamed <;> rfl
  | @call x hplain =>
      obtain ⟨q, y⟩ := x
      cases q with
      | fetch r => cases hplain
      | lookup ip => cases hplain
      | clock => cases hplain
      | load => rfl
      | push r => rfl
      | pause => rfl
      | store c => cases y <;> rfl
      | note n =>
          cases n with
          | log l => rfl
          | metric e => cases e <;> first | rfl | cases hplain

/-- Operations tell of all fetches, in order, whether they succeeded. -/
theorem Proceeds.fetched_told {m m' : Memory} {ops : List Operation} {t : Transcript}
    (h : Proceeds m ops t m') :
  (outcomes t).map Except.isOk = (told t).filterMap MetricEvent.fetched?
  := by
  induction h with
  | nil => rfl
  | cons hop hs ih =>
      rw [Work.outcomes_append, List.map_append, hop.fetched_told, ih, Work.told_append,
        List.filterMap_append]

namespace Job

open Snapshot (Mirrors Passes)

/-- At every moment after the start of a job that is wired to devices the gauges show the state, if
nobody else changes the files. -/
theorem mirrors_of_wired_run {w : Wiring} {j : Job} {rounds : Nat} {threshold : UInt32} {o : End}
    {m : Memory} {s : DeviceWork.Transcript} {files files' : FileTree}
    (hrun : (w.wire (j.run rounds (.new threshold))).Yields s (o, m))
    (hs : files.Evolves s files') (hfiles : files.IsTree) (hsteady : files.Steady w.stateFile)
    (hfew : FewRecorded (events s)) :
  ∃ s₀ s₁ t₁ σ, s = s₀ ++ s₁ ∧ (w.wire j.start).Yields s₀ () ∧ files.Evolves s₀ σ.files
    ∧ σ.memory = .new threshold ∧ σ.metrics = (events s₀).foldl Registry.record .empty
    ∧ (j.cycles rounds (.new threshold)).Yields t₁ (o, m) ∧ told t₁ = events s₁
    ∧ Passes w.stateFile (Mirrors w.stateFile) σ t₁
      ⟨m, files', (events s).foldl Registry.record .empty⟩
  := by
  rw [run, Wiring.wire_bind] at hrun
  obtain ⟨s₀, _, s₁, rfl, hstart, hcycles⟩ := yields_bind.mp hrun
  obtain ⟨files₀, hs₀, hs₁⟩ := FileTree.evolves_append.mp hs
  obtain ⟨t₀, ht₀, hserved₀, htold₀⟩ := Wiring.served_of_yields hstart hs₀
  obtain ⟨t₁, ht₁, hserved₁, htold₁⟩ := Wiring.served_of_yields hcycles hs₁
  obtain ⟨ops, hops⟩ := exists_proceeds ht₁
  have hnone : (told t₀).filterMap MetricEvent.fetched? = [] := by
    obtain ⟨c, t, rfl, hrecord⟩ := yields_question_bind.mp ht₀
    obtain ⟨_, t', rfl, hlog⟩ := yields_question_bind.mp hrecord
    obtain rfl := yields_question.mp hlog
    rfl
  have hfew₁ : FewInARow (outcomes t₁) := by
    apply hfew
    rw [hops.fetched_told, events_append, htold₀, htold₁, List.filterMap_append, hnone,
      List.nil_append]
  have hpasses := passes_of_cycles ht₀ ht₁ hserved₀ hserved₁ hfiles hsteady hfew₁
  rw [Work.told_append, ← htold₀, ← htold₁, ← events_append] at hpasses
  exact ⟨s₀, s₁, t₁, _, rfl, hstart, hs₀, rfl, rfl, ht₁, htold₁.symm, hpasses⟩

end Job

end LogCourier
