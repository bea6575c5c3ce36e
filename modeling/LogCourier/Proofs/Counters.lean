import LogCourier.Proofs.Events
import LogCourier.Proofs.Grouping
import LogCourier.Proofs.Rounds
import Mathlib.Data.UInt

/-!
# What the counters count

The metrics after a run are what its events make of them (`Work.metrics`). A counter is known by
its name, and its total is the sum of all series with that name (`Registry.total`); it grows by the
shares of the events (`tally`), and no gauge gets in its way (`total_metrics`).

Each part of the work adds to the counters what it did: a fetch that failed, a reset, the rows out
of reach once the backlog is sized (`Work.backlog?`), an entry that was formatted or dropped, a
sub-batch that was delivered or refused. So over any rounds the totals are numbers of what the
rounds did, modulo 2⁶⁴ (`Pipeline.counters_conserved`), however the source, the log store, the name
server and the store of the cursor behave.
-/

namespace LogCourier

open Dialogue Work

/-- The counters. -/
inductive Counter
  | queries
  | malformed
  | shipped
  | refusals
  | resets
  | errors
  | authentication
  | unharvested

/-- The name of a counter. -/
def Counter.name : Counter → String
  | queries => "dns_queries_total"
  | malformed => "dns_query_log_malformed_entries_total"
  | shipped => "dns_query_log_entries_shipped_total"
  | refusals => "dns_query_log_sink_failures_total"
  | resets => "dns_query_log_source_resets_total"
  | errors => "api_errors_total"
  | authentication => "authentication_failures_total"
  | unharvested => "dns_query_log_unharvested_rows_total"

/-! ### Totals of a registry -/

/-- The number of a counter; a gauge counts nothing. -/
def MetricValue.number : MetricValue → UInt64
  | counter n => n
  | gauge _ => 0

/-- What a series adds to the total of a name. -/
def worth (name : String) (p : Series × MetricValue) : UInt64 :=
  if p.1.name = name then p.2.number else 0

/-- The sum of all series with a name. -/
def Registry.total (r : Registry) (name : String) : UInt64 :=
  (r.series.map (worth name)).sum

namespace MetricUpdate

/-- What a change adds to the total of a name. -/
def amount (name : String) : MetricUpdate → UInt64
  | increment s n => if s.name = name then n else 0
  | set _ _ => 0

/-- The change sets no gauge of the name. -/
def Spares (name : String) : MetricUpdate → Prop
  | increment _ _ => True
  | set s _ => s.name ≠ name

end MetricUpdate

namespace Registry

variable {r : Registry} {name : String}

/-- If a change of a series adds to what it is worth, then it adds to the sum of all. -/
theorem sum_modifyPairs {s : Series} {f : Option MetricValue → MetricValue} {n : UInt64}
    (hnew : worth name (s, f none) = n)
    (hold : ∀ v, worth name (s, f (some v)) = worth name (s, v) + n)
    (l : List (Series × MetricValue)) :
  ((modifyPairs s f l).map (worth name)).sum = (l.map (worth name)).sum + n
  := by
  induction l with
  | nil =>
      rw [modifyPairs, List.map_singleton, hnew, List.map_nil]
      simp
  | cons p l ih =>
      obtain ⟨t, v⟩ := p
      rw [modifyPairs, List.map_cons, List.sum_cons]
      split
      · next ht =>
        subst ht
        rw [List.map_cons, List.sum_cons, hold]
        ac_rfl
      · rw [List.map_cons, List.sum_cons, ih, UInt64.add_assoc]

theorem total_update {u : MetricUpdate} (h : u.Spares name) :
  (r.update u).total name = r.total name + u.amount name
  := by
  cases u with
  | increment s n =>
      apply sum_modifyPairs
      · rfl
      · intro v
        rw [MetricUpdate.amount, worth, worth]
        by_cases hs : s.name = name
        · rw [if_pos hs, if_pos hs, if_pos hs]
          cases v with
          | counter m => rfl
          | gauge x => exact (UInt64.zero_add n).symm
        · rw [if_neg hs, if_neg hs, if_neg hs]
          rfl
  | set s x =>
      have hworth : ∀ v, worth name (s, v) = 0 := fun v => if_neg h
      apply sum_modifyPairs (hworth _)
      intro v
      rw [hworth, hworth]
      rfl

theorem total_foldl_update {us : List MetricUpdate} (h : ∀ u ∈ us, u.Spares name) :
  (us.foldl update r).total name = r.total name + (us.map (MetricUpdate.amount name)).sum
  := by
  induction us generalizing r with
  | nil =>
      rw [List.foldl_nil, List.map_nil, List.sum_nil, UInt64.add_zero]
  | cons u us ih =>
      obtain ⟨hu, hus⟩ := List.forall_mem_cons.mp h
      rw [List.foldl_cons, ih hus, total_update hu, List.map_cons, List.sum_cons, UInt64.add_assoc]

end Registry

/-! ### Shares of events -/

namespace MetricEvent

/-- What an event adds to a counter. -/
def share : MetricEvent → Counter → UInt64
  | queryProcessed .., .queries => 1
  | malformedEntryDropped, .malformed => 1
  | entriesShipped n, .shipped => n
  | pushFailed, .refusals => 1
  | sourceReset, .resets => 1
  | fetchFailed .., .errors => 1
  | fetchFailed kind _, .authentication => if kind = .authentication then 1 else 0
  | backlogObserved _ n, .unharvested => n
  | _, _ => 0

/-- No event sets a gauge that has the name of a counter. -/
theorem spares_updates (e : MetricEvent) (k : Counter) :
  ∀ u ∈ e.updates, u.Spares k.name
  := by
  cases e with
  | fetchFailed kind failures =>
      cases kind <;> cases k <;>
        simp [updates, count, gauge, MetricUpdate.Spares, Counter.name]
  | backlogObserved pending unharvested =>
      rw [updates]
      split <;> cases k <;> simp [count, gauge, MetricUpdate.Spares, Counter.name]
  | _ => cases k <;> simp [updates, count, gauge, MetricUpdate.Spares, Counter.name]

theorem sum_amount_updates (e : MetricEvent) (k : Counter) :
  (e.updates.map (MetricUpdate.amount k.name)).sum = e.share k
  := by
  cases e with
  | fetchFailed kind failures =>
      cases kind <;> cases k <;> rfl
  | backlogObserved pending unharvested =>
      rw [updates]
      by_cases hn : 0 < unharvested
      · rw [if_pos hn]
        cases k <;> simp [count, gauge, MetricUpdate.amount, Counter.name, share]
      · have hzero : unharvested = 0 := UInt64.le_zero_iff.mp (UInt64.not_lt.mp hn)
        rw [if_neg hn, hzero]
        cases k <;> rfl
  | _ => cases k <;> simp [updates, count, gauge, MetricUpdate.amount, Counter.name, share]

end MetricEvent

namespace Work

variable {t t₁ t₂ : Transcript} {k : Counter}

/-- The metrics after a transcript. -/
def metrics (t : Transcript) : Registry :=
  (events t).foldl Registry.record .empty

/-- What the events of a transcript add to a counter. -/
def tally (t : Transcript) (k : Counter) : UInt64 :=
  ((events t).map fun e => e.share k).sum

@[simp]
theorem tally_append :
  tally (t₁ ++ t₂) k = tally t₁ k + tally t₂ k
  := by
  rw [tally, events_append, List.map_append, List.sum_append]
  rfl

theorem tally_of_events_eq_nil (h : events t = []) :
  tally t k = 0
  := by
  rw [tally, h]
  rfl

theorem tally_of_events_singleton {e : MetricEvent} (h : events t = [e]) :
  tally t k = e.share k
  := by
  rw [tally, h, List.map_singleton, List.sum_singleton]

theorem tally_load {c : Cursor} :
  tally (⟨.load, c⟩ :: t) k = tally t k
  := rfl

/-- The total of a counter is what the events add to it. -/
theorem total_metrics (t : Transcript) (k : Counter) :
  (metrics t).total k.name = tally t k
  := by
  have hfold : ∀ (es : List MetricEvent) (r : Registry),
      (es.foldl Registry.record r).total k.name
        = r.total k.name + (es.map fun e => e.share k).sum := by
    intro es
    induction es with
    | nil => simp
    | cons e es ih =>
        intro r
        rw [List.foldl_cons, ih, Registry.record,
          Registry.total_foldl_update (e.spares_updates k),
          e.sum_amount_updates, List.map_cons, List.sum_cons, UInt64.add_assoc]
  rw [metrics, hfold, tally]
  exact UInt64.zero_add _

end Work

/-! ### Numbers of what was done -/

instance (e : LogEntry) : Decidable e.IsMalformed :=
  match h : e.nanos with
  | .error m => .isTrue ⟨m, h⟩
  | .ok _ => .isFalse fun ⟨_, hm⟩ => nomatch h.symm.trans hm

/-- The number of entries without a readable time. -/
def malformedCount (es : List LogEntry) : Nat :=
  es.countP fun e => e.IsMalformed

/-- The number of entries with a readable time. -/
def readableCount (es : List LogEntry) : Nat :=
  es.countP fun e => ¬ e.IsMalformed

theorem readableCount_add_malformedCount (es : List LogEntry) :
  readableCount es + malformedCount es = es.length
  := by
  rw [readableCount, malformedCount, Nat.add_comm,
    List.length_eq_countP_add_countP fun e : LogEntry => decide e.IsMalformed]
  simp

theorem readableCount_eq_length (es : List LogEntry) :
  readableCount es = (Formatting.readable es).length
  := by
  rw [readableCount, List.countP_eq_length_filter]
  apply congrArg List.length
  apply List.filter_congr
  intro e _
  simp [LogEntry.isMalformed_iff]

/-- The number of failures. -/
def failureCount {α ε β : Type} (xs : List (α × Except ε β)) : Nat :=
  xs.countP fun x => ! x.2.isOk

/-- The number of fetches for which the credentials were refused. -/
def refusalCount (xs : List (PageRequest × Except SourceError QueryLogPage)) : Nat :=
  xs.countP fun x => match x.2 with
    | .error e => e.isAuthentication
    | .ok _ => false

/-- The number of lines that the log store accepted. -/
def acceptedLines (ps : List (PushRequest × Except Failure Unit)) : Nat :=
  ((ps.filter fun x => x.2.isOk).map fun x => x.1.entryCount).sum

/-- The number of sub-batches that were refused. -/
def undelivered (hs : List Handover) : Nat :=
  hs.countP fun h => ! h.outcome.isOk

/-- The entries that were taken up for delivery. -/
def takenUp (hs : List Handover) : List LogEntry :=
  hs.flatMap Handover.batch

/-- The rows that are out of reach of a cycle, if it got as far as sizing its backlog: it read the
cursor, and learnt that the newest row is beyond it. -/
def Work.backlog? (limits : Limits) : Transcript → Option UInt64
  | ⟨.load, c⟩ :: ⟨.fetch _, .ok head⟩ :: _ =>
    match head.latestRow with
    | some row =>
      if c.row < row then
        some (Reconciliation.unharvested (row - c.row) (Reconciliation.pages limits c row)
          limits.pageSize)
      else none
    | none => none
  | _ => none

/-! ### Shares of the parts of the work -/

/-- What fetches add to the counters. -/
def ofFetches (xs : List (PageRequest × Except SourceError QueryLogPage)) : Counter → UInt64
  | .errors => .ofNat (failureCount xs)
  | .authentication => .ofNat (refusalCount xs)
  | _ => 0

/-- What formatting entries adds to the counters. -/
def ofEntries (es : List LogEntry) : Counter → UInt64
  | .queries => .ofNat (readableCount es)
  | .malformed => .ofNat (malformedCount es)
  | _ => 0

/-- What a number of resets adds to the counters. -/
def ofResets (n : Nat) : Counter → UInt64
  | .resets => .ofNat n
  | _ => 0

/-- What the rows out of reach of some cycles add to the counters. -/
def ofBacklogs (ns : List UInt64) : Counter → UInt64
  | .unharvested => ns.sum
  | _ => 0

/-- What handing over sub-batches adds to the counters. -/
def ofHandovers (hs : List Handover) : Counter → UInt64
  | .shipped => .ofNat (delivered hs).flatten.length
  | .refusals => .ofNat (undelivered hs)
  | k => ofEntries (takenUp hs) k

theorem failureCount_append {α ε β : Type} {xs ys : List (α × Except ε β)} :
  failureCount (xs ++ ys) = failureCount xs + failureCount ys
  := List.countP_append

theorem malformedCount_append {es es' : List LogEntry} :
  malformedCount (es ++ es') = malformedCount es + malformedCount es'
  := List.countP_append

theorem acceptedLines_append {ps qs : List (PushRequest × Except Failure Unit)} :
  acceptedLines (ps ++ qs) = acceptedLines ps + acceptedLines qs
  := by
  rw [acceptedLines, List.filter_append, List.map_append, List.sum_append]
  rfl

theorem ofFetches_append {xs ys : List (PageRequest × Except SourceError QueryLogPage)}
    {k : Counter} :
  ofFetches (xs ++ ys) k = ofFetches xs k + ofFetches ys k
  := by
  cases k with
  | errors => rw [ofFetches, failureCount, List.countP_append, UInt64.ofNat_add]; rfl
  | authentication => rw [ofFetches, refusalCount, List.countP_append, UInt64.ofNat_add]; rfl
  | _ => rfl

theorem ofEntries_append {es es' : List LogEntry} {k : Counter} :
  ofEntries (es ++ es') k = ofEntries es k + ofEntries es' k
  := by
  cases k with
  | queries => rw [ofEntries, readableCount, List.countP_append, UInt64.ofNat_add]; rfl
  | malformed => rw [ofEntries, malformedCount, List.countP_append, UInt64.ofNat_add]; rfl
  | _ => rfl

theorem ofResets_add {n n' : Nat} {k : Counter} :
  ofResets (n + n') k = ofResets n k + ofResets n' k
  := by
  cases k with
  | resets => apply UInt64.ofNat_add
  | _ => rfl

theorem ofBacklogs_append {ns ns' : List UInt64} {k : Counter} :
  ofBacklogs (ns ++ ns') k = ofBacklogs ns k + ofBacklogs ns' k
  := by
  cases k with
  | unharvested => apply List.sum_append
  | _ => rfl

theorem ofHandovers_append {hs hs' : List Handover} {k : Counter} :
  ofHandovers (hs ++ hs') k = ofHandovers hs k + ofHandovers hs' k
  := by
  have htaken : takenUp (hs ++ hs') = takenUp hs ++ takenUp hs' := List.flatMap_append
  cases k with
  | shipped =>
      simp only [ofHandovers, delivered, List.filter_append, List.map_append, List.flatten_append,
        List.length_append, UInt64.ofNat_add]
  | refusals => rw [ofHandovers, undelivered, List.countP_append, UInt64.ofNat_add]; rfl
  | _ => simp only [ofHandovers, htaken, ofEntries_append]

namespace Polling

variable {g g' : Governor} {r : PageRequest} {t : Transcript} {o : Except Failure QueryLogPage}
  {k : Counter}

theorem tally_fetch (h : (fetch g r).Yields t (o, g')) :
  tally t k = ofFetches (fetches t) k
  := by
  cases fetched_of_yields h with
  | refused hg => cases k <;> rfl
  | @answered page time n hg hn =>
      have hfetches : fetches n = [] := fetches_of_within ((uses_noteFetched _ _).within hn)
      have hevents : events (⟨.fetch r, .ok page⟩ :: ⟨.clock, time⟩ :: n)
          = [.fetchSucceeded (.ratio time 1000)] := (events_noteFetched hn : events n = _)
      rw [tally_of_events_singleton hevents, fetches_cons, fetches_cons, hfetches]
      cases k <;> rfl
  | @failed e n hg hn =>
      have hfetches : fetches n = [] := fetches_of_within ((uses_noteFailed _ _).within hn)
      have hevents : events (⟨.fetch r, .error e⟩ :: n) = [.fetchFailed e.kind _] :=
        (events_noteFailed hn : events n = _)
      rw [tally_of_events_singleton hevents, fetches_cons, hfetches]
      obtain ⟨kind, detail⟩ := e
      cases k <;> cases kind <;> rfl

/-- A fetch that gets a page asks the source first. -/
theorem exists_cons_of_ok {page : QueryLogPage} (h : (fetch g r).Yields t (.ok page, g')) :
  ∃ rest, t = ⟨.fetch r, .ok page⟩ :: rest
  := by
  cases fetched_of_yields h with
  | answered hg hn => exact ⟨_, rfl⟩

/-- A fetch that fails does not begin with a page. -/
theorem backlog?_of_error {limits : Limits} {c : Cursor} {e : Failure}
    (h : (fetch g r).Yields t (.error e, g')) :
  backlog? limits (⟨.load, c⟩ :: t) = none
  := by
  cases fetched_of_yields h with
  | refused hg => rfl
  | failed hg hn => rfl

end Polling

namespace Reconciliation

variable {limits : Limits} {g g' : Governor} {c cursor : Cursor} {row : UInt64} {t : Transcript}
  {k : Counter}

theorem Scanned.tally_eq {pending : UInt64} {left page : Nat} {collected : List LogEntry}
    {o : Except Failure (List LogEntry) × Governor}
    (h : Scanned limits cursor pending left page g collected t o) :
  tally t k = ofFetches (fetches t) k
  := by
  induction h with
  | spent => cases k <;> rfl
  | failed hf => apply Polling.tally_fetch hf
  | blank hf hp => apply Polling.tally_fetch hf
  | enough hf hp henough => apply Polling.tally_fetch hf
  | further hf hp hs ih =>
      rw [tally_append, Polling.tally_fetch hf, ih, fetches_append, ofFetches_append]

/-- The outcome of a reconciliation is that the cursor was set to 0. -/
def isReset : Except Failure Reconciliation → Bool
  | .ok (.reset ..) => true
  | _ => false

theorem isReset_of_resetCursor {o : Except Failure Reconciliation}
    (h : (resetCursor cursor row).Yields t o) :
  isReset o = o.isOk
  := by
  obtain ⟨x, -, rfl⟩ := writes_resetCursor h
  cases x <;> rfl

/-- What a reconciliation adds to the counters: its fetches, a reset, and the rows out of reach. -/
def ofReconciliation (limits : Limits) (t : Transcript) (o : Except Failure Reconciliation)
    (k : Counter) : UInt64 :=
  ofFetches (fetches t) k + ofResets (isReset o).toNat k + ofBacklogs (backlog? limits t).toList k

/-- After a page that names the newest row, the backlog is known if this row is beyond the
cursor. -/
theorem backlog?_of_ok {head : QueryLogPage} {t' : Transcript}
    (h : (Polling.fetch g ⟨1, 1⟩).Yields t (.ok head, g')) :
  backlog? limits (⟨.load, c⟩ :: (t ++ t'))
    = head.latestRow.bind fun row =>
      if c.row < row then some (unharvested (row - c.row) (pages limits c row) limits.pageSize)
      else none
  := by
  obtain ⟨rest, rfl⟩ := Polling.exists_cons_of_ok h
  rw [List.cons_append, backlog?]
  cases head.latestRow <;> rfl

/-- A reconciliation without a reset and without a backlog adds its fetches only. -/
theorem ofReconciliation_of_none {o : Except Failure Reconciliation} (ho : isReset o = false)
    (hb : backlog? limits t = none) :
  ofReconciliation limits t o k = ofFetches (fetches t) k
  := by
  rw [ofReconciliation, ho, hb]
  cases k <;> simp [ofResets, ofBacklogs]

/-- A reconciliation that ends with a log line adds its fetch only. -/
theorem tally_of_log {head : QueryLogPage} {n : Transcript} {o : Except Failure Reconciliation}
    {level : LogLevel} {message : String} {fields : List (String × FieldValue)}
    (hf : (Polling.fetch g ⟨1, 1⟩).Yields t (.ok head, g'))
    (hn : (Work.log level message fields).Yields n ()) (ho : isReset o = false)
    (hb : backlog? limits (⟨.load, c⟩ :: (t ++ n)) = none) :
  tally (⟨.load, c⟩ :: (t ++ n)) k = ofReconciliation limits (⟨.load, c⟩ :: (t ++ n)) o k
  := by
  have hfetches : fetches (⟨.load, c⟩ :: (t ++ n)) = fetches t := by
    rw [fetches_cons_of_ne (by nofun), fetches_append,
      fetches_of_within ((uses_log _ _ _).within hn), List.append_nil]
  rw [ofReconciliation_of_none ho hb, hfetches, tally_load, tally_append, Polling.tally_fetch hf,
    tally_of_events_eq_nil (events_of_log hn), UInt64.add_zero]

theorem Reconciled.tally_eq {o : Except Failure Reconciliation}
    (h : Reconciled limits g t (o, g')) :
  tally t k = ofReconciliation limits t o k
  := by
  cases h with
  | @headFailed c t e g' hf =>
      rw [ofReconciliation_of_none rfl (Polling.backlog?_of_error hf), tally_load]
      apply Polling.tally_fetch hf
  | @sourceEmpty c t n head g' hf hrow hn =>
      apply tally_of_log hf hn rfl
      rw [backlog?_of_ok hf, hrow]
      rfl
  | @upToDate c t n head g' hf hrow hn =>
      apply tally_of_log hf hn rfl
      rw [backlog?_of_ok hf, hrow]
      exact if_neg (UInt64.lt_irrefl _)
  | @reset c t t' head g' row o hf hrow hlt hr =>
      have hnone : backlog? limits (⟨.load, c⟩ :: (t ++ t')) = none := by
        rw [backlog?_of_ok hf, hrow]
        exact if_neg fun hgt => UInt64.lt_asymm hlt hgt
      rw [ofReconciliation, hnone, fetches_cons_of_ne (by nofun), fetches_append,
        fetches_of_within (uses_resetCursor.within hr), List.append_nil, tally_load, tally_append,
        Polling.tally_fetch hf, tally, events_resetCursor hr, isReset_of_resetCursor hr,
        UInt64.add_assoc]
      cases o <;> cases k <;> rfl
  | @harvest c t t' head g₁ row _ hf hrow hlt hh =>
      obtain ⟨n, t₁, s, rfl, hn, -, hs, rfl⟩ := parts_of_yields_harvest hh
      have hreset : isReset (s.map fun entries => .newEntries (harvestOf limits c row entries))
          = false := by
        cases s <;> rfl
      have hsome : backlog? limits (⟨.load, c⟩ :: (t ++ (n ++ t₁)))
          = some (unharvested (row - c.row) (pages limits c row) limits.pageSize) := by
        rw [backlog?_of_ok hf, hrow]
        exact if_pos hlt
      rw [ofReconciliation, hreset, hsome, fetches_cons_of_ne (by nofun), fetches_append,
        fetches_append, fetches_of_within (uses_noteBacklog.within hn), List.nil_append,
        ofFetches_append, tally_load, tally_append, tally_append, Polling.tally_fetch hf,
        hs.tally_eq, tally_of_events_singleton (events_noteBacklog hn)]
      cases k <;> simp [ofFetches, ofResets, ofBacklogs, MetricEvent.share]

/-- A reconciliation that finds new entries has sized its backlog. -/
theorem Reconciled.backlog?_eq {harvest : Harvest}
    (h : Reconciled limits g t (.ok (.newEntries harvest), g')) (t' : Transcript) :
  backlog? limits (t ++ t') = some harvest.unharvested
  := by
  cases h with
  | reset hf hrow hlt hr =>
      obtain ⟨x, -, hx⟩ := writes_resetCursor hr
      cases x <;> cases hx
  | harvest hf hrow hlt hh =>
      obtain ⟨n, t₁, s, rfl, hn, -, hs, ho⟩ := parts_of_yields_harvest hh
      cases s with
      | error e => cases ho
      | ok entries =>
          cases ho
          rw [List.cons_append, List.append_assoc, backlog?_of_ok hf, hrow]
          exact if_pos hlt

end Reconciliation

/-! ### Formatting and handing over -/

namespace Formatting

variable {job : String} {cache cache' : HostnameCache} {entries : List LogEntry} {t : Transcript}
  {k : Counter}

theorem tally_hostname {client name : String}
    (h : (cache.hostname client).Yields t (name, cache')) :
  tally t k = 0
  := by
  have hnamed := HostnameCache.named_of_yields h
  generalize hes : events t = es at hnamed
  cases hnamed with
  | remembered hknown => apply tally_of_events_eq_nil hes
  | learnt hnew =>
      rw [tally_of_events_singleton hes]
      cases k <;> rfl

/-- Every entry is counted as one that joined a stream or as one that was left out. -/
theorem tally_group {streams streams' : List LogStream}
    (h : (group job entries cache streams).Yields t (streams', cache')) :
  tally t k = ofEntries entries k
  := by
  induction entries generalizing cache streams t with
  | nil =>
      obtain ⟨rfl, -⟩ := yields_pure.mp h
      cases k <;> rfl
  | cons e entries ih =>
      rw [← List.singleton_append, ofEntries_append]
      rw [group] at h
      split at h
      · next m hm =>
        obtain ⟨n, u, t', rfl, hn, hr⟩ := yields_bind.mp h
        have hbad : e.IsMalformed := ⟨m, hm⟩
        rw [tally_append, tally_of_events_singleton (events_noteMalformed hn), ih hr]
        cases k <;> simp [ofEntries, readableCount, malformedCount, MetricEvent.share, hbad]
      · next nanos hnanos =>
        obtain ⟨n, x, t', rfl, hn, hr⟩ := yields_bind.mp h
        obtain ⟨n', u, t'', rfl, hn', hr⟩ := yields_bind.mp hr
        have hgood : ¬ e.IsMalformed := by
          rintro ⟨m, hm⟩
          cases hm.symm.trans hnanos
        rw [tally_append, tally_append, tally_hostname hn,
          tally_of_events_singleton (events_of_record hn'), ih hr, UInt64.zero_add]
        cases k <;> simp [ofEntries, readableCount, malformedCount, MetricEvent.share, hgood]

theorem tally_format {request : PushRequest}
    (h : (format job cache entries).Yields t (request, cache')) :
  tally t k = ofEntries entries k
  := by
  obtain ⟨t₁, x, t₂, rfl, hg, hr⟩ := yields_bind.mp h
  obtain ⟨rfl, -⟩ := yields_pure.mp hr
  rw [List.append_nil]
  apply tally_group hg

end Formatting

namespace Shipping

variable {job : String} {total sent : Nat} {cache cache' : HostnameCache} {batch : List LogEntry}
  {batches : List (List LogEntry)} {t : Transcript} {k : Counter}

theorem tally_deliver {o : Except Failure Unit}
    (h : (deliver job cache batch).Yields t (o, cache')) :
  tally t k = ofEntries batch k
  := by
  cases sent_of_yields h with
  | nothing hn he => apply Formatting.tally_format hn
  | pushed hn he =>
      rw [tally_append, Formatting.tally_format hn]
      apply UInt64.add_zero

/-- If nothing can be said of the entries, then none has a readable time. -/
theorem readableCount_eq_zero {es : List LogEntry} (h : ∀ e ∈ es, e.IsMalformed) :
  readableCount es = 0
  := by
  rw [readableCount_eq_length, Formatting.readable_eq_nil_iff.mpr h]
  rfl

/-- The lines that the log store accepts are those of the entries with a readable time in a
sub-batch that is delivered. -/
theorem lines_deliver {o : Except Failure Unit}
    (h : (deliver job cache batch).Yields t (o, cache')) :
  acceptedLines (pushes t) = (if o.isOk then readableCount batch else 0)
    ∧ failureCount (pushes t) = (! o.isOk).toNat
  := by
  cases sent_of_yields h with
  | nothing hn he =>
      have hbad := (Formatting.isEmpty_iff_of_yields_format hn).mp he
      rw [pushes_of_within (Formatting.uses_format.within hn), readableCount_eq_zero hbad]
      exact ⟨rfl, rfl⟩
  | @pushed n request cache' r hn he =>
      rw [pushes_append, pushes_of_within (Formatting.uses_format.within hn),
        readableCount_eq_length, ← Formatting.entryCount_of_yields_format hn]
      cases o <;> exact ⟨rfl, rfl⟩

theorem HandedOver.tally_eq {o : List Handover × HostnameCache}
    (h : HandedOver job total batches cache sent t o) :
  tally t k = ofHandovers o.1 k
  := by
  induction h with
  | nil => cases k <;> rfl
  | @accepted batch _ _ _ _ _ _ _ _ hs hd hn hr ih =>
      rw [← List.singleton_append, ofHandovers_append, tally_append, tally_append, tally_deliver hd,
        tally_of_events_singleton (events_noteDelivered hn), ih]
      congr 1
      cases k <;> simp [ofEntries, ofHandovers, MetricEvent.share, takenUp, delivered, undelivered,
        Except.isOk, Except.toBool]
  | @refused batch _ _ _ _ _ _ e hd hn =>
      rw [tally_append, tally_deliver hd, tally_of_events_singleton (events_noteRefused hn)]
      cases k <;> simp [ofEntries, ofHandovers, MetricEvent.share, takenUp, delivered, undelivered,
        Except.isOk, Except.toBool]

/-- The lines that the log store accepts and the malformed entries of the delivered sub-batches are
all entries of these; a push fails for every sub-batch that is refused, and at most one is. -/
theorem HandedOver.lines_eq {o : List Handover × HostnameCache}
    (h : HandedOver job total batches cache sent t o) :
  acceptedLines (pushes t) + malformedCount (delivered o.1).flatten
      = (delivered o.1).flatten.length
    ∧ failureCount (pushes t) = undelivered o.1 ∧ undelivered o.1 ≤ 1
  := by
  have hnotes : ∀ {d : Work Unit} {n : Transcript}, Uses [.note] d → d.Yields n () →
      pushes n = [] := fun hd hn => pushes_of_within (hd.within hn)
  induction h with
  | nil => exact ⟨rfl, rfl, Nat.zero_le 1⟩
  | @accepted batch _ _ _ _ _ _ _ _ hs hd hn hr ih =>
      obtain ⟨hlines, hfailed⟩ := lines_deliver hd
      obtain ⟨ih, ihfailed, hone⟩ := ih
      have hn := hnotes ((uses_record _).bind fun _ => uses_log _ _ _) hn
      have hcount := readableCount_add_malformedCount batch
      rw [pushes_append, pushes_append, hn, List.append_nil, acceptedLines_append,
        failureCount_append, hlines, hfailed, delivered_cons_ok, List.flatten_cons,
        malformedCount_append, List.length_append, ihfailed, ← ih, ← hcount]
      exact ⟨Nat.add_add_add_comm _ _ _ _, Nat.zero_add _, hone⟩
  | @refused batch _ _ _ _ _ _ e hd hn =>
      obtain ⟨hlines, hfailed⟩ := lines_deliver hd
      have hn := hnotes ((uses_record _).bind fun _ => uses_log _ _ _) hn
      rw [pushes_append, hn, List.append_nil, hlines, hfailed]
      exact ⟨rfl, rfl, Nat.le_refl 1⟩

variable {limits : Limits} {entries : List LogEntry} {hs : List Handover}
  {r : Except Failure ShipReport}

theorem tally_account (h : (account limits job cache entries).Yields t (r, hs, cache')) :
  tally t k = ofHandovers hs k
  := by
  obtain ⟨t₁, t₂, rfl, -, hover, hrec⟩ := recorded_of_yields_account h
  rw [tally_append, hover.tally_eq]
  cases hrec <;> apply UInt64.add_zero

theorem lines_account (h : (account limits job cache entries).Yields t (r, hs, cache')) :
  acceptedLines (pushes t) + malformedCount (delivered hs).flatten = (delivered hs).flatten.length
    ∧ failureCount (pushes t) = undelivered hs ∧ undelivered hs ≤ 1
  := by
  obtain ⟨t₁, t₂, rfl, -, hover, hrec⟩ := recorded_of_yields_account h
  rw [pushes_append, pushes_of_within hrec.within, List.append_nil]
  apply hover.lines_eq

end Shipping

/-! ### Cycles and runs -/

namespace Pipeline

variable {p : Pipeline} {m : Memory} {t : Transcript} {a : Account} {k : Counter}

/-- What a cycle adds to the counters. -/
theorem tally_account (h : (p.account m).Yields t a) :
  tally t k = ofFetches (fetches t) k + ofResets (if a.IsReset then 1 else 0) k
    + ofBacklogs (backlog? p.limits t).toList k + ofHandovers a.handovers k
  := by
  cases accounted_of_yields h with
  | settled hr ho =>
      have hnothing : ofHandovers [] k = 0 := by cases k <;> rfl
      rw [(Reconciliation.reconciled_of_yields hr).tally_eq, Reconciliation.ofReconciliation,
        hnothing, UInt64.add_zero]
      congr 3
      cases ho with
      | reset => exact (if_pos ⟨_, _, rfl⟩).symm
      | failed => exact (if_neg fun ⟨_, _, ho⟩ => nomatch ho).symm
      | sourceEmpty => exact (if_neg fun ⟨_, _, ho⟩ => nomatch ho).symm
      | upToDate => exact (if_neg fun ⟨_, _, ho⟩ => nomatch ho).symm
  | @shipped t t' harvest g r hs cache hr hship =>
      have hreconciled := Reconciliation.reconciled_of_yields hr
      have hreset : ¬ (Account.mk (r.map (.shipped harvest)) ⟨g, cache⟩ hs).IsReset := by
        rintro ⟨c, row, ho⟩
        cases r <;> cases ho
      have hfetches : fetches t' = [] := fetches_of_within (Shipping.uses_account.within hship)
      have hbacklog := hreconciled.backlog?_eq []
      rw [List.append_nil] at hbacklog
      rw [tally_append, hreconciled.tally_eq, Shipping.tally_account hship,
        Reconciliation.ofReconciliation, hbacklog, hreconciled.backlog?_eq, if_neg hreset,
        fetches_append, hfetches, List.append_nil]
      rfl

/-- The sub-batches that were taken up for delivery. -/
def handovers (rs : List (Round p)) : List Handover :=
  rs.flatMap fun r => r.account.handovers

/-- What rounds add to the counters. -/
theorem tally_transcripts (rs : List (Round p)) :
  tally (transcripts rs) k = ofFetches (fetches (transcripts rs)) k
    + ofResets (rs.countP fun r => r.account.IsReset) k
    + ofBacklogs (rs.filterMap fun r => backlog? p.limits r.transcript) k
    + ofHandovers (handovers rs) k
  := by
  induction rs with
  | nil => cases k <;> rfl
  | cons r rs ih =>
      have hbacklogs : ((r :: rs).filterMap fun r => backlog? p.limits r.transcript)
          = (backlog? p.limits r.transcript).toList
            ++ rs.filterMap fun r => backlog? p.limits r.transcript := by
        cases hb : backlog? p.limits r.transcript with
        | none => exact List.filterMap_cons_none hb
        | some n => exact List.filterMap_cons_some hb
      have hresets : ((r :: rs).countP fun r => r.account.IsReset)
          = (if r.account.IsReset then 1 else 0) + rs.countP fun r => r.account.IsReset := by
        rw [List.countP_cons, Nat.add_comm]
        simp
      have hhandovers : handovers (r :: rs) = r.account.handovers ++ handovers rs :=
        List.flatMap_cons
      rw [transcripts_cons, tally_append, tally_account r.yields, ih, fetches_append,
        ofFetches_append, hbacklogs, ofBacklogs_append, hresets, ofResets_add, hhandovers,
        ofHandovers_append]
      ac_rfl

theorem lines_of_yields (h : (p.account m).Yields t a) :
  acceptedLines (pushes t) + malformedCount a.delivered.flatten = a.delivered.flatten.length
    ∧ failureCount (pushes t) = undelivered a.handovers ∧ undelivered a.handovers ≤ 1
  := by
  cases accounted_of_yields h with
  | settled hr ho =>
      rw [pushes_of_within (Reconciliation.uses_reconcile.within hr)]
      exact ⟨rfl, rfl, Nat.zero_le 1⟩
  | shipped hr hship =>
      rw [pushes_append, pushes_of_within (Reconciliation.uses_reconcile.within hr)]
      apply Shipping.lines_account hship

/-- The lines that the log store accepts and the malformed entries of the delivered sub-batches of
rounds are all entries of these, and a push fails for every sub-batch that is refused. -/
theorem lines_transcripts (rs : List (Round p)) :
  acceptedLines (pushes (transcripts rs)) + malformedCount (delivered (handovers rs)).flatten
      = (delivered (handovers rs)).flatten.length
    ∧ failureCount (pushes (transcripts rs)) = undelivered (handovers rs)
  := by
  induction rs with
  | nil => exact ⟨rfl, rfl⟩
  | cons r rs ih =>
      obtain ⟨hlines, hfailed, -⟩ := lines_of_yields r.yields
      have hdelivered : (delivered (handovers (r :: rs))).flatten
          = r.account.delivered.flatten ++ (delivered (handovers rs)).flatten := by
        simp only [handovers, List.flatMap_cons, Account.delivered, delivered, List.filter_append,
          List.map_append, List.flatten_append]
      have hundelivered : undelivered (handovers (r :: rs))
          = undelivered r.account.handovers + undelivered (handovers rs) := List.countP_append
      rw [transcripts_cons, pushes_append, acceptedLines_append, failureCount_append, hdelivered,
        malformedCount_append, List.length_append, hundelivered, hfailed, ih.2, ← hlines, ← ih.1]
      exact ⟨Nat.add_add_add_comm _ _ _ _, rfl⟩

/-- The rows out of reach of a cycle are those that it reports if it ships. -/
theorem backlog?_of_shipment {harvest : Harvest} {report : ShipReport}
    (h : (p.account m).Yields t a) (hs : a.shipment = some (harvest, report)) :
  backlog? p.limits t = some harvest.unharvested
  := by
  have hout := Account.shipment_eq_some.mp hs
  cases accounted_of_yields h with
  | settled hr ho =>
      cases hout
      cases ho
  | @shipped _ _ _ _ r _ _ hr hship =>
      cases r with
      | error e => cases hout
      | ok report =>
          cases hout
          apply (Reconciliation.reconciled_of_yields hr).backlog?_eq

/-- Over any rounds, whatever the source, the log store, the name server and the store of the
cursor do, the counters are numbers of what was done, modulo 2⁶⁴. The entries shipped are those of
the delivered sub-batches, which are the lines that the log store accepted and the malformed
entries of these sub-batches; the queries and the malformed entries are the entries of all
sub-batches that were taken up, delivered or not; the failures of the sink are the sub-batches that
were refused, at most one in a cycle, and as many pushes failed; the resets are the cycles with
this outcome; the errors are the fetches that failed, and the refusals of the credentials are those
among them. The rows out of reach add up over all cycles that got as far as sizing their backlog,
also over those that failed later; a cycle that ships reports them. -/
theorem counters_conserved (rs : List (Round p)) :
  (metrics (transcripts rs)).total "dns_query_log_entries_shipped_total"
      = .ofNat (delivered (handovers rs)).flatten.length
    ∧ (delivered (handovers rs)).flatten.length
      = acceptedLines (pushes (transcripts rs)) + malformedCount (delivered (handovers rs)).flatten
    ∧ (metrics (transcripts rs)).total "dns_queries_total"
        + (metrics (transcripts rs)).total "dns_query_log_malformed_entries_total"
      = .ofNat (takenUp (handovers rs)).length
    ∧ (metrics (transcripts rs)).total "dns_query_log_sink_failures_total"
      = .ofNat (undelivered (handovers rs))
    ∧ undelivered (handovers rs) = failureCount (pushes (transcripts rs))
    ∧ (∀ r ∈ rs, undelivered r.account.handovers ≤ 1)
    ∧ (metrics (transcripts rs)).total "dns_query_log_source_resets_total"
      = .ofNat (rs.countP fun r => r.account.IsReset)
    ∧ (metrics (transcripts rs)).total "api_errors_total"
      = .ofNat (failureCount (fetches (transcripts rs)))
    ∧ (metrics (transcripts rs)).total "authentication_failures_total"
      = .ofNat (refusalCount (fetches (transcripts rs)))
    ∧ (metrics (transcripts rs)).total "dns_query_log_unharvested_rows_total"
      = (rs.filterMap fun r => backlog? p.limits r.transcript).sum
    ∧ ∀ r ∈ rs, ∀ harvest report, r.account.shipment = some (harvest, report) →
      backlog? p.limits r.transcript = some harvest.unharvested
  := by
  have htotal : ∀ k : Counter, (metrics (transcripts rs)).total k.name = _ :=
    fun k => (total_metrics _ k).trans (tally_transcripts rs)
  obtain ⟨hlines, hfailed⟩ := lines_transcripts rs
  refine ⟨(htotal .shipped).trans ?_, hlines.symm, ?_, (htotal .refusals).trans ?_, hfailed.symm,
    fun r _ => (lines_of_yields r.yields).2.2, (htotal .resets).trans ?_,
    (htotal .errors).trans ?_, (htotal .authentication).trans ?_, (htotal .unharvested).trans ?_,
    fun r _ harvest report => backlog?_of_shipment r.yields⟩
  · simp [ofFetches, ofResets, ofBacklogs, ofHandovers]
  · rw [← readableCount_add_malformedCount, UInt64.ofNat_add]
    have hqueries := htotal .queries
    have hmalformed := htotal .malformed
    simp only [ofFetches, ofResets, ofBacklogs, ofHandovers, ofEntries, UInt64.zero_add]
      at hqueries hmalformed
    rw [← hqueries, ← hmalformed]
    rfl
  · simp [ofFetches, ofResets, ofBacklogs, ofHandovers]
  · simp [ofFetches, ofResets, ofBacklogs, ofHandovers, ofEntries]
  · simp [ofFetches, ofResets, ofBacklogs, ofHandovers, ofEntries]
  · simp [ofFetches, ofResets, ofBacklogs, ofHandovers, ofEntries]
  · simp [ofFetches, ofResets, ofBacklogs, ofHandovers, ofEntries]

end Pipeline

end LogCourier
