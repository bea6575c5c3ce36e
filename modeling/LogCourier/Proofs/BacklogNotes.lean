import LogCourier.Proofs.Notes
import LogCourier.Proofs.Segments

/-!
# What is noted of a backlog

Of what a reconciliation notes, its backlog alone is about pending rows (`Note.isOfBacklog`): the
fetches note nothing of the kind. So there is one place where the numbers of a backlog are told, and
they are told exactly (`notes_harvest`), whatever the rows and the limits
(`Reconciliation.sizes_backlog`).
-/

namespace LogCourier

open Dialogue Work
open Rehearsal (World)

/-! ### Notes -/

namespace Work

variable {t t₁ t₂ : Transcript}

theorem notes_of_log {level : LogLevel} {message : String} {fields : List (String × FieldValue)}
    (h : (log level message fields).Yields t ()) :
  notes t = [.log ⟨level, message, fields⟩]
  := by
  obtain rfl := yields_question.mp h
  rfl

theorem notes_of_record {e : MetricEvent} (h : (record e).Yields t ()) :
  notes t = [.metric e]
  := by
  obtain rfl := yields_question.mp h
  rfl

end Work

/-- The note is about pending rows: a line that tells their number, or the event of a backlog. -/
def Note.isOfBacklog : Note → Bool
  | .log line => (line.fields.lookup "pending").isSome
  | .metric (.backlogObserved ..) => true
  | .metric _ => false

/-- A fetch notes nothing about pending rows. -/
theorem Polling.filter_notes_eq_nil {g : Governor} {r : PageRequest} {t : Transcript}
    {o : Except Failure QueryLogPage × Governor} (h : (fetch g r).Yields t o) :
  (notes t).filter Note.isOfBacklog = []
  := by
  cases fetched_of_yields h with
  | refused hg => rfl
  | answered hg hn =>
      have hnotes := filterMap_of_bind hn notes_of_record notes_of_log
      exact congrArg (List.filter Note.isOfBacklog) hnotes
  | failed hg hn =>
      have hnotes := filterMap_of_bind hn notes_of_record notes_of_log
      exact congrArg (List.filter Note.isOfBacklog) hnotes

namespace Reconciliation

variable {limits : Limits} {c : Cursor} {row pending : UInt64} {g g' : Governor} {t u : Transcript}

/-- A scan notes nothing about pending rows. -/
theorem Scanned.filter_notes_eq_nil {left page : Nat} {collected : List LogEntry}
    {o : Except Failure (List LogEntry) × Governor}
    (h : Scanned limits c pending left page g collected t o) :
  (notes t).filter Note.isOfBacklog = []
  := by
  induction h with
  | spent => rfl
  | failed hf => apply Polling.filter_notes_eq_nil hf
  | blank hf hp => apply Polling.filter_notes_eq_nil hf
  | enough hf hp henough => apply Polling.filter_notes_eq_nil hf
  | further hf hp hs ih =>
      rw [notes_append, List.filter_append, Polling.filter_notes_eq_nil hf, ih]
      rfl

/-- What is noted of a backlog with these numbers of rows pending and rows out of reach, and this
first and last row: a line if many rows are pending, a line if any is out of reach, and the
event. -/
def backlogNotes (limits : Limits) (pending beyond first last : Nat) : List Note :=
  (if 100 ≤ pending then
    [.log ⟨.info, "Found new query log entries",
      [("pending", .nat pending), ("first_row", .nat first), ("latest_row", .nat last)]⟩]
    else [])
  ++ ((if 0 < beyond then
    [.log ⟨.warn, "Backlog exceeds per-cycle page cap; oldest pending rows will not be shipped",
      [("pending", .nat pending), ("unharvested", .nat beyond),
        ("page_cap", .nat limits.pageCap.toNat), ("page_size", .nat limits.pageSize.toNat)]⟩]
    else [])
  ++ [.metric (.backlogObserved (.ofNat pending) (.ofNat beyond))])

theorem filter_backlogNotes {pending beyond first last : Nat} :
  (backlogNotes limits pending beyond first last).filter Note.isOfBacklog
    = backlogNotes limits pending beyond first last
  := by
  rw [backlogNotes]
  split <;> split <;> rfl

theorem notes_noteBacklog {beyond : UInt64}
    (h : (noteBacklog limits c row pending beyond).Yields t ()) :
  notes t = backlogNotes limits pending.toNat beyond.toNat (c.row + 1).toNat row.toNat
  := by
  have hnotable : notableBacklog ≤ pending ↔ 100 ≤ pending.toNat := UInt64.le_iff_toNat_le
  have hbeyond : 0 < beyond ↔ 0 < beyond.toNat := UInt64.lt_iff_toNat_lt
  rw [backlogNotes, UInt64.ofNat_toNat, UInt64.ofNat_toNat]
  simp only [← hnotable, ← hbeyond]
  rw [noteBacklog] at h
  split at h <;> split at h
  · next hn hb =>
    rw [if_pos hn, if_pos hb]
    exact filterMap_of_bind h notes_of_log fun h => filterMap_of_bind h notes_of_log notes_of_record
  · next hn hb =>
    rw [if_pos hn, if_neg hb, List.nil_append]
    exact filterMap_of_bind h notes_of_log notes_of_record
  · next hn hb =>
    rw [if_neg hn, if_pos hb, List.nil_append]
    exact filterMap_of_bind h notes_of_log notes_of_record
  · next hn hb =>
    rw [if_neg hn, if_neg hb]
    exact notes_of_record h

/-- A reconciliation that reads the cursor and is told of a row beyond it harvests the rows in
between. -/
theorem exists_harvest {r : PageRequest} {head : QueryLogPage}
    {later : List (PageRequest × Except SourceError QueryLogPage)}
    {o : Except Failure Reconciliation × Governor}
    (h : (reconcile limits g).Yields (⟨.load, c⟩ :: u) o)
    (hf : fetches u = (r, .ok head) :: later) (hrow : head.latestRow = some row)
    (hlt : c.row < row) :
  ∃ g₁ t₁ t₂, u = t₁ ++ t₂ ∧ (Polling.fetch g ⟨1, 1⟩).Yields t₁ (.ok head, g₁)
    ∧ (harvest limits g₁ c row).Yields t₂ o
  := by
  rw [reconcile] at h
  obtain ⟨c', t', ht, hc⟩ := yields_question_bind.mp h
  cases ht
  obtain ⟨t₁, ⟨x, g₁⟩, t₂, rfl, hx, hr⟩ := yields_bind.mp hc
  cases x with
  | error e =>
      obtain ⟨rfl, rfl⟩ := yields_pure.mp hr
      rw [List.append_nil] at hf
      cases Polling.fetched_of_yields hx with
      | refused hg => cases hf
      | failed hg hn => cases hf
  | ok head' =>
      rw [fetches_append, Polling.fetches_of_yields_ok hx] at hf
      cases hf
      refine ⟨g₁, t₁, t₂, rfl, hx, ?_⟩
      dsimp only at hr
      rw [hrow] at hr
      dsimp only at hr
      rwa [if_neg (UInt64.lt_asymm hlt), if_neg (UInt64.ne_of_lt hlt).symm] at hr

/-- A harvest notes its backlog in exact numbers, and hands them on. -/
theorem notes_harvest {o : Except Failure Reconciliation} (hlt : c.row < row)
    (h : (harvest limits g c row).Yields t (o, g')) :
  (notes t).filter Note.isOfBacklog = backlogNotes limits (row.toNat - c.row.toNat)
      (row.toNat - c.row.toNat - limits.pageSize.toNat * limits.pageCap.toNat) (c.row.toNat + 1)
      row.toNat
    ∧ ∀ harvest, o = .ok (.newEntries harvest) → harvest.pending = row - c.row
      ∧ harvest.unharvested = unharvested (row - c.row) (pages limits c row) limits.pageSize
  := by
  obtain ⟨n, t', s, rfl, hn, -, hs, rfl⟩ := parts_of_yields_harvest h
  constructor
  · rw [notes_append, List.filter_append, hs.filter_notes_eq_nil, List.append_nil,
      notes_noteBacklog hn, toNat_beyond hlt, toNat_pending hlt, toNat_first hlt,
      filter_backlogNotes]
  · intro harvest ho
    cases s with
    | error e => cases ho
    | ok entries =>
        cases ho
        exact ⟨rfl, rfl⟩

/-- A backlog is sized exactly, whatever the rows and the limits. If `p` is the least number of
pages that hold the pending rows, then `p` pages are to be fetched, or the allowed ones if these
are fewer, and at least one. Neither the narrowing of `p` cuts anything off, nor do the number of
pending rows, the row after the cursor and the rows that the pages hold wrap around. The rows out of
reach are the pending ones that the allowed pages do not hold, and there are any just if more pages
are needed than allowed. These are the numbers that a reconciliation notes and hands on. -/
theorem sizes_backlog (limits : Limits) (hlt : c.row < row) :
  ∃ p, IsLeast {n | row.toNat - c.row.toNat ≤ n * limits.pageSize.toNat} p
    ∧ (pages limits c row).toNat = min p limits.pageCap.toNat ∧ 1 ≤ (pages limits c row).toNat
    ∧ (pages limits c row).toUInt64
      = min (pagesHolding (row - c.row) limits.pageSize) limits.pageCap.toUInt64
    ∧ c.row.toNat + (row - c.row).toNat = row.toNat
    ∧ (c.row + 1).toNat = c.row.toNat + 1
    ∧ (capacity (pages limits c row) limits.pageSize).toNat
      = (pages limits c row).toNat * limits.pageSize.toNat
    ∧ ((unharvested (row - c.row) (pages limits c row) limits.pageSize).toNat : Int)
      = max 0 ((row.toNat - c.row.toNat : Int) - limits.pageSize.toNat * limits.pageCap.toNat)
    ∧ (0 < unharvested (row - c.row) (pages limits c row) limits.pageSize
      ↔ limits.pageCap.toNat < p)
    ∧ ∀ {g g' u r head later o}, (reconcile limits g).Yields (⟨.load, c⟩ :: u) (o, g') →
      fetches u = (r, .ok head) :: later → head.latestRow = some row →
        (notes u).filter Note.isOfBacklog = backlogNotes limits (row.toNat - c.row.toNat)
          (row.toNat - c.row.toNat - limits.pageSize.toNat * limits.pageCap.toNat)
          (c.row.toNat + 1) row.toNat
        ∧ ∀ harvest, o = .ok (.newEntries harvest) → harvest.pending = row - c.row
          ∧ harvest.unharvested = unharvested (row - c.row) (pages limits c row) limits.pageSize
  := by
  have hpending : 0 < row.toNat - c.row.toNat := Nat.sub_pos_of_lt (UInt64.lt_iff_toNat_lt.mp hlt)
  have hle := UInt64.le_iff_toNat_le.mp (UInt64.le_of_lt hlt)
  refine ⟨_, isLeast_ceilDiv (pageSize_pos limits), toNat_pages hlt, ?_,
    toUInt64_pagesToFetch _ _ _, ?_, toNat_first hlt, toNat_capacity _ _, ?_, ?_, ?_⟩
  · rw [toNat_pages hlt]
    apply pageBudget_pos hpending
  · rw [toNat_pending hlt]
    apply Nat.add_sub_cancel' hle
  · rw [toNat_beyond hlt]
    omega
  · rw [UInt64.lt_iff_toNat_lt, toNat_beyond hlt, UInt64.toNat_zero, Nat.sub_pos_iff_lt,
      ← Nat.not_le, ← Nat.not_le, ceilDiv_le_iff_le_mul (pageSize_pos limits)]
  · intro g g' u r head later o h hf hrow
    obtain ⟨g₁, t₁, t₂, rfl, hhead, hh⟩ := exists_harvest h hf hrow hlt
    rw [notes_append, List.filter_append, Polling.filter_notes_eq_nil hhead, List.nil_append]
    apply notes_harvest hlt hh

/-- The newest row is the last one there can be, and nothing was delivered before. The pages that
hold the rows are more than 32 bits can number, and all but 1000 rows are out of reach. -/
theorem sizes_backlog_of_last_row :
  ∃ u g' harvest, (reconcile (.new 100 10 100) (.new 3)).Yields (⟨.load, .zero⟩ :: u)
      (.ok (.newEntries harvest), g')
    ∧ (notes u).filter Note.isOfBacklog
      = backlogNotes (.new 100 10 100) 18446744073709551615 18446744073709550615 1
        18446744073709551615
    ∧ harvest.pending = 18446744073709551615 ∧ harvest.unharvested = 18446744073709550615
    ∧ ∃ p, 4294967296 < p ∧ 18446744073709551615 ≤ p * 100
      ∧ (pages (.new 100 10 100) .zero 18446744073709551615).toNat = min p 10
  := by
  let p : Pipeline := ⟨.new 100 10 100, "dns"⟩
  let w := Pipeline.sampleWorld 0 [18446744073709551615]
  have hread := readsBack_transcript (reconcile p.limits (.new 3)) w
  have hsome : (rehearse p.limits (.new 3) w).map Harvest.latestRow
      = some 18446744073709551615 := by
    decide +kernel
  obtain ⟨harvest, hharvest, hlatest⟩ := Option.map_eq_some_iff.mp hsome
  obtain ⟨g', h⟩ := yields_of_rehearse hharvest
  obtain ⟨c, u, ht, -, hc⟩ := collected_of_newEntries h
  rw [ht] at h hread hc
  obtain rfl : c = .zero := hread.1 c rfl
  obtain ⟨hf, hrow, hlt, -⟩ := hc
  rw [hlatest] at hrow hlt
  obtain ⟨k, ⟨hk, -⟩, hpages, -, -, -, -, -, -, -, hrun⟩ := sizes_backlog p.limits hlt
  obtain ⟨hnotes, hhanded⟩ := hrun h hf hrow
  obtain ⟨hpending, hunharvested⟩ := hhanded harvest rfl
  have hsize : p.limits.pageSize.toNat = 100 := rfl
  have hnumber : UInt64.toNat 18446744073709551615 - Cursor.zero.row.toNat
      = 18446744073709551615 := by
    decide +kernel
  rw [Set.mem_ofPred_eq, hnumber, hsize] at hk
  refine ⟨u, g', harvest, h, hnotes.trans ?_, ?_, ?_, k, ?_, hk, hpages⟩
  · decide +kernel
  · rw [hpending]
    decide +kernel
  · rw [hunharvested]
    decide +kernel
  · omega

end Reconciliation

end LogCourier
