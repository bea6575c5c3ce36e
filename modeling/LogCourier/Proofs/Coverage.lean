import LogCourier.Proofs.Backlog
import LogCourier.Proofs.Rehearsals

/-!
# What a run covers

If the log grows between rounds only and no round leaves pending rows unharvested, then a
round collects all entries beyond the cursor (`reverse_eq_above`), and so it delivers every
entry between the cursor before it and the one after it (`Round.delivers_of_moved`). Whatever
fails in between, every entry between the first cursor and the persisted one was delivered
(`at_least_once`).
-/

namespace LogCourier

namespace Pipeline

open Work Reconciliation
open Rehearsal (World)

variable {p : Pipeline} {c : Cursor} {log : Nat → List LogEntry} {t : Transcript} {row : UInt64}
  {entries : List LogEntry}

/-! ### Collecting from a log -/

/-- The newest row is that of the first entry of the log. -/
theorem exists_cons_of_latestRow {head : QueryLogPage} {l : List LogEntry}
    (hhead : head.entries = (World.page l ⟨1, 1⟩).entries) (hrow : head.latestRow = some row) :
  ∃ e rest, l = e :: rest ∧ e.row = row
  := by
  rw [QueryLogPage.latestRow, hhead] at hrow
  cases l with
  | nil => cases hrow
  | cons e rest =>
      cases hrow
      exact ⟨e, rest, rfl, rfl⟩

/-- What is collected from a growing log, if `k` pages were fetched for it. -/
theorem Collected.reaped (h : Collected p c t row entries) (hlog : GrowingLog log)
    (hpages : Pages log t) :
  above c (log 1) ≠ []
    ∧ ∃ k, (fetches t).length = k + 1
      ∧ Reaped log c (row - c.row) p.limits.pageSize.toNat (pages p.limits c row).toNat k entries
  := by
  obtain ⟨hf, hrow, hlt, hs⟩ := h
  obtain ⟨e, rest, hfirst, rfl⟩ := exists_cons_of_latestRow (hpages.head hf) hrow
  have hnew : above c (log 1) ≠ [] := by
    apply List.ne_nil_of_mem (a := e)
    apply mem_above.mpr
    constructor
    · apply (hlog.grows 0).mem
      rw [hfirst]
      apply List.mem_cons_self
    · apply hlt
  have hreaped := Scanned.reaped (k := 0) hlog hs (by rw [Nat.zero_add]; apply UInt32.toNat_lt)
    (hpages.tail hf) hnew rfl
  rw [Nat.zero_add, Nat.zero_add] at hreaped
  refine ⟨hnew, _, ?_, hreaped⟩
  rw [hf, List.length_cons]

/-- If no pending row is unharvested then the allowed pages hold all of them. -/
theorem pending_le_of_unharvested {pending : UInt64} {pages size : UInt32}
    (h : unharvested pending pages size = 0) :
  pending.toNat ≤ pages.toNat * size.toNat
  := by
  have hzero := congrArg UInt64.toNat h
  rw [toNat_unharvested, UInt64.toNat_zero] at hzero
  apply Nat.le_of_sub_eq_zero hzero

/-- In a log with the newest row `row` there are no more entries beyond the cursor than rows
pending. -/
theorem length_above_le_pending {l : List LogEntry} (hl : Descending l)
    (hle : ∀ e ∈ l, e.row ≤ row) (hlt : c.row < row) :
  (above c l).length ≤ (row - c.row).toNat
  := by
  rw [toNat_pending hlt]
  apply (hl.above c).length_le
  · intro a ha
    apply (mem_above.mp ha).2
  · intro a ha
    apply hle a (mem_above.mp ha).1

/-- The pages that were fetched of a log that did not grow reach as deep as they are long. -/
theorem le_depth_const {l : List LogEntry} {size k n : Nat} (hn : 0 < n) (h : n ≤ k * size) :
  n ≤ depth (fun _ => l) size k
  := by
  apply (le_depth_iff hn).mpr
  refine ⟨k, ?_, Nat.le_refl k, ?_⟩
  · apply Nat.pos_of_ne_zero
    rintro rfl
    omega
  · rw [Nat.sub_self]
    apply h

/-- From a log that does not grow, all entries beyond the cursor are collected if no pending
row is unharvested. -/
theorem Collected.reverse_eq_above {l : List LogEntry} (h : Collected p c t row entries)
    (hl : Descending l) (hpages : Pages (fun _ => l) t)
    (hall : unharvested (row - c.row) (pages p.limits c row) p.limits.pageSize = 0) :
  entries.reverse = above c l
  := by
  obtain ⟨hnew, k, hk, hreaped⟩ := h.reaped (.const hl) hpages
  obtain ⟨hf, hrow, hlt, hs⟩ := h
  have hpending := pending_le_of_unharvested hall
  have hle : (above c l).length ≤ (row - c.row).toNat := by
    obtain ⟨e, rest, rfl, rfl⟩ := exists_cons_of_latestRow (hpages.head hf) hrow
    apply length_above_le_pending hl hl.row_le_head hlt
  have hpos : 0 < (above c l).length := List.length_pos_iff.mpr hnew
  have hdepth : (above c l).length ≤ depth (fun _ => l) p.limits.pageSize.toNat k := by
    rcases hreaped.finished with hspent | hreached | hmany
    · apply le_depth_const hpos
      rw [hspent]
      apply Nat.le_trans hle hpending
    · apply le_depth_const hpos hreached
    · have hlength := congrArg List.length hreaped.reverse_eq
      rw [List.length_reverse, List.length_take] at hlength
      omega
  rw [hreaped.reverse_eq]
  apply List.take_of_length_le hdepth

/-! ### Delivering what is collected -/

/-- The round delivered a sub-batch with the entry: the log store accepted it, or there was
nothing to be said of any of its entries. -/
def Round.Delivers (r : Round p) (e : LogEntry) : Prop :=
  ∃ b ∈ r.account.delivered, e ∈ b
    ∧ ((∀ a ∈ b, a.IsMalformed) ∨ Shipping.Accepted p.job b r.transcript)

/-- Of the entries that a round collects, it delivers those up to the last one that it
delivers. -/
theorem Round.delivers_of_mem {r : Round p} {last e : LogEntry} (hasc : Ascending entries)
    (hd : r.account.delivered <+: Shipping.chunks p.limits.subBatchSize.toNat entries)
    (hsettled : ∀ b ∈ r.account.delivered,
      (∀ a ∈ b, a.IsMalformed) ∨ Shipping.Accepted p.job b r.transcript)
    (hend : r.account.delivered.flatten.getLast? = some last) (he : e ∈ entries)
    (hle : e.row ≤ last.row) :
  r.Delivers e
  := by
  have hdelivered := hasc.mem_of_isPrefix (Shipping.flatten_isPrefix hd) hend he hle
  obtain ⟨b, hb, heb⟩ := List.mem_flatten.mp hdelivered
  exact ⟨b, hb, heb, hsettled b hb⟩

/-- The round reported that pending rows were out of its reach. -/
def Round.FallsBehind (r : Round p) : Prop :=
  ∃ s ∈ r.account.shipment, 0 < s.1.unharvested

instance (r : Round p) : Decidable r.FallsBehind :=
  decidable_of_iff (r.account.shipment.any fun s => 0 < s.1.unharvested) (by
    simp [Round.FallsBehind, Option.any_eq_true])

/-- A round over a log that does not grow meanwhile delivers every entry of it between the
cursor before and the cursor after, unless it falls behind. -/
theorem Round.delivers_of_moved {r : Round p} {l : List LogEntry} (hl : Descending l)
    (hpages : Pages (fun _ => l) r.transcript) (h : ReadsBack c r.transcript)
    (hr : ¬ r.FallsBehind) (hmoved : c.row < (persisted c r.transcript).row) :
  ∃ a ∈ l, a.row = (persisted c r.transcript).row
    ∧ ∀ e ∈ l, c.row < e.row → e.row ≤ a.row → r.Delivers e
  := by
  have hcourse := r.course h
  obtain ⟨harvest, report, hs, hd⟩ := hcourse.shipment_of_moved hmoved
  obtain ⟨hharvest, hc, hpre, hsettled, last, hend, hlast⟩ := hcourse.of_shipment hs hd
  have hall : harvest.unharvested = 0 := by
    by_contra hne
    exact hr ⟨_, hs, UInt64.pos_iff_ne_zero.mpr hne⟩
  rw [hharvest] at hall
  have hreverse := hc.reverse_eq_above hl hpages hall
  have hmem : ∀ e, e ∈ harvest.entries ↔ e ∈ l ∧ c.row < e.row := by
    intro e
    rw [← List.mem_reverse, hreverse, mem_above]
  have hin := (Shipping.flatten_isPrefix hpre).mem (List.mem_of_getLast? hend)
  rw [hlast]
  use last, ((hmem last).mp hin).1, rfl
  intro e he hlo hhi
  apply Round.delivers_of_mem hc.ascending hpre hsettled hend _ hhi
  apply (hmem e).mpr ⟨he, hlo⟩

/-! ### Whole runs -/

/-- Every entry of a growing log, at whatever moment, between the first cursor and the one
persisted after some rounds was delivered in one of them, if the log does not grow during a
round and no round falls behind. -/
theorem delivers_of_persisted (hlog : GrowingLog log) {rs : List (Round p)}
    (hpages : ∀ i r, rs[i]? = some r → Pages (fun _ => log i) r.transcript)
    (h : ReadsBack c (transcripts rs)) (hr : ∀ r ∈ rs, ¬ r.FallsBehind) {i : Nat} {e : LogEntry}
    (he : e ∈ log i) (hlo : c.row < e.row) (hhi : e.row ≤ (persisted c (transcripts rs)).row) :
  ∃ r ∈ rs, r.Delivers e
  := by
  induction rs using List.reverseRecOn with
  | nil => exact absurd hhi (UInt64.not_le.mpr hlo)
  | append_singleton rs r ih =>
      rw [transcripts_append, readsBack_append, transcripts_cons, transcripts_nil,
        List.append_nil] at h
      rw [transcripts_append, persisted_append, transcripts_cons, transcripts_nil,
        List.append_nil] at hhi
      obtain ⟨hrs, hlast⟩ := List.forall_mem_append.mp hr
      by_cases hbefore : e.row ≤ (persisted c (transcripts rs)).row
      · have hearlier : ∀ i r, rs[i]? = some r → Pages (fun _ => log i) r.transcript := by
          intro i r hi
          apply hpages i r
          rw [List.getElem?_append_left (List.getElem?_eq_some_iff.mp hi).1]
          apply hi
        obtain ⟨s, hs, hdelivers⟩ := ih hearlier h.1 hrs hbefore
        use s, List.mem_append_left _ hs
      · have hbeyond := UInt64.not_le.mp hbefore
        have hpage : Pages (fun _ => log rs.length) r.transcript := by
          apply hpages
          rw [List.getElem?_append_right (Nat.le_refl _), Nat.sub_self]
          rfl
        have hmoved := UInt64.lt_of_lt_of_le hbeyond hhi
        obtain ⟨a, ha, harow, hcover⟩ := r.delivers_of_moved (hlog.descending rs.length) hpage h.2
          (hlast r List.mem_cons_self) hmoved
        rw [← harow] at hhi
        use r, List.mem_append_right _ List.mem_cons_self
        apply hcover e (hlog.mem_of_row_le he ha hhi) hbeyond hhi

/-- Delivery at least once: at the end of every round of a run, every entry of the log between
the first cursor and the persisted one was delivered in a round up to then, if none of these
rounds fell behind. The log may grow from round to round; any fetch, push or attempt to write
the cursor may fail. -/
theorem at_least_once (hlog : GrowingLog log) {before after : List (Round p)}
    (hpages : ∀ i r, (before ++ after)[i]? = some r → Pages (fun _ => log i) r.transcript)
    (h : ReadsBack c (transcripts (before ++ after)))
    (hr : ∀ r ∈ before, ¬ r.FallsBehind) {i : Nat} {e : LogEntry} (he : e ∈ log i)
    (hlo : c.row < e.row) (hhi : e.row ≤ (persisted c (transcripts before)).row) :
  ∃ r ∈ before, r.Delivers e
  := by
  rw [transcripts_append, readsBack_append] at h
  apply delivers_of_persisted hlog _ h.1 hr he hlo hhi
  intro i r hi
  apply hpages i r
  rw [List.getElem?_append_left (List.getElem?_eq_some_iff.mp hi).1]
  apply hi

/-- A push that is refused, then a write that fails, then a round without failure. -/
theorem at_least_once_of_failures :
  ∃ rs : List (Round sample), persisted .zero (transcripts rs) = ⟨5⟩
    ∧ ∀ e ∈ [5, 4, 3, 2, 1].map sampleEntry, ∃ r ∈ rs, r.Delivers e
  := by
  let w := { sampleWorld 0 [3, 2, 1] with sink := [none, some "refused"] }
  let w' := { sampleWorld 2 [5, 4, 3, 2, 1] with storeFailure := some "disk full" }
  let w'' := sampleWorld 2 [5, 4, 3, 2, 1]
  let r := Round.rehearse isModest_sample (.new 5) w
  let r' := Round.rehearse isModest_sample (.new 5) w'
  let r'' := Round.rehearse isModest_sample (.new 5) w''
  let log : Nat → List LogEntry
    | 0 => w.log
    | _ => w'.log
  have hlog : GrowingLog log := by
    constructor
    · rintro (_ | i)
      · change Descending w.log
        decide
      · change Descending w'.log
        decide
    · rintro (_ | i)
      · exact List.suffix_append ([5, 4].map sampleEntry) w.log
      · apply List.suffix_rfl
  have hpages : ∀ i s, [r, r', r''][i]? = some s → Pages (fun _ => log i) s.transcript := by
    rintro (_ | _ | _ | i) s hs
    · cases hs
      apply pages_transcript (sample.account (.new 5)) (w := w) nofun
    · cases hs
      apply pages_transcript (sample.account (.new 5)) (w := w') nofun
    · cases hs
      apply pages_transcript (sample.account (.new 5)) (w := w'') nofun
    · cases hs
  have h : ReadsBack .zero (transcripts ([r, r', r''] ++ [])) := by
    have hr : persisted .zero r.transcript = w'.cursor := by decide +kernel
    have hr' : persisted w'.cursor r'.transcript = w''.cursor := by decide +kernel
    rw [List.append_nil, transcripts_cons, transcripts_cons, transcripts_cons, readsBack_append,
      readsBack_append, readsBack_append, hr, hr']
    exact ⟨readsBack_transcript _ w, readsBack_transcript _ w', readsBack_transcript _ w'', trivial⟩
  have hpersisted : persisted .zero (transcripts [r, r', r'']) = ⟨5⟩ := by decide +kernel
  have hbehind : ∀ s ∈ [r, r', r''], ¬ s.FallsBehind := by decide +kernel
  refine ⟨[r, r', r''], hpersisted, ?_⟩
  intro e he
  have hrow : Cursor.zero.row < e.row ∧ e.row ≤ (⟨5⟩ : Cursor).row := by
    revert e
    decide
  rw [← hpersisted] at hrow
  exact at_least_once hlog hpages h hbehind (i := 1) he hrow.1 hrow.2

end Pipeline

end LogCourier
