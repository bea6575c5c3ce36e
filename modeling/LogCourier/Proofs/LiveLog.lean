import LogCourier.Proofs.Coverage

/-!
# A log that grows during a round

The pages of a round are counted from the newest row that it met first. Entries that come in
later shift the others to later pages, and so a round may end before it reached the rows next
to the cursor. The cursor passes over these rows for good, and neither the report nor the
number of unharvested rows tells of them (`row_passed_over`).

A round delivers every entry between the cursor before it and the one after it if and only if
a page that it fetched reached the end of the entries beyond the cursor, as they stood then
(`Round.covers_iff`).
-/

namespace LogCourier

namespace Pipeline

open Work Reconciliation
open Rehearsal (World)

variable {p : Pipeline} {c : Cursor} {log : Nat → List LogEntry} {size k : Nat}

/-- The pages reach all entries beyond the cursor if and only if one of them did when it was
answered. -/
theorem length_above_le_depth_iff (hlog : GrowingLog log) (hnew : above c (log 1) ≠ []) :
  (above c (log 1)).length ≤ depth log size k
    ↔ ∃ j, 1 ≤ j ∧ j ≤ k ∧ (above c (log j)).length ≤ j * size
  := by
  rw [le_depth_iff (List.length_pos_iff.mpr hnew)]
  constructor
  · rintro ⟨j, hj, hjk, hreach⟩
    refine ⟨j, hj, hjk, ?_⟩
    rw [hlog.length_above hj hnew]
    apply hreach
  · rintro ⟨j, hj, hjk, hreach⟩
    refine ⟨j, hj, hjk, ?_⟩
    rw [← hlog.length_above hj hnew]
    apply hreach

/-- If every entry of a descending list with a row up to that of one of its first `n` entries
is among these, then there are no others. -/
theorem length_le_of_take {l : List LogEntry} {n : Nat} {last : LogEntry} (hl : Descending l)
    (hlast : last ∈ l.take n) (h : ∀ e ∈ l, e.row ≤ last.row → e ∈ l.take n) :
  l.length ≤ n
  := by
  apply List.drop_eq_nil_iff.mp
  apply List.eq_nil_iff_forall_not_mem.mpr
  intro e he
  rw [← List.take_append_drop n l] at hl
  obtain ⟨-, -, hcross⟩ := List.pairwise_append.mp hl
  have hlt := hcross last hlast e he
  have hmem := h e (List.mem_of_mem_drop he) (UInt64.le_of_lt hlt)
  exact absurd (hcross e hmem e he) (UInt64.lt_irrefl _)

/-- A round that ships from a growing log delivers every entry between the cursor before it
and the one it writes if and only if a page that it fetched reached the end of the entries
beyond the cursor. The pages are counted from 1; request number 0 was for the newest row. -/
theorem Round.covers_iff (hlog : GrowingLog log) {r : Round p} (hpages : Pages log r.transcript)
    (h : ReadsBack c r.transcript) {harvest : Harvest} {report : ShipReport} {d : Cursor}
    (hs : r.account.shipment = some (harvest, report)) (hd : report.cursor = some d) :
  (∀ i, ∀ e ∈ log i, c.row < e.row → e.row ≤ d.row → r.Delivers e)
    ↔ ∃ j, 1 ≤ j ∧ j < (fetches r.transcript).length
      ∧ (above c (log j)).length ≤ j * p.limits.pageSize.toNat
  := by
  obtain ⟨-, hc, hpre, hsettled, last, hend, rfl⟩ := (r.course h).of_shipment hs hd
  obtain ⟨hnew, k, hk, hreaped⟩ := hc.reaped hlog hpages
  have hmem : ∀ e, e ∈ harvest.entries
      ↔ e ∈ (above c (log 1)).take (depth log p.limits.pageSize.toNat k) := by
    intro e
    rw [← List.mem_reverse, hreaped.reverse_eq]
  have hin := (hmem last).mp
    ((Shipping.flatten_isPrefix hpre).mem (List.mem_of_getLast? hend))
  simp only [hk, Nat.lt_succ_iff]
  rw [← length_above_le_depth_iff hlog hnew]
  constructor
  · intro hall
    apply length_le_of_take ((hlog.descending 1).above c) hin
    intro e he hle
    obtain ⟨he, hlo⟩ := mem_above.mp he
    obtain ⟨b, hb, heb, -⟩ := hall 1 e he hlo hle
    apply (hmem e).mp
    apply (Shipping.flatten_isPrefix hpre).mem (List.mem_flatten.mpr ⟨b, hb, heb⟩)
  · intro hdepth i e he hlo hhi
    have hlast := (mem_above.mp (List.mem_of_mem_take hin)).1
    have he := hlog.mem_of_row_le he hlast hhi
    apply Round.delivers_of_mem hc.ascending hpre hsettled hend _ hhi
    rw [hmem, List.take_of_length_le hdepth]
    apply mem_above.mpr ⟨he, hlo⟩

/-- One entry comes in during the round, and the page has room for it. -/
theorem covers_of_room :
  ∃ (log : Nat → List LogEntry) (r : Round sample), GrowingLog log ∧ Pages log r.transcript
    ∧ log 1 = [3, 2, 1].map sampleEntry ∧ persisted .zero r.transcript = ⟨3⟩
    ∧ ∀ e ∈ log 1, e.row ≤ 3 → r.Delivers e
  := by
  let w := { sampleWorld 0 [2, 1] with source := [.plain, .grow [sampleEntry 3]] }
  let r := Round.rehearse isModest_sample (.new 5) w
  have hlog : GrowingLog w.logAt := growingLog_logAt (by decide)
  have hpages : Pages w.logAt r.transcript := pages_transcript _ (by simp [World.IsFaithful, w])
  have h : ReadsBack .zero r.transcript := readsBack_transcript _ w
  have hreport : (r.account.shipment.map fun s => s.2.cursor) = some (some ⟨3⟩) := by
    decide +kernel
  obtain ⟨⟨harvest, report⟩, hs, hd⟩ := Option.map_eq_some_iff.mp hreport
  have hreach : ∃ j, 1 ≤ j ∧ j < (fetches r.transcript).length
      ∧ (above .zero (w.logAt j)).length ≤ j * sample.limits.pageSize.toNat :=
    ⟨1, by decide, by decide +kernel, by decide⟩
  have hcover := (Round.covers_iff hlog hpages h hs hd).mpr hreach 1
  refine ⟨w.logAt, r, hlog, hpages, rfl, by decide +kernel, ?_⟩
  intro e he hhi
  apply hcover e he _ hhi
  revert e
  decide

/-- One entry comes in during the round and shifts row 1 out of the page. The round reports
that it is complete and left nothing unharvested, and the cursor passes over row 1. -/
theorem row_passed_over :
  ∃ (log : Nat → List LogEntry) (r : Round sample) (s : Harvest × ShipReport), GrowingLog log
    ∧ Pages log r.transcript ∧ ReadsBack .zero r.transcript ∧ r.account.shipment = some s
    ∧ s.1.unharvested = 0 ∧ s.2.isComplete = true ∧ s.2.cursor = some ⟨4⟩
    ∧ sampleEntry 1 ∈ log 0 ∧ ∀ b ∈ r.account.delivered, sampleEntry 1 ∉ b
  := by
  let w := { sampleWorld 0 [3, 2, 1] with source := [.plain, .grow [sampleEntry 4]] }
  let r := Round.rehearse isModest_sample (.new 5) w
  have hlog : GrowingLog w.logAt := growingLog_logAt (by decide)
  have hpages : Pages w.logAt r.transcript := pages_transcript _ (by simp [World.IsFaithful, w])
  have h : ReadsBack .zero r.transcript := readsBack_transcript _ w
  have hreport : (r.account.shipment.map fun s => (s.1.unharvested, s.2.isComplete, s.2.cursor))
      = some (0, true, some ⟨4⟩) := by
    decide +kernel
  obtain ⟨s, hs, heq⟩ := Option.map_eq_some_iff.mp hreport
  simp only [Prod.mk.injEq] at heq
  obtain ⟨hall, hcomplete, hcursor⟩ := heq
  have hlost : ∀ b ∈ r.account.delivered, sampleEntry 1 ∉ b := by decide +kernel
  exact ⟨w.logAt, r, s, hlog, hpages, h, hs, hall, hcomplete, hcursor, by decide, hlost⟩

end Pipeline

end LogCourier
