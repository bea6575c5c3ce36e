import LogCourier.Proofs.Harvest

/-!
# A harvest is a segment of the log

Entries that come in between two requests shift the others to later pages, by a part of a page or
by several pages. What is collected before is met again then, and nothing in between is passed
over: the harvest has every entry of the log between its oldest and its newest one, and its newest
one is not older than the row that was the newest when the cursor was compared with it
(`Reconciliation.harvests_between`). What it may lack are entries next to the cursor.
-/

namespace LogCourier

open Dialogue Work
open Rehearsal (World)

namespace Reconciliation

variable {p : Pipeline} {g g' : Governor} {t : Transcript} {harvest : Harvest}

/-- The harvest that a reconciliation comes to in a scripted world, if it finds new entries. -/
def rehearse (limits : Limits) (g : Governor) (w : World) : Option Harvest :=
  match (w.hold (reconcile limits g)).1 with
  | some (.ok (.newEntries harvest), _) => some harvest
  | _ => none

theorem yields_of_rehearse {limits : Limits} {w : World}
    (h : rehearse limits g w = some harvest) :
  ∃ g', (reconcile limits g).Yields ((reconcile limits g).transcript World.answer w)
    (.ok (.newEntries harvest), g')
  := by
  rw [rehearse] at h
  split at h
  · next g' hrun =>
    cases h
    exact ⟨g', yields_transcript hrun⟩
  · cases h

/-- New entries were collected beyond the cursor that was read. -/
theorem collected_of_newEntries
    (h : (reconcile p.limits g).Yields t (.ok (.newEntries harvest), g')) :
  ∃ c u, t = ⟨.load, c⟩ :: u
    ∧ harvest = harvestOf p.limits c harvest.latestRow harvest.entries
    ∧ Pipeline.Collected p c t harvest.latestRow harvest.entries
  := by
  cases reconciled_of_yields h with
  | reset hf hrow hlt hr =>
      obtain ⟨x, -, hx⟩ := writes_resetCursor hr
      cases x <;> cases hx
  | @harvest c t t' head g₁ row _ hf hrow hlt hh =>
      obtain ⟨n, t₁, s, rfl, hn, hs, ho⟩ := scanned_of_yields_harvest hh
      cases s with
      | error e => cases ho
      | ok entries =>
          cases ho
          refine ⟨c, _, rfl, rfl, .intro ?_ hrow hlt hs⟩
          rw [fetches_load hf, fetches_append, fetches_of_within hn, List.nil_append]

end Reconciliation

namespace Pipeline

variable {p : Pipeline} {c : Cursor} {t : Transcript} {row : UInt64} {entries : List LogEntry}
  {log : Nat → List LogEntry}

namespace Collected

variable (h : Collected p c t row entries) (hlog : GrowingLog log) (hpages : Pages log t)
include h hlog hpages

/-- What is collected stands in the log when page 1 is answered. -/
theorem mem_log :
  ∀ e ∈ entries, e ∈ log 1
  := by
  obtain ⟨-, k, -, hreaped⟩ := h.reaped hlog hpages
  intro e he
  rw [← List.mem_reverse, hreaped.reverse_eq] at he
  exact (mem_above.mp (List.mem_of_mem_take he)).1

/-- Nothing between two collected entries is passed over, whenever it stands in the log. -/
theorem mem_of_between {i : Nat} {a b e : LogEntry} (ha : a ∈ entries) (hb : b ∈ entries)
    (he : e ∈ log i) (hae : a.row ≤ e.row) (heb : e.row ≤ b.row) :
  e ∈ entries
  := by
  have hlater : e ∈ log 1 := hlog.mem_of_row_le he (h.mem_log hlog hpages b hb) heb
  have hbeyond : c.row < e.row := UInt64.lt_of_lt_of_le (h.beyond a ha) hae
  obtain ⟨-, k, -, hreaped⟩ := h.reaped hlog hpages
  rw [← List.mem_reverse, hreaped.reverse_eq] at ha ⊢
  apply ((hlog.descending 1).above c).mem_take ha _ hae
  exact mem_above.mpr ⟨hlater, hbeyond⟩

/-- The newest entry collected is the newest of the log, as it stood when page 1 was answered, and
this is not older than the newest row before. -/
theorem exists_newest :
  ∃ newest ∈ entries, (∀ e ∈ entries, e.row ≤ newest.row)
    ∧ (log 0).head?.map LogEntry.row = some row ∧ row ≤ newest.row
  := by
  have hlast := h.getLast?_eq hlog hpages
  have hmem := h.mem_log hlog hpages
  obtain ⟨hf, hrow, hlt, hs⟩ := h
  obtain ⟨first, rest, hfirst, rfl⟩ := exists_cons_of_latestRow (hpages.head hf) hrow
  have hlater : first ∈ log 1 := by
    apply (hlog.grows 0).mem
    rw [hfirst]
    apply List.mem_cons_self
  have hdesc := hlog.descending 1
  cases hone : log 1 with
  | nil =>
      rw [hone] at hlater
      cases hlater
  | cons newest older =>
      rw [hone] at hlast hmem hlater hdesc
      refine ⟨newest, List.mem_of_getLast? hlast, ?_, ?_, hdesc.row_le_head first hlater⟩
      · intro e he
        apply hdesc.row_le_head e (hmem e he)
      · rw [hfirst]
        rfl

end Collected

end Pipeline

namespace Reconciliation

variable {p : Pipeline} {g g' : Governor} {t : Transcript} {harvest : Harvest}
  {log : Nat → List LogEntry}

/-- What is harvested from a log that may gain newer entries before any request: exactly the
entries of the log, at whatever moment, between the oldest and the newest one harvested, each
once. The newest one is not older than the newest row of the log as it stood at first. -/
theorem harvests_between (h : (reconcile p.limits g).Yields t (.ok (.newEntries harvest), g'))
    (hlog : GrowingLog log) (hpages : Pages log t) :
  ∃ oldest ∈ harvest.entries, ∃ newest ∈ harvest.entries,
    (∀ e, e ∈ harvest.entries
      ↔ (∃ i, e ∈ log i) ∧ oldest.row ≤ e.row ∧ e.row ≤ newest.row)
    ∧ Ascending harvest.entries
    ∧ (log 0).head?.map LogEntry.row = some harvest.latestRow
    ∧ harvest.latestRow ≤ newest.row
  := by
  obtain ⟨c, -, -, -, hc⟩ := collected_of_newEntries h
  obtain ⟨newest, hnewest, hle, hhead, hlatest⟩ := hc.exists_newest hlog hpages
  have hasc := hc.ascending
  obtain ⟨oldest, rest, hentries⟩ := List.exists_cons_of_ne_nil (List.ne_nil_of_mem hnewest)
  have holdest : oldest ∈ harvest.entries := by
    rw [hentries]
    apply List.mem_cons_self
  have hge : ∀ e ∈ harvest.entries, oldest.row ≤ e.row := by
    rw [hentries] at hasc ⊢
    apply hasc.head_le
  refine ⟨oldest, holdest, newest, hnewest, ?_, hasc, hhead, hlatest⟩
  intro e
  constructor
  · intro he
    exact ⟨⟨1, hc.mem_log hlog hpages e he⟩, hge e he, hle e he⟩
  · rintro ⟨⟨i, he⟩, hlo, hhi⟩
    apply hc.mem_of_between hlog hpages holdest hnewest he hlo hhi

/-- One entry comes in before page 2 and three before page 3, which then has nothing but what was
collected: rows 3 to 5 are harvested, and rows 1 and 2 are not. -/
theorem harvests_between_of_growth :
  ∃ t g' harvest log, (reconcile (.new 2 10 2) (.new 3)).Yields t (.ok (.newEntries harvest), g')
    ∧ GrowingLog log ∧ Pages log t ∧ log 3 = [9, 8, 7, 6, 5, 4, 3, 2, 1].map Pipeline.sampleEntry
    ∧ harvest.entries = [3, 4, 5].map Pipeline.sampleEntry
    ∧ ∃ oldest ∈ harvest.entries, ∃ newest ∈ harvest.entries, harvest.latestRow ≤ newest.row
      ∧ ∀ i, ∀ e ∈ log i, oldest.row ≤ e.row → e.row ≤ newest.row → e ∈ harvest.entries
  := by
  let p : Pipeline := ⟨.new 2 10 2, "dns"⟩
  let w := { Pipeline.sampleWorld 0 [5, 4, 3, 2, 1] with
    source := [.plain, .plain, .grow [Pipeline.sampleEntry 6],
      .grow ([9, 8, 7].map Pipeline.sampleEntry)] }
  have hlog : GrowingLog w.logAt := growingLog_logAt (by decide)
  have hpages : Pages w.logAt (transcript World.answer (reconcile p.limits (.new 3)) w) :=
    pages_transcript _ (by simp [World.IsFaithful, w])
  have hsome : (rehearse p.limits (.new 3) w).map Harvest.entries
      = some ([3, 4, 5].map Pipeline.sampleEntry) := by
    decide +kernel
  obtain ⟨harvest, hharvest, hentries⟩ := Option.map_eq_some_iff.mp hsome
  obtain ⟨g', h⟩ := yields_of_rehearse hharvest
  obtain ⟨oldest, holdest, newest, hnewest, hiff, -, -, hle⟩ := harvests_between h hlog hpages
  refine ⟨_, g', harvest, w.logAt, h, hlog, hpages, rfl, hentries, oldest, holdest, newest, hnewest,
    hle, ?_⟩
  intro i e he hlo hhi
  exact (hiff e).mpr ⟨⟨i, he⟩, hlo, hhi⟩

end Reconciliation

end LogCourier
