import LogCourier.Proofs.Convergence

/-!
# What is harvested from a stable log

A log that stays as it is while it is paged is harvested exactly: the harvest is made up of the
newest entries beyond the cursor, as many as the allowed pages hold (`harvests_newest`). The
number of pages goes by the difference of two rows and the scan goes by entries, but neither
leaves anything out for the other, for there are no more entries than rows
(`Reaped.reverse_eq_take`). There is a harvest if and only if there is room for the rows pending;
without it the reconciliation aborts (`eq_none_iff`).
-/

namespace LogCourier

open Dialogue Work

variable {c : Cursor} {row : UInt64} {l : List LogEntry}

/-- Every row beyond the cursor up to the given one is that of an entry. -/
def GapFree (c : Cursor) (row : UInt64) (l : List LogEntry) : Prop :=
  ∀ r, c.row < r → r ≤ row → ∃ e ∈ l, e.row = r

/-- Without gaps there are at least as many entries beyond the cursor as rows. -/
theorem GapFree.le_length_above (h : GapFree c row l) :
  row.toNat - c.row.toNat ≤ (above c l).length
  := by
  have hsub : List.range' (c.row.toNat + 1) (row.toNat - c.row.toNat)
      ⊆ (above c l).map fun e => e.row.toNat := by
    intro n hn
    obtain ⟨hlo, hhi⟩ := List.mem_range'_1.mp hn
    have hrow := row.toNat_lt_size
    have hvalue : (UInt64.ofNat n).toNat = n := UInt64.toNat_ofNat_of_lt' (by omega)
    have hbeyond : c.row < UInt64.ofNat n := by
      apply UInt64.lt_iff_toNat_lt.mpr
      omega
    have hle : UInt64.ofNat n ≤ row := by
      apply UInt64.le_iff_toNat_le.mpr
      omega
    obtain ⟨e, he, heq⟩ := h _ hbeyond hle
    apply List.mem_map.mpr
    refine ⟨e, mem_above.mpr ⟨he, ?_⟩, ?_⟩
    · rw [heq]
      apply hbeyond
    · rw [heq, hvalue]
  have hle := (List.subperm_of_subset List.nodup_range' hsub).length_le
  rw [List.length_range', List.length_map] at hle
  apply hle

/-- Of a log that does not grow, `k` pages reach `k` times the size of a page deep. -/
theorem depth_const (size k : Nat) :
  depth (fun _ => l) size k = k * size
  := by
  induction k with
  | zero =>
      rw [Nat.zero_mul]
      rfl
  | succ k ih =>
      rw [depth, ih, Nat.sub_self, Nat.sub_zero]
      apply Nat.max_eq_right
      apply Nat.mul_le_mul_right size (Nat.le_succ k)

/-- If no page beyond the allowed ones was fetched of a log that does not grow, and there are no
more entries beyond the cursor than rows pending, then the entries collected are as many as the
allowed pages hold: wherever the scan ended, what it did not fetch held no entry more. -/
theorem Reaped.reverse_eq_take {pending : UInt64} {size pages k : Nat} {entries : List LogEntry}
    (h : Reaped (fun _ => l) c pending size pages k entries) (hk : k ≤ pages)
    (hle : (above c l).length ≤ pending.toNat) :
  entries.reverse = (above c l).take (pages * size)
  := by
  obtain ⟨hentries, hfinished⟩ := h
  rw [depth_const] at hentries
  have hreach : k * size ≤ pages * size := Nat.mul_le_mul_right size hk
  have hall : (above c l).length ≤ k * size →
      entries.reverse = (above c l).take (pages * size) := by
    intro hn
    rw [hentries, List.take_of_length_le hn, List.take_of_length_le (Nat.le_trans hn hreach)]
  rcases hfinished with rfl | hreached | hmany
  · apply hentries
  · apply hall hreached
  · apply hall
    have hlength := congrArg List.length hentries
    rw [List.length_reverse, List.length_take] at hlength
    omega

namespace Reconciliation

variable {limits : Limits} {g g' : Governor} {t : Transcript} {pending : UInt64}

/-! ### Harvesting -/

/-- A scan that ends well fetched no more pages than it was allowed to. -/
theorem Scanned.length_fetches_le {left page : Nat} {collected entries : List LogEntry}
    (h : Scanned limits c pending left page g collected t (.ok entries, g')) :
  (fetches t).length ≤ left
  := by
  obtain ⟨k, hk, hasked⟩ := h.exists_asked
  have hlength := congrArg List.length hasked
  rw [asked, List.length_map, List.length_map, List.length_range'] at hlength
  rwa [hlength]

theorem not_failed_of_answered (ht : Answered t) :
  ¬ ∃ r error, (r, .error error) ∈ fetches t
  := by
  rintro ⟨r, error, hmem⟩
  obtain ⟨page, hpage⟩ := ht _ hmem
  cases hpage

/-- A reconciliation whose fetches all get pages collects entries, if the newest row is beyond
the cursor. -/
theorem collected_of_yields {p : Pipeline} {first : LogEntry} {o : Except Failure Reconciliation}
    (h : (reconcile p.limits g).Yields t (o, g')) (hg : g.terminated = false)
    (ht : Answered t) (hread : ReadsBack c t) (hpages : Pages (fun _ => l) t)
    (hfirst : l.head? = some first) (hc : c.row < first.row) :
  ∃ entries, Pipeline.Collected p c t first.row entries
    ∧ o = .ok (.newEntries (harvestOf p.limits c first.row entries))
  := by
  have hreconciled := reconciled_of_yields h
  have hopen : g'.terminated = false := by
    rw [hreconciled.terminated_of_answered ht, hg]
  have hlatest : ∀ {head later}, fetches t = (⟨1, 1⟩, .ok head) :: later →
      head.latestRow = some first.row := by
    intro head later hf
    rw [Pipeline.latestRow_of_pages hpages hf, hfirst, Option.map_some]
  cases hreconciled with
  | headFailed hf =>
      obtain ⟨-, hterminated | hfailed⟩ := Polling.refused_or_failed hf
      · cases hopen.symm.trans hterminated
      · exact absurd ⟨_, hfailed⟩ (not_failed_of_answered ht)
  | sourceEmpty hf hrow hn => cases hrow.symm.trans (hlatest (fetches_load hf))
  | reset hf hrow hlt hr =>
      obtain rfl := (hread.1 _ rfl).symm
      cases hrow.symm.trans (hlatest (fetches_load hf))
      exact absurd hlt (UInt64.lt_asymm hc)
  | upToDate hf hrow hn =>
      obtain rfl := (hread.1 _ rfl).symm
      have heq := hrow.symm.trans (hlatest (fetches_load hf))
      rw [Option.some.inj heq] at hc
      exact absurd hc (UInt64.lt_irrefl _)
  | harvest hf hrow hlt hh =>
      obtain rfl := (hread.1 _ rfl).symm
      cases hrow.symm.trans (hlatest (fetches_load hf))
      obtain ⟨n, t₁, s, rfl, hn, hs, rfl⟩ := scanned_of_yields_harvest hh
      have hfetches := fetches_load (d := c) (u := n ++ t₁) hf
      rw [fetches_append, fetches_of_within hn, List.nil_append] at hfetches
      cases s with
      | error e =>
          obtain ⟨-, hterminated | ⟨r, error, hmem⟩⟩ := hs.refused_or_failed
          · cases hopen.symm.trans hterminated
          · apply absurd _ (not_failed_of_answered ht)
            use r, error
            rw [hfetches]
            apply List.mem_cons_of_mem _ hmem
      | ok entries => exact ⟨entries, .intro hfetches hrow hlt hs, rfl⟩

/-- A reconciliation whose fetches all get pages, with the newest row beyond the cursor, has no
result if there is no room for the rows pending, and only then. -/
theorem eq_none_iff {p : Pipeline} {first : LogEntry}
    {o : Option (Except Failure Reconciliation × Governor)}
    (h : (reconcile p.limits g).Ends t o) (hg : g.terminated = false) (ht : Answered t)
    (hread : ReadsBack c t) (hpages : Pages (fun _ => l) t) (hfirst : l.head? = some first)
    (hc : c.row < first.row) :
  o = none ↔ ¬ HasRoom p.limits c first.row
  := by
  constructor
  · rintro rfl
    obtain ⟨head, row, hf, hrow, hlt, hroom⟩ := (aborted_of_aborts h).not_hasRoom hread
    have heq := hrow.symm.trans (Pipeline.latestRow_of_pages hpages hf)
    rw [hfirst] at heq
    cases heq
    apply hroom
  · intro hroom
    cases o with
    | none => rfl
    | some x =>
        obtain ⟨entries, ⟨hf, hrow, -, -⟩, -⟩ :=
          collected_of_yields h hg ht hread hpages hfirst hc
        exact absurd (hasRoom_of_yields h hread hf hrow hc) hroom

/-- The harvest of a log up to the given row has the newest entries beyond the cursor, as many as
the allowed pages hold, in ascending order. What is left out is at most what is reported as
unharvested; it is just that if the rows beyond the cursor have no gaps, and nothing if nothing is
reported. -/
structure TakesNewest (limits : Limits) (c : Cursor) (row : UInt64) (l : List LogEntry)
    (harvest : Harvest) : Prop where
  entries_eq : harvest.entries = ((above c l).take
    (pageBudget limits (row.toNat - c.row.toNat) * limits.pageSize.toNat)).reverse
  ascending : Ascending harvest.entries
  left_le : (above c l).length - harvest.entries.length ≤ harvest.unharvested.toNat
  left_eq : GapFree c row l →
    (above c l).length - harvest.entries.length = harvest.unharvested.toNat
  complete : harvest.unharvested = 0 → harvest.entries.length = (above c l).length

/-- What a cycle collects of a log that stays as it is makes up such a harvest. -/
theorem takesNewest_of_collected {p : Pipeline} {first : LogEntry} {entries : List LogEntry}
    (h : Pipeline.Collected p c t first.row entries) (hl : Descending l)
    (hpages : Pages (fun _ => l) t) (hfirst : l.head? = some first) (hc : c.row < first.row) :
  TakesNewest p.limits c first.row l (harvestOf p.limits c first.row entries)
  := by
  have hpending : (first.row - c.row).toNat = first.row.toNat - c.row.toNat :=
    UInt64.toNat_sub_of_le _ _ (UInt64.le_of_lt hc)
  have hle : (above c l).length ≤ (first.row - c.row).toNat := by
    obtain ⟨rest, rfl⟩ := List.head?_eq_some_iff.mp hfirst
    apply Pipeline.length_above_le_pending hl hl.row_le_head hc
  have hreverse : entries.reverse = (above c l).take
      (pageBudget p.limits (first.row.toNat - c.row.toNat) * p.limits.pageSize.toNat) := by
    obtain ⟨-, k, hk, hreaped⟩ := h.reaped (.const hl) hpages
    obtain ⟨hf, hrow, hlt, hs⟩ := h
    rw [← hpending, ← toNat_pagesToFetch]
    apply hreaped.reverse_eq_take _ hle
    have hscan := hs.length_fetches_le
    rw [hf, List.length_cons] at hk
    rw [← Nat.succ.inj hk]
    apply hscan
  have hunharvested : (harvestOf p.limits c first.row entries).unharvested.toNat
      = first.row.toNat - c.row.toNat
        - pageBudget p.limits (first.row.toNat - c.row.toNat) * p.limits.pageSize.toNat := by
    rw [harvestOf, toNat_unharvested, pages, toNat_pagesToFetch, hpending]
  have hlength := congrArg List.length hreverse
  rw [List.length_reverse, List.length_take] at hlength
  rw [hpending] at hle
  refine ⟨?_, h.ascending, ?_, ?_, ?_⟩
  · rw [← hreverse, List.reverse_reverse]
    rfl
  · rw [hunharvested]
    change _ - entries.length ≤ _
    omega
  · intro hgap
    have hge := hgap.le_length_above
    rw [hunharvested]
    change _ - entries.length = _
    omega
  · intro hzero
    rw [hzero, UInt64.toNat_zero] at hunharvested
    change entries.length = _
    omega

/-- Harvesting a log that stays as it is, whose newest row is beyond the cursor. If there is room
for the rows pending then the reconciliation comes to a harvest, which takes the newest entries
beyond the cursor; without room it aborts. -/
theorem harvests_newest {p : Pipeline} {first : LogEntry}
    {o : Option (Except Failure Reconciliation × Governor)}
    (h : (reconcile p.limits g).Ends t o) (hg : g.terminated = false)
    (ht : Answered t) (hread : ReadsBack c t) (hl : Descending l) (hpages : Pages (fun _ => l) t)
    (hfirst : l.head? = some first) (hc : c.row < first.row) :
  (HasRoom p.limits c first.row →
    ∃ harvest g', o = some (.ok (.newEntries harvest), g')
      ∧ TakesNewest p.limits c first.row l harvest)
    ∧ (¬ HasRoom p.limits c first.row → o = none)
  := by
  have hnone := eq_none_iff h hg ht hread hpages hfirst hc
  refine ⟨?_, hnone.mpr⟩
  intro hroom
  cases o with
  | none => exact absurd hroom (hnone.mp rfl)
  | some x =>
      obtain ⟨o, g'⟩ := x
      obtain ⟨entries, hcollected, rfl⟩ := collected_of_yields h hg ht hread hpages hfirst hc
      exact ⟨_, g', rfl, takesNewest_of_collected hcollected hl hpages hfirst hc⟩

/-- One page of two entries is harvested of a log with gaps: beyond row 2 two entries are left
out, and five rows are reported. -/
theorem harvests_newest_of_gaps :
  ∃ t g' harvest, (reconcile (.new 2 1 2) (.new 3)).Yields t (.ok (.newEntries harvest), g')
    ∧ harvest.entries = [8, 9].map Pipeline.sampleEntry ∧ 2 ≤ harvest.unharvested.toNat
  := by
  let p : Pipeline := ⟨.new 2 1 2, "dns"⟩
  obtain ⟨t, o, h, hread, hpages, hsmooth⟩ := exists_ends_of_isCalm
    (w := Pipeline.sampleWorld 2 [9, 8, 5, 3, 1]) ⟨rfl, rfl, rfl⟩ (reconcile p.limits (.new 3))
  obtain ⟨harvest, g', rfl, hnewest⟩ := (harvests_newest h rfl hsmooth.answered hread (by decide)
    hpages rfl (by decide)).1 (by decide)
  have htwo : harvest.entries = [8, 9].map Pipeline.sampleEntry := by
    rw [hnewest.entries_eq]
    decide +kernel
  have hle := hnewest.left_le
  rw [htwo] at hle
  exact ⟨t, g', harvest, h, htwo, hle⟩

/-- With pages as large and as many as can be, the only row 2^63 of a log is not harvested: every
fetch gets its page of the log, but the reconciliation aborts and so has no result. -/
theorem aborts_without_room :
  ∃ t, (reconcile Pipeline.vast.limits (.new 3)).Aborts t ∧ Answered t ∧ ReadsBack .zero t
    ∧ Pages (fun _ => [Pipeline.sampleEntry 9223372036854775808]) t
    ∧ ∀ o, ¬ (reconcile Pipeline.vast.limits (.new 3)).Yields t o
  := by
  obtain ⟨t, o, h, hread, hpages, hsmooth⟩ := exists_ends_of_isCalm
    (w := Pipeline.sampleWorld 0 [9223372036854775808]) ⟨rfl, rfl, rfl⟩
    (reconcile Pipeline.vast.limits (.new 3))
  have hroom : ¬ HasRoom Pipeline.vast.limits .zero 9223372036854775808 := by decide
  obtain rfl := (eq_none_iff h rfl hsmooth.answered hread hpages rfl (by decide)).mpr hroom
  exact ⟨t, h, hsmooth.answered, hread, hpages, fun o => h.not_yields⟩

end Reconciliation

end LogCourier
