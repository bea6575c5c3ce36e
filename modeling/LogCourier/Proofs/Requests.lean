import LogCourier.Proofs.Segments
import Mathlib.Algebra.Order.BigOperators.Group.List

/-!
# What a reconciliation asks for

Whatever the source answers, a reconciliation asks for its newest row and then for page after page
from the first on, and for no more pages than hold the rows pending. What it harvests comes from
these pages: read from the newest entry back, it is what is left of the pages, one after the other,
when entries are taken out (`Scanned.reverse_sublist`). So nothing is harvested that was not got,
no entry twice, and no more than the pages have (`Reconciliation.asks_and_harvests`).
-/

namespace LogCourier

open Dialogue Work
open Rehearsal (World)

namespace Work

variable {t t₁ t₂ : Transcript}

/-- The rows between the cursor and the newest row, if the first page that was asked for told of
it, and 0 otherwise. -/
def pendingRows (c : Cursor) (t : Transcript) : Nat :=
  match fetches t with
  | (_, .ok head) :: _ => head.latestRow.elim 0 fun row => row.toNat - c.row.toNat
  | _ => 0

theorem pendingRows_of_latestRow {c : Cursor} {r : PageRequest} {head : QueryLogPage} {row : UInt64}
    (hf : fetches t = (r, .ok head) :: fetches t₁) (hrow : head.latestRow = some row) :
  pendingRows c t = row.toNat - c.row.toNat
  := by
  rw [pendingRows, hf]
  dsimp only
  rw [hrow, Option.elim_some]

end Work

namespace Reconciliation

variable {limits : Limits} {cursor : Cursor} {pending : UInt64} {left page : Nat} {g g' : Governor}
  {collected entries : List LogEntry} {t : Transcript}

/-- What is collected after a page, read from the newest entry back, is what was collected before
with some entries of the page. -/
theorem reverse_collectNewer_sublist (page : List LogEntry) :
  (collectNewer cursor collected page).1.reverse.Sublist (collected.reverse ++ page)
  := by
  fun_induction collectNewer cursor collected page with
  | case1 collected => exact List.sublist_append_left _ _
  | case2 collected e page hbehind => exact List.sublist_append_left _ _
  | case3 collected e page hbehind hseen ih =>
      exact ih.trans ((List.sublist_cons_self e page).append_left _)
  | case4 collected e page hbehind hseen ih =>
      rwa [List.reverse_cons, List.append_assoc] at ih

namespace Scanned

/-- What is collected in a scan, read from the newest entry back, is what was collected before with
some entries of the pages, one page after the other. -/
theorem reverse_sublist
    (h : Scanned limits cursor pending left page g collected t (.ok entries, g')) :
  entries.reverse.Sublist (collected.reverse ++ (received t).flatMap QueryLogPage.entries)
  := by
  generalize ho : (Except.ok entries, g') = o at h
  induction h with
  | spent =>
      cases ho
      exact List.sublist_append_left _ _
  | failed hf => cases ho
  | blank hf hp =>
      cases ho
      exact List.sublist_append_left _ _
  | enough hf hp henough =>
      cases ho
      rw [(Polling.asked_of_yields_ok hf).2.2, List.flatMap_singleton]
      apply reverse_collectNewer_sublist
  | @further left page g g' collected t t' p o hf hp hs ih =>
      apply (ih ho).trans
      rw [received_append, (Polling.asked_of_yields_ok hf).2.2, List.flatMap_append,
        List.flatMap_singleton, ← List.append_assoc]
      exact (reverse_collectNewer_sublist p.entries).append_right _

/-- A scan that ends well got every page that it asked for. -/
theorem answered (h : Scanned limits cursor pending left page g collected t (.ok entries, g')) :
  Answered t
  := by
  generalize ho : (Except.ok entries, g') = o at h
  induction h with
  | spent => exact List.forall_mem_nil _
  | failed hf => cases ho
  | blank hf hp => exact Polling.answered_of_yields_ok hf
  | enough hf hp henough => exact Polling.answered_of_yields_ok hf
  | further hf hp hs ih =>
      exact answered_append.mpr ⟨Polling.answered_of_yields_ok hf, ih ho⟩

end Scanned

/-! ### A whole reconciliation -/

/-- With the newest row got, the circuit was closed, and what is asked for follows. -/
theorem asked_of_head {c : Cursor} {head : QueryLogPage} {u : Transcript}
    (hf : (Polling.fetch g ⟨1, 1⟩).Yields t (.ok head, g')) :
  asked (⟨.load, c⟩ :: (t ++ u)) = if g.terminated then [] else ⟨1, 1⟩ :: asked u
  := by
  obtain ⟨hclosed, hasked, -⟩ := Polling.asked_of_yields_ok hf
  change asked (t ++ u) = _
  rw [asked_append, hasked, hclosed]
  rfl

/-- A reconciliation asks for the newest row and then for page after page from the first on, unless
the circuit is open. It asks for no more pages than hold the rows pending, and for none beyond the
allowed ones. -/
theorem exists_asked {o : Except Failure Reconciliation}
    (h : (reconcile limits g).Yields t (o, g')) :
  ∃ c u k, t = ⟨.load, c⟩ :: u ∧ k ≤ pageBudget limits (pendingRows c t)
    ∧ asked t = if g.terminated then [] else
      ⟨1, 1⟩ :: (List.range' 1 k).map fun i => ⟨.ofNat i, limits.pageSize⟩
  := by
  cases reconciled_of_yields h with
  | headFailed hf =>
      have hasked := Polling.asked_of_yields hf
      exact ⟨_, _, 0, rfl, Nat.zero_le _, hasked⟩
  | sourceEmpty hf hrow hn =>
      refine ⟨_, _, 0, rfl, Nat.zero_le _, ?_⟩
      rw [asked_of_head hf, asked_of_within ((uses_log _ _ _).within hn)]
      rfl
  | reset hf hrow hlt hr =>
      refine ⟨_, _, 0, rfl, Nat.zero_le _, ?_⟩
      rw [asked_of_head hf, asked_of_within (uses_resetCursor.within hr)]
      rfl
  | upToDate hf hrow hn =>
      refine ⟨_, _, 0, rfl, Nat.zero_le _, ?_⟩
      rw [asked_of_head hf, asked_of_within ((uses_log _ _ _).within hn)]
      rfl
  | @harvest c t t' head g₁ row _ hf hrow hlt hh =>
      obtain ⟨n, t₁, s, rfl, hn, hs, -⟩ := scanned_of_yields_harvest hh
      obtain ⟨k, hk, hasked⟩ := hs.exists_asked
      refine ⟨c, _, k, rfl, ?_, ?_⟩
      · rwa [pendingRows_of_latestRow (fetches_load hf) hrow, ← toNat_pages hlt]
      · rw [asked_of_head hf, asked_append, asked_of_within hn, hasked]
        rfl

/-- The pages got after the newest row are as many as were asked for, and what is collected, read
from the newest entry back, is what is left of them when entries are taken out. -/
theorem exists_received {p : Pipeline} {c : Cursor} {row : UInt64}
    (h : Pipeline.Collected p c t row entries) :
  ∃ head pages, received t = head :: pages ∧ (asked t).length = pages.length + 1
    ∧ entries.reverse.Sublist (pages.flatMap QueryLogPage.entries)
  := by
  obtain @⟨head, g, g', t₁, hf, hrow, hlt, hs⟩ := h
  refine ⟨head, received t₁, ?_, ?_, hs.reverse_sublist⟩
  · rw [received, hf]
    rfl
  · rw [length_received hs.answered, asked, hf]
    rfl

/-- Whatever the source answers, a reconciliation asks for the newest row and then for the first
`k` pages, with `k` at most what the rows pending and the limits allow, unless the circuit is open.
If it finds new entries, it got these pages, the entries ascend, are beyond the cursor and stand in
the pages, and they are no more than the pages hold. -/
theorem asks_and_harvests {p : Pipeline} {o : Except Failure Reconciliation}
    (h : (reconcile p.limits g).Yields t (o, g')) :
  ∃ c u k, t = ⟨.load, c⟩ :: u ∧ k ≤ pageBudget p.limits (pendingRows c t)
    ∧ (asked t = if g.terminated then [] else
      ⟨1, 1⟩ :: (List.range' 1 k).map fun i => ⟨.ofNat i, p.limits.pageSize⟩)
    ∧ ∀ harvest, o = .ok (.newEntries harvest) → ∃ head pages,
      received t = head :: pages ∧ pages.length = k
      ∧ harvest.cursor = c ∧ harvest.pending.toNat = pendingRows c t
      ∧ Ascending harvest.entries ∧ (∀ e ∈ harvest.entries, c.row < e.row)
      ∧ (∀ e ∈ harvest.entries, ∃ page ∈ pages, e ∈ page.entries)
      ∧ ((∀ page ∈ pages, page.entries.length ≤ p.limits.pageSize.toNat) →
        harvest.entries.length ≤ k * p.limits.pageSize.toNat)
  := by
  obtain ⟨c, u, k, rfl, hk, hasked⟩ := exists_asked h
  refine ⟨c, u, k, rfl, hk, hasked, ?_⟩
  rintro harvest rfl
  obtain ⟨c', u', ht, hharvest, hc⟩ := collected_of_newEntries h
  obtain ⟨hload, rfl⟩ := List.cons.inj ht
  obtain rfl : c = c' := by cases hload; rfl
  obtain ⟨head, pages, hreceived, hlength, hsub⟩ := exists_received hc
  -- a page was got, so the circuit was closed, and all that was asked for was got
  have hcount : pages.length = k := by
    rw [hasked] at hlength
    split at hlength
    · cases hlength
    · rw [List.length_cons, List.length_map, List.length_range'] at hlength
      exact (Nat.succ.inj hlength).symm
  refine ⟨head, pages, hreceived, hcount, ?_, ?_, hc.ascending, hc.beyond, ?_, ?_⟩
  · rw [hharvest]
    rfl
  · obtain ⟨hf, hrow, hlt, -⟩ := hc
    rw [pendingRows_of_latestRow hf hrow, hharvest]
    apply UInt64.toNat_sub_of_le _ _ (UInt64.le_of_lt hlt)
  · intro e he
    apply List.mem_flatMap.mp
    apply hsub.mem (List.mem_reverse.mpr he)
  · intro hsize
    calc
      harvest.entries.length = harvest.entries.reverse.length := List.length_reverse.symm
      _ ≤ (pages.flatMap QueryLogPage.entries).length := hsub.length_le
      _ = (pages.map fun page => page.entries.length).sum := List.length_flatMap
      _ ≤ k * p.limits.pageSize.toNat := by
        rw [← hcount, ← List.length_map (fun page => page.entries.length)]
        apply List.sum_le_card_nsmul
        exact List.forall_mem_map.mpr hsize

/-- Pages of a source in disorder: row 6 comes after row 4 and is not harvested, and of row 4,
which comes twice, there is one entry. -/
theorem asks_and_harvests_of_disorder :
  ∃ t g' harvest head pages,
    (reconcile (.new 2 10 2) (.new 3)).Yields t (.ok (.newEntries harvest), g')
    ∧ asked t = [⟨1, 1⟩, ⟨1, 2⟩, ⟨2, 2⟩] ∧ received t = head :: pages
    ∧ (pages = [[4, 6], [4, 3]].map fun rows => .ofEntries (rows.map Pipeline.sampleEntry))
    ∧ harvest.entries = [3, 4].map Pipeline.sampleEntry
    ∧ (∀ e ∈ harvest.entries, ∃ page ∈ pages, e ∈ page.entries)
  := by
  let p : Pipeline := ⟨.new 2 10 2, "dns"⟩
  let w := { Pipeline.sampleWorld 2 [6] with
    source := [.plain, .page ([4, 6].map Pipeline.sampleEntry),
      .page ([4, 3].map Pipeline.sampleEntry)] }
  have hasked : asked (transcript World.answer (reconcile p.limits (.new 3)) w)
      = [⟨1, 1⟩, ⟨1, 2⟩, ⟨2, 2⟩] := by
    decide +kernel
  have hsome : (rehearse p.limits (.new 3) w).map Harvest.entries
      = some ([3, 4].map Pipeline.sampleEntry) := by
    decide +kernel
  have hreceived : (received (transcript World.answer (reconcile p.limits (.new 3)) w)).tail
      = [[4, 6], [4, 3]].map fun rows => .ofEntries (rows.map Pipeline.sampleEntry) := by
    decide +kernel
  obtain ⟨harvest, hharvest, hentries⟩ := Option.map_eq_some_iff.mp hsome
  obtain ⟨g', h⟩ := yields_of_rehearse hharvest
  obtain ⟨c, u, k, -, -, -, hgot⟩ := asks_and_harvests h
  obtain ⟨head, pages, hpages, -, -, -, -, -, hmem, -⟩ := hgot harvest rfl
  rw [hpages] at hreceived
  exact ⟨_, g', harvest, head, pages, h, hasked, hpages, hreceived, hentries, hmem⟩

end Reconciliation

end LogCourier
