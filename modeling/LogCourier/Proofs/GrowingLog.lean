import LogCourier.Rehearsal.World
import LogCourier.Proofs.Scan
import Mathlib.Order.MinMax

/-!
# A log that grows while it is paged

A growing log (`GrowingLog`) is a descending list of entries in front of which newer
entries may be put between one fetch and the next. Growth shifts the entries to later
pages, so the first `k` pages reach a depth in the log that depends on it: `depth log size k`
is the number of entries they cover of the log as it stood when page 1 was answered.

* A scan collects the entries beyond the cursor up to that depth (`Scanned.reaped`).
* The pages reach `n` entries deep if and only if one of them did so when it was answered
  (`le_depth_iff`).
-/

namespace LogCourier

open Work Reconciliation
open Rehearsal (World)

/-- A log at successive moments: its rows fall along the list, and newer entries are put in
front of it from one moment to the next. -/
structure GrowingLog (log : Nat → List LogEntry) : Prop where
  descending : ∀ i, Descending (log i)
  grows : ∀ i, log i <:+ log (i + 1)

/-- The pages in a transcript are those of the log: a page that the fetch number `i` gets is
a page of `log i`. -/
def Pages (log : Nat → List LogEntry) (t : Transcript) : Prop :=
  ∀ i r p, (fetches t)[i]? = some (r, .ok p) → p.entries = (World.page (log i) r).entries

variable {log : Nat → List LogEntry} {t t₁ t₂ : Transcript} {c : Cursor}

theorem GrowingLog.const {l : List LogEntry} (h : Descending l) :
  GrowingLog fun _ => l
  := ⟨fun _ => h, fun _ => List.suffix_rfl⟩

theorem GrowingLog.suffix (h : GrowingLog log) {i j : Nat} (hij : i ≤ j) :
  log i <:+ log j
  := by
  induction hij with
  | refl => apply List.suffix_rfl
  | step _ ih => apply ih.trans (h.grows _)

/-- An entry of the log at some moment is in it at any moment when it has an entry that is not
older. -/
theorem GrowingLog.mem_of_row_le (h : GrowingLog log) {i k : Nat} {a e : LogEntry}
    (he : e ∈ log i) (ha : a ∈ log k) (hle : e.row ≤ a.row) :
  e ∈ log k
  := by
  rcases Nat.le_total i k with hik | hki
  · apply (h.suffix hik).mem he
  · obtain ⟨newer, hnewer⟩ := h.suffix hki
    have hdesc := h.descending i
    rw [← hnewer] at he hdesc
    rcases List.mem_append.mp he with hen | hek
    · have hlt := (List.pairwise_append.mp hdesc).2.2 e hen a ha
      exact absurd hle (UInt64.not_le.mpr hlt)
    · apply hek

/-- What the log gains is beyond the cursor if an entry before is. -/
theorem GrowingLog.length_above (h : GrowingLog log) {i j : Nat} (hij : i ≤ j)
    (hnew : above c (log i) ≠ []) :
  (above c (log j)).length = (above c (log i)).length + ((log j).length - (log i).length)
  := by
  obtain ⟨newer, hnewer⟩ := h.suffix hij
  have hdesc := h.descending j
  obtain ⟨a, ha⟩ := List.exists_mem_of_ne_nil _ hnew
  obtain ⟨hal, hrow⟩ := mem_above.mp ha
  rw [← hnewer] at hdesc ⊢
  have hall : above c newer = newer := by
    apply above_eq_self
    intro e he
    apply UInt64.lt_trans hrow
    apply (List.pairwise_append.mp hdesc).2.2 e he a hal
  rw [above_append, hall, List.length_append, List.length_append, Nat.add_sub_cancel_right,
    Nat.add_comm]

theorem Pages.left (h : Pages log (t₁ ++ t₂)) :
  Pages log t₁
  := by
  intro i r p hi
  apply h i r p
  rw [fetches_append, List.getElem?_append_left]
  · apply hi
  · apply (List.getElem?_eq_some_iff.mp hi).1

theorem Pages.right (h : Pages log (t₁ ++ t₂)) :
  Pages (fun i => log ((fetches t₁).length + i)) t₂
  := by
  intro i r p hi
  apply h
  rw [fetches_append, List.getElem?_append_right (Nat.le_add_right _ _), Nat.add_sub_cancel_left]
  apply hi

theorem Pages.head {r : PageRequest} {p : QueryLogPage}
    {rest : List (PageRequest × Except SourceError QueryLogPage)}
    (h : Pages log t) (ht : fetches t = (r, .ok p) :: rest) :
  p.entries = (World.page (log 0) r).entries
  := by
  apply h 0 r p
  rw [ht]
  rfl

theorem Pages.tail {x : PageRequest × Except SourceError QueryLogPage}
    (h : Pages log t) (ht : fetches t = x :: fetches t₁) :
  Pages (fun i => log (1 + i)) t₁
  := by
  intro i r p hi
  apply h (1 + i) r p
  rw [ht, Nat.add_comm 1 i, List.getElem?_cons_succ]
  apply hi

/-! ### How deep pages reach -/

/-- The number of entries that the first `k` pages cover of the log as it stood when page 1
was answered. -/
def depth (log : Nat → List LogEntry) (size : Nat) : Nat → Nat
  | 0 => 0
  | k + 1 =>
    max (depth log size k) ((k + 1) * size - ((log (k + 1)).length - (log 1).length))

variable {size : Nat}

/-- The first `k` pages reach `n` entries deep if and only if one of them did when it was
answered, counting the entries that the log had gained by then. -/
theorem le_depth_iff {n k : Nat} (hn : 0 < n) :
  n ≤ depth log size k
    ↔ ∃ j, 1 ≤ j ∧ j ≤ k ∧ n + ((log j).length - (log 1).length) ≤ j * size
  := by
  induction k with
  | zero =>
      constructor
      · intro h
        exact absurd hn (Nat.not_lt.mpr h)
      · rintro ⟨j, hj, hjk, -⟩
        omega
  | succ k ih =>
      rw [depth, le_max_iff, ih]
      constructor
      · rintro (⟨j, hj, hjk, hreach⟩ | hreach)
        · exact ⟨j, hj, by omega, hreach⟩
        · exact ⟨k + 1, by omega, Nat.le_refl _, by omega⟩
      · rintro ⟨j, hj, hjk, hreach⟩
        rcases Nat.lt_or_eq_of_le hjk with hlt | rfl
        · exact .inl ⟨j, hj, by omega, hreach⟩
        · exact .inr (by omega)

/-- The next page begins no deeper than the pages before it reach. -/
theorem GrowingLog.mul_le_depth (h : GrowingLog log) (k : Nat) :
  k * size ≤ depth log size k + ((log (k + 1)).length - (log 1).length)
  := by
  cases k with
  | zero =>
      rw [Nat.zero_mul]
      apply Nat.zero_le
  | succ k =>
      have hgrow := (h.grows (k + 1)).length_le
      have hle : (k + 1) * size - ((log (k + 1)).length - (log 1).length)
          ≤ depth log size (k + 1) := Nat.le_max_right _ _
      omega

/-- One page of positive size reaches something. -/
theorem eq_zero_of_depth_eq_zero {k : Nat} (hsize : 0 < size) (h : depth log size k = 0) :
  k = 0
  := by
  by_contra hk
  have hone : 1 ≤ depth log size k := by
    apply (le_depth_iff Nat.one_pos).mpr
    refine ⟨1, Nat.le_refl 1, by omega, ?_⟩
    omega
  omega

/-! ### Scanning a growing log -/

/-- The first `d` elements of a list with a window of the elements after them, where the
window is given by positions in a list with `g` more elements in front. -/
theorem take_append_window {α : Type} {l : List α} {g d start size : Nat} (h : start ≤ d + g) :
  l.take d ++ ((l.drop d).drop (start - (g + min d l.length))).take
      (size - (g + min d l.length - start))
    = l.take (max d (start + size - g))
  := by
  rcases Nat.le_total d l.length with hd | hd
  · have hstart : start - (g + d) = 0 := by omega
    rw [Nat.min_eq_left hd, hstart, List.drop_zero, ← List.take_add]
    congr 1
    omega
  · rw [List.drop_of_length_le hd, List.drop_nil, List.take_nil, List.append_nil,
      List.take_of_length_le hd, List.take_of_length_le (Nat.le_trans hd (Nat.le_max_left _ _))]

/-- A page of a log, some of which was put in front of `l` since its entries up to the depth
`d` were collected, adds those up to the end of the page. -/
theorem collectNewer_window {newer l collected : List LogEntry} {start d : Nat}
    (hl : Descending (newer ++ l)) (hnew : above c l ≠ [])
    (hcollected : collected.reverse = (above c l).take d) (hfirst : d = 0 → newer = [])
    (hstart : start ≤ d + newer.length) :
  (collectNewer c collected (((newer ++ l).drop start).take size)).1.reverse
    = (above c l).take (max d (start + size - newer.length))
  := by
  have hdesc : Descending l := hl.sublist (List.sublist_append_right newer l)
  have htake := List.take_prefix d (above c l)
  obtain ⟨older, holder⟩ := htake.trans (above_isPrefix hdesc)
  have hmem : ∀ e ∈ (above c l).take d, c.row < e.row := by
    intro e he
    apply (mem_above.mp (List.mem_of_mem_take he)).2
  have habove : above c older = (above c l).drop d := by
    have hsplit := @above_append c ((above c l).take d) older
    rw [holder, above_eq_self hmem] at hsplit
    apply List.append_cancel_left
    apply Eq.trans hsplit.symm (List.take_append_drop d _).symm
  have hbeyond : ∀ e ∈ collected, c.row < e.row := by
    intro e he
    apply hmem e
    rw [← hcollected]
    apply List.mem_reverse.mpr he
  have hempty : collected = [] → newer = [] := by
    rintro rfl
    rcases List.take_eq_nil_iff.mp hcollected.symm with hd | hnil
    · apply hfirst hd
    · exact absurd hnil hnew
  have hlog : newer ++ l = newer ++ collected.reverse ++ older := by
    rw [hcollected, List.append_assoc, holder]
  rw [hlog] at hl ⊢
  have hold : Descending older := (List.pairwise_append.mp hl).2.1
  rw [List.drop_append, List.take_append, reverse_collectNewer_append hl hbeyond hempty,
    above_take (hold.sublist (List.drop_sublist _ _)), above_drop hold, habove,
    List.length_drop, List.length_append, hcollected, List.length_take]
  · apply take_append_window hstart
  · intro e he
    apply List.mem_of_mem_drop (List.mem_of_mem_take he)
  · apply (List.take_sublist _ _).trans (List.drop_sublist _ _)

/-- What a scan that was allowed `pages` pages and fetched `k` of them has collected. -/
structure Reaped (log : Nat → List LogEntry) (c : Cursor) (pending : UInt64) (size pages k : Nat)
    (entries : List LogEntry) : Prop where
  /-- The entries beyond the cursor, oldest first, as deep as the pages reach. -/
  reverse_eq : entries.reverse = (above c (log 1)).take (depth log size k)
  /-- Unless the pages were used up, the last one reached all entries beyond the cursor, or
  as many entries as were pending are there. -/
  finished : k = pages ∨ (above c (log k)).length ≤ k * size ∨ pending.toNat ≤ entries.length

namespace Reconciliation

variable {limits : Limits} {pending : UInt64} {left k : Nat} {g g' : Governor}
  {collected entries : List LogEntry}

/-- The entries of page `k + 1` of a log. -/
theorem page_entries (l : List LogEntry) (hk : k + 1 < UInt32.size) :
  (World.page l ⟨.ofNat (k + 1), limits.pageSize⟩).entries
    = (l.drop (k * limits.pageSize.toNat)).take limits.pageSize.toNat
  := by
  simp only [World.page, QueryLogPage.ofEntries, UInt32.toNat_ofNat_of_lt' hk, Nat.add_sub_cancel]

theorem pageSize_pos (limits : Limits) :
  0 < limits.pageSize.toNat
  := UInt32.le_iff_toNat_le.mp limits.one_le_pageSize

/-- Collecting from page `k + 1` what is beyond the cursor. -/
theorem collectNewer_page {page : List LogEntry} (hlog : GrowingLog log)
    (hpage : page = ((log (k + 1)).drop (k * size)).take size) (hsize : 0 < size)
    (hnew : above c (log 1) ≠ [])
    (hcollected : collected.reverse = (above c (log 1)).take (depth log size k)) :
  (collectNewer c collected page).1.reverse = (above c (log 1)).take (depth log size (k + 1))
  := by
  have hstart : k * size ≤ depth log size k + ((log (k + 1)).length - (log 1).length) :=
    hlog.mul_le_depth k
  obtain ⟨newer, hnewer⟩ := hlog.suffix (Nat.le_add_left 1 k)
  have hlength : (log (k + 1)).length - (log 1).length = newer.length := by
    rw [← hnewer, List.length_append, Nat.add_sub_cancel_right]
  have hdesc : Descending (newer ++ log 1) := by
    rw [hnewer]
    apply hlog.descending
  rw [hlength] at hstart
  rw [hpage, depth, hlength, Nat.succ_mul, ← collectNewer_window hdesc hnew hcollected _ hstart,
    hnewer]
  intro hd
  rw [eq_zero_of_depth_eq_zero hsize hd] at hlength
  apply List.eq_nil_of_length_eq_zero
  rw [← hlength, Nat.zero_add, Nat.sub_self]

/-- If page `k + 1` is empty then the entries beyond the cursor end before it. -/
theorem length_above_le_of_blank {l : List LogEntry} (hsize : 0 < size)
    (h : (l.drop (k * size)).take size = []) :
  (above c l).length ≤ (k + 1) * size
  := by
  apply Nat.le_trans above_sublist.length_le
  rw [Nat.succ_mul]
  rcases List.take_eq_nil_iff.mp h with hzero | hdrop
  · omega
  · have hle := List.drop_eq_nil_iff.mp hdrop
    omega

/-- If page `k + 1` has an entry that the cursor covers then the entries beyond the cursor
end on it. -/
theorem length_above_le_of_covered {l : List LogEntry} {e : LogEntry} (hl : Descending l)
    (he : e ∈ (l.drop (k * size)).take size) (hc : ¬ c.row < e.row) :
  (above c l).length ≤ (k + 1) * size
  := by
  rw [List.take_drop] at he
  rw [Nat.succ_mul]
  apply length_above_le hl (List.mem_of_mem_drop he) hc

/-- What page `k + 1` of a growing log has, and what is collected after it. -/
theorem collected_of_fetch {p : QueryLogPage} (hlog : GrowingLog log)
    (hf : (Polling.fetch g ⟨.ofNat (k + 1), limits.pageSize⟩).Yields t (.ok p, g'))
    (hk : k + 1 < UInt32.size) (hpages : Pages (fun i => log (k + 1 + i)) t)
    (hnew : above c (log 1) ≠ [])
    (hcollected : collected.reverse
      = (above c (log 1)).take (depth log limits.pageSize.toNat k)) :
  p.entries
      = ((log (k + 1)).drop (k * limits.pageSize.toNat)).take limits.pageSize.toNat
    ∧ (collectNewer c collected p.entries).1.reverse
      = (above c (log 1)).take (depth log limits.pageSize.toNat (k + 1))
  := by
  have hget := Polling.fetches_of_yields_ok hf
  have hentries := (hpages.head hget).trans (page_entries _ hk)
  exact ⟨hentries, collectNewer_page hlog hentries (pageSize_pos limits) hnew hcollected⟩

/-- A scan of a growing log from page `k + 1` on, by the entries collected before. -/
theorem Scanned.reaped (hlog : GrowingLog log)
    (h : Scanned limits c pending left (k + 1) g collected t (.ok entries, g'))
    (hleft : k + left < UInt32.size) (hpages : Pages (fun i => log (k + 1 + i)) t)
    (hnew : above c (log 1) ≠ [])
    (hcollected : collected.reverse
      = (above c (log 1)).take (depth log limits.pageSize.toNat k)) :
  Reaped log c pending limits.pageSize.toNat (k + left) (k + (fetches t).length) entries
  := by
  generalize ho : (Except.ok entries, g') = o at h
  generalize hpage : k + 1 = page at h
  induction h generalizing k with
  | spent =>
      cases ho
      exact ⟨hcollected, .inl rfl⟩
  | failed hf => cases ho
  | @blank left page g g' collected t p hf hp =>
      cases ho
      subst hpage
      obtain ⟨hentries, hcollect⟩ := collected_of_fetch hlog hf (by omega) hpages hnew hcollected
      have hnil : p.entries = [] := List.isEmpty_iff.mp hp
      rw [Polling.fetches_of_yields_ok hf, List.length_singleton]
      constructor
      · rw [← hcollect, hnil, collectNewer]
      · rw [hnil] at hentries
        exact .inr (.inl (length_above_le_of_blank (pageSize_pos limits) hentries.symm))
  | @enough left page g g' collected t p hf hp henough =>
      cases ho
      subst hpage
      obtain ⟨hentries, hcollect⟩ := collected_of_fetch hlog hf (by omega) hpages hnew hcollected
      rw [Polling.fetches_of_yields_ok hf, List.length_singleton]
      use hcollect
      rcases Bool.or_eq_true_iff.mp henough with hflag | hmany
      · obtain ⟨e, he, hc⟩ := covered_of_collectNewer hflag
        rw [hentries] at he
        exact .inr (.inl (length_above_le_of_covered (hlog.descending _) he hc))
      · exact .inr (.inr (of_decide_eq_true hmany))
  | @further left page g g' collected t t' p o hf hp hs ih =>
      subst hpage
      obtain ⟨hentries, hcollect⟩ :=
        collected_of_fetch hlog hf (by omega) hpages.left hnew hcollected
      have hget := Polling.fetches_of_yields_ok hf
      have hrest := hpages.right
      simp only [hget, List.length_singleton, ← Nat.add_assoc] at hrest
      have h := ih (by omega) hrest hcollect ho rfl
      rw [fetches_append, hget, List.length_append, List.length_singleton, ← Nat.add_assoc k 1,
        ← Nat.add_assoc k left 1, Nat.add_right_comm k left 1]
      apply h

end Reconciliation

end LogCourier
