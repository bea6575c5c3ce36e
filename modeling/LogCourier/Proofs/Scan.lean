import LogCourier.Pipeline.Reconciliation
import LogCourier.Proofs.Polling
import LogCourier.Proofs.Rows

/-!
# How a scan goes

A scan fetches page after page until a page is empty, a row is met that the cursor covers,
enough rows are collected, the allowed pages are used up, or a fetch fails
(`Reconciliation.Scanned`).

Whatever the source answers, the collected entries are beyond the cursor and ascend
(`Scanned.ascending`, `Scanned.beyond`): an entry is put in front of the others only if its
row is less than theirs.
-/

namespace LogCourier

namespace Reconciliation

open Dialogue Work

variable {limits : Limits} {cursor : Cursor} {pending : UInt64} {collected page : List LogEntry}

/-! ### Collecting the entries of a page -/

theorem ascending_collectNewer (h : Ascending collected) :
  Ascending (collectNewer cursor collected page).1
  := by
  fun_induction collectNewer cursor collected page with
  | case1 => apply h
  | case2 => apply h
  | case3 collected e page hbehind hseen ih => apply ih h
  | case4 collected e page hbehind hseen ih =>
      apply ih
      cases collected with
      | nil => apply List.pairwise_singleton
      | cons oldest rest =>
          have hlt : e.row < oldest.row := by
            simpa using hseen
          apply List.pairwise_cons.mpr
          constructor
          · intro a ha
            rcases List.mem_cons.mp ha with rfl | ha
            · apply hlt
            · apply UInt64.lt_trans hlt
              apply (List.pairwise_cons.mp h).1 a ha
          · apply h

theorem beyond_collectNewer (h : ∀ e ∈ collected, cursor.row < e.row) :
  ∀ e ∈ (collectNewer cursor collected page).1, cursor.row < e.row
  := by
  fun_induction collectNewer cursor collected page with
  | case1 => apply h
  | case2 => apply h
  | case3 collected e page hbehind hseen ih => apply ih h
  | case4 collected e page hbehind hseen ih =>
      apply ih
      intro a ha
      rcases List.mem_cons.mp ha with rfl | ha
      · simpa [Cursor.isBehind_iff] using hbehind
      · apply h a ha

/-- The flag is raised by an entry of the page that the cursor covers. -/
theorem covered_of_collectNewer (h : (collectNewer cursor collected page).2 = true) :
  ∃ e ∈ page, ¬ cursor.row < e.row
  := by
  fun_induction collectNewer cursor collected page with
  | case1 => cases h
  | case2 collected e page hbehind =>
      use e, List.mem_cons_self
      simpa [Cursor.isBehind] using hbehind
  | case3 collected e page hbehind hseen ih =>
      obtain ⟨a, ha, hc⟩ := ih h
      use a, List.mem_cons_of_mem e ha
  | case4 collected e page hbehind hseen ih =>
      obtain ⟨a, ha, hc⟩ := ih h
      use a, List.mem_cons_of_mem e ha

/-- Entries at the beginning of a page that are not older than the collected ones are left
out. -/
theorem collectNewer_append_of_seen {seen : List LogEntry} {oldest : LogEntry}
    (hc : cursor.row < oldest.row) (hs : ∀ e ∈ seen, oldest.row ≤ e.row) :
  collectNewer cursor (oldest :: collected) (seen ++ page)
    = collectNewer cursor (oldest :: collected) page
  := by
  induction seen with
  | nil => rfl
  | cons e seen ih =>
      obtain ⟨he, hs⟩ := List.forall_mem_cons.mp hs
      have hbehind : cursor.isBehind e.row = true :=
        Cursor.isBehind_iff.mpr (UInt64.lt_of_lt_of_le hc he)
      rw [List.cons_append, collectNewer, hbehind]
      simp only [Bool.not_true, Bool.false_eq_true, if_false, List.head?_cons, Option.any_some,
        decide_eq_true he, if_true]
      apply ih hs

/-- Entries at the beginning of a page that came in since, or are collected already, are left
out. -/
theorem collectNewer_append_of_subset {newer seen : List LogEntry}
    (hdesc : Descending (newer ++ collected.reverse))
    (hbeyond : ∀ e ∈ collected, cursor.row < e.row) (hempty : collected = [] → newer = [])
    (hseen : seen ⊆ newer ++ collected.reverse) :
  collectNewer cursor collected (seen ++ page) = collectNewer cursor collected page
  := by
  cases collected with
  | nil =>
      rw [hempty rfl] at hseen
      rw [List.eq_nil_of_subset_nil hseen, List.nil_append]
  | cons oldest rest =>
      obtain ⟨-, hold, hcross⟩ := List.pairwise_append.mp hdesc
      have holdest : oldest ∈ (oldest :: rest).reverse :=
        List.mem_reverse.mpr List.mem_cons_self
      apply collectNewer_append_of_seen (hbeyond oldest List.mem_cons_self)
      intro e he
      rcases List.mem_append.mp (hseen he) with he | he
      · apply UInt64.le_of_lt (hcross e he oldest holdest)
      · apply (descending_reverse.mp hold).head_le e (List.mem_reverse.mp he)

/-- Of a descending page that is older than what is collected, the entries beyond the
cursor are collected. -/
theorem collectNewer_of_older (hpage : Descending page)
    (hold : ∀ a ∈ page, ∀ b ∈ collected, a.row < b.row) :
  (collectNewer cursor collected page).1 = (above cursor page).reverse ++ collected
  := by
  induction page generalizing collected with
  | nil => rfl
  | cons e page ih =>
      rw [collectNewer]
      by_cases he : cursor.row < e.row
      · have hseen : (collected.head?.any fun oldest => oldest.row ≤ e.row) = false := by
          cases collected with
          | nil => rfl
          | cons oldest rest =>
              simpa using hold e List.mem_cons_self oldest List.mem_cons_self
        obtain ⟨hlt, hpage⟩ := List.pairwise_cons.mp hpage
        rw [Cursor.isBehind_iff.mpr he, hseen, above_cons_of_lt he, List.reverse_cons,
          List.append_assoc]
        apply ih hpage
        intro a ha b hb
        rcases List.mem_cons.mp hb with rfl | hb
        · apply hlt a ha
        · apply hold a (List.mem_cons_of_mem e ha) b hb
      · have hbehind : cursor.isBehind e.row = false := by
          simpa [Cursor.isBehind] using he
        rw [hbehind, above_cons_of_not_lt he, above_eq_nil_of_cons hpage he]
        rfl

/-- From a page of a log, where `newer` came in since the collected entries were there, the
entries beyond the cursor among the older ones are collected. -/
theorem reverse_collectNewer_append {newer seen older : List LogEntry}
    (hdesc : Descending (newer ++ collected.reverse ++ older))
    (hbeyond : ∀ e ∈ collected, cursor.row < e.row) (hempty : collected = [] → newer = [])
    (hseen : seen ⊆ newer ++ collected.reverse) (hpage : page.Sublist older) :
  (collectNewer cursor collected (seen ++ page)).1.reverse
    = collected.reverse ++ above cursor page
  := by
  obtain ⟨hfront, hback, hcross⟩ := List.pairwise_append.mp hdesc
  rw [collectNewer_append_of_subset hfront hbeyond hempty hseen,
    collectNewer_of_older (Descending.sublist hback hpage), List.reverse_append,
    List.reverse_reverse]
  intro a ha b hb
  apply hcross b _ a (hpage.mem ha)
  apply List.mem_append_right newer (List.mem_reverse.mpr hb)

/-! ### Scanning page after page -/

/-- How a scan goes: its transcript, and the outcome with the governor after it. -/
inductive Scanned (limits : Limits) (cursor : Cursor) (pending : UInt64) :
    (left page : Nat) → Governor → (collected : List LogEntry) → Transcript →
      Except Failure (List LogEntry) × Governor → Prop
  | spent {page : Nat} {g : Governor} {collected : List LogEntry} :
      Scanned limits cursor pending 0 page g collected [] (.ok collected, g)
  | failed {left page : Nat} {g g' : Governor} {collected : List LogEntry} {t : Transcript}
      {e : Failure}
      (hf : (Polling.fetch g ⟨.ofNat page, limits.pageSize⟩).Yields t (.error e, g')) :
      Scanned limits cursor pending (left + 1) page g collected t (.error e, g')
  | blank {left page : Nat} {g g' : Governor} {collected : List LogEntry} {t : Transcript}
      {p : QueryLogPage}
      (hf : (Polling.fetch g ⟨.ofNat page, limits.pageSize⟩).Yields t (.ok p, g'))
      (hp : p.isEmpty = true) :
      Scanned limits cursor pending (left + 1) page g collected t (.ok collected, g')
  | enough {left page : Nat} {g g' : Governor} {collected : List LogEntry} {t : Transcript}
      {p : QueryLogPage}
      (hf : (Polling.fetch g ⟨.ofNat page, limits.pageSize⟩).Yields t (.ok p, g'))
      (hp : p.isEmpty = false)
      (henough : ((collectNewer cursor collected p.entries).2
        || pending.toNat ≤ (collectNewer cursor collected p.entries).1.length) = true) :
      Scanned limits cursor pending (left + 1) page g collected t
        (.ok (collectNewer cursor collected p.entries).1, g')
  | further {left page : Nat} {g g' : Governor} {collected : List LogEntry} {t t' : Transcript}
      {p : QueryLogPage} {o : Except Failure (List LogEntry) × Governor}
      (hf : (Polling.fetch g ⟨.ofNat page, limits.pageSize⟩).Yields t (.ok p, g'))
      (hp : p.isEmpty = false)
      (hs : Scanned limits cursor pending left (page + 1) g'
        (collectNewer cursor collected p.entries).1 t' o) :
      Scanned limits cursor pending (left + 1) page g collected (t ++ t') o

theorem scanned_of_yields {left page : Nat} {g : Governor} {t : Transcript}
    {o : Except Failure (List LogEntry) × Governor}
    (h : (scan limits cursor pending left page g collected).Yields t o) :
  Scanned limits cursor pending left page g collected t o
  := by
  induction left generalizing page g collected t with
  | zero =>
      obtain ⟨rfl, rfl⟩ := yields_pure.mp h
      apply Scanned.spent
  | succ left ih =>
      rw [scan] at h
      obtain ⟨t₁, ⟨r, g'⟩, t₂, rfl, hf, hr⟩ := yields_bind.mp h
      cases r with
      | error e =>
          obtain ⟨rfl, rfl⟩ := yields_pure.mp hr
          rw [List.append_nil]
          apply Scanned.failed hf
      | ok p =>
          dsimp only at hr
          split at hr
          · next hp =>
            obtain ⟨rfl, rfl⟩ := yields_pure.mp hr
            rw [List.append_nil]
            apply Scanned.blank hf hp
          · next hp =>
            rw [Bool.not_eq_true] at hp
            split at hr
            · next henough =>
              obtain ⟨rfl, rfl⟩ := yields_pure.mp hr
              rw [List.append_nil]
              apply Scanned.enough hf hp henough
            · next henough =>
              apply Scanned.further hf hp
              apply ih hr

namespace Scanned

variable {left page : Nat} {g g' : Governor} {collected entries : List LogEntry} {t : Transcript}

/-- What collecting the entries of any page preserves holds of the outcome of a scan. -/
theorem preserves {I : List LogEntry → Prop}
    (h : Scanned limits cursor pending left page g collected t (.ok entries, g'))
    (hI : ∀ collected page, I collected → I (collectNewer cursor collected page).1)
    (hc : I collected) :
  I entries
  := by
  generalize ho : (Except.ok entries, g') = o at h
  induction h with
  | spent =>
      cases ho
      apply hc
  | failed hf => cases ho
  | blank hf hp =>
      cases ho
      apply hc
  | enough hf hp henough =>
      cases ho
      apply hI _ _ hc
  | further hf hp hs ih =>
      apply ih _ ho
      apply hI _ _ hc

/-- The collected entries ascend, whatever the source answers. -/
theorem ascending (h : Scanned limits cursor pending left page g [] t (.ok entries, g')) :
  Ascending entries
  := h.preserves (fun _ _ => ascending_collectNewer) List.Pairwise.nil

/-- The collected entries are beyond the cursor, whatever the source answers. -/
theorem beyond (h : Scanned limits cursor pending left page g [] t (.ok entries, g')) :
  ∀ e ∈ entries, cursor.row < e.row
  := h.preserves (I := fun l => ∀ e ∈ l, cursor.row < e.row) (fun _ _ => beyond_collectNewer)
    (List.forall_mem_nil _)

/-- A scan fails, on whatever page, only with one of its fetches. -/
theorem refused_or_failed {e : Failure}
    (h : Scanned limits cursor pending left page g collected t (.error e, g')) :
  e.IsOfSource ∧ (g'.terminated = true ∨ ∃ r error, (r, .error error) ∈ fetches t)
  := by
  generalize ho : (Except.error e, g') = o at h
  induction h with
  | spent => cases ho
  | blank hf hp => cases ho
  | enough hf hp henough => cases ho
  | failed hf =>
      cases ho
      obtain ⟨he, hcause⟩ := Polling.refused_or_failed hf
      exact ⟨he, hcause.imp_right fun hfailed => ⟨_, hfailed⟩⟩
  | further hf hp hs ih =>
      obtain ⟨he, hcause⟩ := ih ho
      refine ⟨he, hcause.imp_right ?_⟩
      rintro ⟨r, error, hfailed⟩
      use r, error
      rw [fetches_append]
      apply List.mem_append_right _ hfailed

/-- A scan asks for page after page, and for no more than it is allowed to. -/
theorem exists_asked {o : Except Failure (List LogEntry) × Governor}
    (h : Scanned limits cursor pending left page g collected t o) :
  ∃ k ≤ left, asked t = (List.range' page k).map fun i => ⟨.ofNat i, limits.pageSize⟩
  := by
  induction h with
  | spent => exact ⟨0, Nat.le_refl 0, rfl⟩
  | failed hf =>
      rw [Polling.asked_of_yields hf]
      split
      · exact ⟨0, Nat.zero_le _, rfl⟩
      · exact ⟨1, Nat.succ_pos _, rfl⟩
  | blank hf hp => exact ⟨1, Nat.succ_pos _, (Polling.asked_of_yields_ok hf).2.1⟩
  | enough hf hp henough => exact ⟨1, Nat.succ_pos _, (Polling.asked_of_yields_ok hf).2.1⟩
  | further hf hp hs ih =>
      obtain ⟨k, hk, hasked⟩ := ih
      refine ⟨k + 1, Nat.succ_le_succ hk, ?_⟩
      rw [asked_append, (Polling.asked_of_yields_ok hf).2.1, hasked, List.range'_succ]
      rfl

/-- A scan that gets pages only leaves the circuit as it is. -/
theorem terminated_of_answered {o : Except Failure (List LogEntry)}
    (h : Scanned limits cursor pending left page g collected t (o, g')) (ht : Answered t) :
  g'.terminated = g.terminated
  := by
  generalize hx : (o, g') = x at h
  induction h with
  | spent =>
      cases hx
      rfl
  | failed hf =>
      cases hx
      apply Polling.terminated_of_answered hf ht
  | blank hf hp =>
      cases hx
      apply Polling.terminated_of_answered hf ht
  | enough hf hp henough =>
      cases hx
      apply Polling.terminated_of_answered hf ht
  | further hf hp hs ih =>
      obtain ⟨hfirst, hrest⟩ := answered_append.mp ht
      rw [ih hrest hx, Polling.terminated_of_answered hf hfirst]

end Scanned

/-- A scan asks the source, the clock and takers of notes only. -/
theorem uses_scan {left page : Nat} {g : Governor} :
  Uses [.fetch, .clock, .note] (scan limits cursor pending left page g collected)
  := by
  induction left generalizing page g collected with
  | zero => apply confined_pure
  | succ left ih =>
      rw [scan]
      apply Confined.bind
      · apply Polling.uses_fetch
      · rintro ⟨e | p, g'⟩
        · apply confined_pure
        · dsimp only
          split
          · apply confined_pure
          · split
            · apply confined_pure
            · apply ih

end Reconciliation

end LogCourier
