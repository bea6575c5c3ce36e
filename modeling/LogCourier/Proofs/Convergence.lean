import LogCourier.Proofs.Coverage

/-!
# Convergence over a log at rest

While the log stays as it is and nothing fails (`Undisturbed`), a round leaves the cursor at the
newest row, or at 0 if it was beyond the newest row (`Undisturbed.of_cons`): the last entry that
is collected is the newest of the log, whatever the limits cut off before it. So after two rounds
the cursor is at the newest row, and from then on a round is up to date and asks for the newest
row only.

A cycle comes to a result unless rows are pending for which there is no room
(`Unhindered.eq_none_iff`). So whether the newest row is reached goes by the room for what is
pending at first, or after the cursor was set to 0 (`converges`).
-/

namespace LogCourier

open Dialogue Work
open Rehearsal (World)

namespace Pipeline

variable {p : Pipeline} {m : Memory} {c : Cursor} {l rest entries : List LogEntry} {e : LogEntry}
  {row : UInt64} {t : Transcript} {a : Account} {log : Nat → List LogEntry}

/-! ### What is collected of a log -/

theorem pending_pos (hlt : c.row < row) :
  0 < (row - c.row).toNat
  := by
  rw [Reconciliation.toNat_pending hlt]
  apply Nat.sub_pos_of_lt (UInt64.lt_iff_toNat_lt.mp hlt)

/-- A cycle may fetch a page if a row is pending. -/
theorem pages_pos (hlt : c.row < row) :
  0 < (Reconciliation.pages p.limits c row).toNat
  := by
  rw [Reconciliation.pages, Reconciliation.toNat_pagesToFetch]
  apply Reconciliation.pageBudget_pos (pending_pos hlt)

/-- The last entry collected is the newest of the log, as it stood when page 1 was answered. -/
theorem Collected.getLast?_eq (h : Collected p c t row entries) (hlog : GrowingLog log)
    (hpages : Pages log t) :
  entries.getLast? = (log 1).head?
  := by
  obtain ⟨hnew, k, -, hreaped⟩ := h.reaped hlog hpages
  obtain ⟨hf, hrow, hlt, hs⟩ := h
  have hk : k ≠ 0 := by
    rintro rfl
    -- without a page nothing is collected, and the scan does not end
    have hnone : entries = [] := List.reverse_eq_nil_iff.mp hreaped.reverse_eq
    rcases hreaped.finished with hspent | hreached | hmany
    · exact absurd hspent (Nat.ne_of_lt (pages_pos hlt))
    · obtain ⟨e, rest, hfirst, rfl⟩ := exists_cons_of_latestRow (hpages.head hf) hrow
      rw [Nat.zero_mul, hfirst, above_cons_of_lt hlt] at hreached
      exact absurd hreached (Nat.not_succ_le_zero _)
    · rw [hnone] at hmany
      exact absurd (pending_pos hlt) (Nat.not_lt.mpr hmany)
  obtain ⟨d, hd⟩ : ∃ d, depth log p.limits.pageSize.toNat k = d + 1 := by
    apply Nat.exists_eq_succ_of_ne_zero
    intro hzero
    apply hk (eq_zero_of_depth_eq_zero (Reconciliation.pageSize_pos p.limits) hzero)
  rw [← List.head?_reverse, hreaped.reverse_eq, hd]
  cases hone : log 1 with
  | nil =>
      rw [hone] at hnew
      exact absurd rfl hnew
  | cons e rest =>
      rw [hone] at hnew
      have hl : Descending (e :: rest) := hone ▸ hlog.descending 1
      have he : c.row < e.row := by
        by_contra he
        apply hnew
        rw [above_cons_of_not_lt he, above_eq_nil_of_cons hl he]
      rw [above_cons_of_lt he, List.take_succ_cons, List.head?_cons, List.head?_cons]

/-! ### A cycle over a log at rest -/

/-- The outside world is asked for the newest row and for nothing else. -/
structure Quiet (t : Transcript) : Prop where
  fetches : (fetches t).length = 1
  pushes : pushes t = []
  writes : writes t = []

/-- The head of a log has its newest row. -/
theorem latestRow_of_pages {head : QueryLogPage}
    {later : List (PageRequest × Except SourceError QueryLogPage)}
    (hpages : Pages (fun _ => l) t) (hf : fetches t = (⟨1, 1⟩, .ok head) :: later) :
  head.latestRow = l.head?.map LogEntry.row
  := by
  rw [QueryLogPage.latestRow, hpages.head hf]
  cases l <;> rfl

/-- A cycle that gets pages only, while the circuit is closed, does not fail to fetch. -/
theorem Idle.of_answered (h : Idle c t a) (ht : Answered t)
    (ha : a.memory.governor.terminated = false) :
  ∃ head, fetches t = [(⟨1, 1⟩, .ok head)]
    ∧ (head.latestRow = none ∧ a.outcome = .ok .sourceEmpty
      ∨ head.latestRow = some c.row ∧ a.outcome = .ok (.upToDate c))
  := by
  cases h with
  | sourceEmpty hf hrow ho => exact ⟨_, hf, .inl ⟨hrow, ho⟩⟩
  | upToDate hf hrow ho => exact ⟨_, hf, .inr ⟨hrow, ho⟩⟩
  | failed ho he hcause =>
      rcases hcause with hopen | ⟨r, error, hmem⟩
      · cases ha.symm.trans hopen
      · obtain ⟨page, hpage⟩ := ht _ hmem
        cases hpage

/-- A cycle that gets pages only, while the circuit is closed, gets the head of the log. -/
theorem Course.exists_head (h : Course p c t a) (ht : Answered t)
    (ha : a.memory.governor.terminated = false) :
  ∃ head later, fetches t = (⟨1, 1⟩, .ok head) :: later
  := by
  cases h with
  | idle hw hp hh hi =>
      obtain ⟨head, hf, -⟩ := hi.of_answered ht ha
      exact ⟨head, [], hf⟩
  | reset hf hrow hlt hw hp hh ho => exact ⟨_, _, hf⟩
  | shipped hc hd hsettled hw hrec ho hall =>
      obtain ⟨hf, hrow, hlt, hscan⟩ := hc
      exact ⟨_, _, hf⟩

namespace Course

variable (h : Course p c t a) (hs : Smooth t) (ha : a.memory.governor.terminated = false)
include h hs ha

/-- A cycle over an empty log looks for the newest row only. -/
theorem of_nil (hpages : Pages (fun _ => []) t) :
  a.outcome = .ok .sourceEmpty ∧ Quiet t
  := by
  cases h with
  | idle hw hp hh hi =>
      obtain ⟨head, hf, ⟨hrow, ho⟩ | ⟨hrow, ho⟩⟩ := hi.of_answered hs.answered ha
      · refine ⟨ho, ?_, hp, hw⟩
        rw [hf, List.length_singleton]
      · cases hrow.symm.trans (latestRow_of_pages hpages hf)
  | reset hf hrow hlt hw hp hh ho => cases hrow.symm.trans (latestRow_of_pages hpages hf)
  | shipped hc hd hsettled hw hrec ho hall =>
      obtain ⟨hf, hrow, hlt, hscan⟩ := hc
      cases hrow.symm.trans (latestRow_of_pages hpages hf)

/-- A cycle over a log compares the cursor with the newest row `e`. At the newest row it looks
for this row only, beyond it it sets the cursor to 0, and before it it delivers entries up to
the newest one. -/
theorem of_cons (hl : Descending (e :: rest)) (hpages : Pages (fun _ => e :: rest) t) :
  (c.row = e.row ∧ a.outcome = .ok (.upToDate c) ∧ Quiet t)
    ∨ (e.row < c.row ∧ persisted c t = .zero)
    ∨ (c.row < e.row ∧ persisted c t = ⟨e.row⟩)
  := by
  have hlast := h.lastEntry_eq
  cases h with
  | idle hw hp hh hi =>
      obtain ⟨head, hf, ⟨hrow, ho⟩ | ⟨hrow, ho⟩⟩ := hi.of_answered hs.answered ha
      · cases hrow.symm.trans (latestRow_of_pages hpages hf)
      · have heq := Option.some.inj (hrow.symm.trans (latestRow_of_pages hpages hf))
        refine .inl ⟨heq, ho, ?_, hp, hw⟩
        rw [hf, List.length_singleton]
  | @reset head row x hf hrow hlt hw hp hh ho =>
      cases hrow.symm.trans (latestRow_of_pages hpages hf)
      have hx : x = .ok () := hs.written (.zero, x) (by rw [hw]; exact List.mem_cons_self)
      rw [persisted_of_writes_singleton hw, hx]
      exact .inr (.inl ⟨hlt, rfl⟩)
  | @shipped row entries total t₂ r hc hd hsettled hw hrec ho hall =>
      have hend : entries.getLast? = some e := hc.getLast?_eq (.const hl) hpages
      rw [hall hs.accepted, Shipping.flatten_chunks, hend, ← hall hs.accepted] at hlast
      obtain ⟨hf, hrow, hlt, hscan⟩ := hc
      cases hrow.symm.trans (latestRow_of_pages hpages hf)
      cases hrec with
      | nothing hnone =>
          rw [Account.delivered, hnone] at hlast
          cases hlast
      | @written last x hsome =>
          cases hsome.symm.trans hlast
          have hone : writes t = [(⟨e.row⟩, x)] := hw
          have hx : x = .ok () := hs.written (⟨e.row⟩, x) (by rw [hone]; exact List.mem_cons_self)
          rw [persisted_of_writes_singleton hone, hx]
          exact .inr (.inr ⟨hlt, rfl⟩)

end Course

/-- A cycle that comes to its end over a log that stays as it is, with an account or without
one. The cursor `c` is persisted at first, and nothing fails. -/
structure Unhindered (p : Pipeline) (l : List LogEntry) (c : Cursor) (m : Memory) (t : Transcript)
    (o : Option Account) : Prop where
  ends : (p.account m).Ends t o
  readsBack : ReadsBack c t
  pages : Pages (fun _ => l) t
  smooth : Smooth t

namespace Unhindered

variable {o : Option Account}

/-- Over an empty log a cycle comes to a result. -/
theorem isSome_of_nil (h : Unhindered p [] c m t o) :
  o.isSome = true
  := by
  cases o with
  | some a => rfl
  | none =>
      obtain ⟨head, row, hf, hrow, -⟩ := (aborted_of_aborts h.ends).not_hasRoom h.readsBack
      cases hrow.symm.trans (latestRow_of_pages h.pages hf)

/-- A cycle that aborts has asked for the newest row and for nothing else. -/
theorem quiet_of_none (h : Unhindered p l c m t none) :
  Quiet t
  := by
  have haborted := aborted_of_aborts h.ends
  obtain ⟨head, row, hf, -⟩ := haborted.not_hasRoom h.readsBack
  have hwithin := haborted.within
  refine ⟨?_, pushes_of_within hwithin, writes_of_within hwithin⟩
  rw [hf, List.length_singleton]

/-- A cycle has no result if rows are pending for which there is no room, and only then. -/
theorem eq_none_iff (h : Unhindered p (e :: rest) c m t o)
    (hm : m.governor.terminated = false) :
  o = none ↔ c.row < e.row ∧ ¬ Reconciliation.HasRoom p.limits c e.row
  := by
  constructor
  · rintro rfl
    obtain ⟨head, row, hf, hrow, hlt, hroom⟩ :=
      (aborted_of_aborts h.ends).not_hasRoom h.readsBack
    cases hrow.symm.trans (latestRow_of_pages h.pages hf)
    exact ⟨hlt, hroom⟩
  · rintro ⟨hlt, hroom⟩
    cases o with
    | none => rfl
    | some a =>
        have ha : a.memory.governor.terminated = false := by
          rw [terminated_of_answered h.ends h.smooth.answered, hm]
        obtain ⟨head, later, hf⟩ :=
          (course_of_yields h.ends h.readsBack).exists_head h.smooth.answered ha
        have hrow := latestRow_of_pages h.pages hf
        exact absurd (hasRoom_of_yields h.ends h.readsBack hf hrow hlt) hroom

end Unhindered

/-! ### Rounds over a log at rest -/

/-- What is remembered after rounds of one program. -/
def lastMemory (m : Memory) (rs : List (Round p)) : Memory :=
  rs.foldl (fun _ r => r.account.memory) m

/-- The cursor from which a log up to the given row is read: beyond the row it is first set
to 0. -/
def turned (c : Cursor) (row : UInt64) : Cursor :=
  if row < c.row then .zero else c

theorem turned_of_le (h : c.row ≤ row) :
  turned c row = c
  := if_neg (UInt64.not_lt.mpr h)

theorem turned_of_lt (h : row < c.row) :
  turned c row = .zero
  := if_pos h

theorem turned_zero :
  turned .zero row = .zero
  := turned_of_le UInt64.zero_le

/-- Rounds of one program over a log that stays as it is. Nothing fails, the circuit is closed at
first, and the cursor `c` is persisted at first. -/
structure Undisturbed (l : List LogEntry) (c : Cursor) (m : Memory) (rs : List (Round p)) :
    Prop where
  descending : Descending l
  closed : m.governor.terminated = false
  continues : Continues m rs
  readsBack : ReadsBack c (transcripts rs)
  pages : ∀ r ∈ rs, Pages (fun _ => l) r.transcript
  smooth : Smooth (transcripts rs)

namespace Undisturbed

variable {r : Round p} {rs before after : List (Round p)}

/-- After an undisturbed round the circuit is closed. -/
theorem closed_after (h : Undisturbed l c m (r :: rs)) :
  r.account.memory.governor.terminated = false
  := by
  obtain ⟨rfl, -⟩ := h.continues
  rw [r.terminated_of_answered (smooth_append.mp h.smooth).1.answered, h.closed]

/-- The first of undisturbed rounds is a cycle that comes to a result. -/
theorem first (h : Undisturbed l c m (r :: rs)) :
  Unhindered p l c m r.transcript (some r.account)
  := by
  have hreads := h.readsBack
  rw [transcripts_cons, readsBack_append] at hreads
  obtain ⟨rfl, -⟩ := h.continues
  exact {
    ends := r.yields
    readsBack := hreads.1
    pages := h.pages r List.mem_cons_self
    smooth := (smooth_append.mp h.smooth).1 }

/-- How the first of undisturbed rounds goes. -/
theorem course (h : Undisturbed l c m (r :: rs)) :
  Course p c r.transcript r.account
  := by
  have hreads := h.readsBack
  rw [transcripts_cons, readsBack_append] at hreads
  apply r.course hreads.1

/-- Undisturbed rounds go on undisturbed. -/
theorem tail (h : Undisturbed l c m (r :: rs)) :
  Undisturbed l (persisted c r.transcript) r.account.memory rs
  := by
  have hreads := h.readsBack
  rw [transcripts_cons, readsBack_append] at hreads
  exact {
    descending := h.descending
    closed := h.closed_after
    continues := h.continues.2
    readsBack := hreads.2
    pages := fun s hs => h.pages s (List.mem_cons_of_mem r hs)
    smooth := (smooth_append.mp h.smooth).2 }

theorem closed_last (h : Undisturbed l c m rs) :
  (lastMemory m rs).governor.terminated = false
  := by
  induction rs generalizing c m with
  | nil => apply h.closed
  | cons r rs ih => apply ih h.tail

theorem left (h : Undisturbed l c m (before ++ after)) :
  Undisturbed l c m before
  := by
  have hreads := h.readsBack
  have hsmooth := h.smooth
  rw [transcripts_append] at hreads hsmooth
  exact {
    descending := h.descending
    closed := h.closed
    continues := h.continues.left
    readsBack := (readsBack_append.mp hreads).1
    pages := fun r hr => h.pages r (List.mem_append_left after hr)
    smooth := (smooth_append.mp hsmooth).1 }

theorem right (h : Undisturbed l c m (before ++ after)) :
  Undisturbed l (persisted c (transcripts before)) (lastMemory m before) after
  := by
  induction before generalizing c m with
  | nil => apply h
  | cons r before ih =>
      rw [transcripts_cons, persisted_append]
      apply ih h.tail

/-- Over an empty log every round finds that the source is empty. -/
theorem of_nil (h : Undisturbed [] c m rs) :
  ∀ r ∈ rs, r.account.outcome = .ok .sourceEmpty ∧ Quiet r.transcript
  := by
  induction rs generalizing c m with
  | nil => apply List.forall_mem_nil
  | cons r rs ih =>
      refine List.forall_mem_cons.mpr ⟨?_, ih h.tail⟩
      apply h.course.of_nil (smooth_append.mp h.smooth).1 h.closed_after
      apply h.pages r List.mem_cons_self

/-- How the first of undisturbed rounds compares the cursor with the newest row. -/
theorem of_cons (h : Undisturbed (e :: rest) c m (r :: rs)) :
  (c.row = e.row ∧ r.account.outcome = .ok (.upToDate c) ∧ Quiet r.transcript)
    ∨ (e.row < c.row ∧ persisted c r.transcript = .zero)
    ∨ (c.row < e.row ∧ persisted c r.transcript = ⟨e.row⟩)
  := by
  apply h.course.of_cons (smooth_append.mp h.smooth).1 h.closed_after h.descending
  apply h.pages r List.mem_cons_self

/-- At the newest row a round is up to date, and so are the ones after it. -/
theorem of_newest (h : Undisturbed (e :: rest) ⟨e.row⟩ m rs) :
  (∀ r ∈ rs, r.account.outcome = .ok (.upToDate ⟨e.row⟩) ∧ Quiet r.transcript)
    ∧ persisted ⟨e.row⟩ (transcripts rs) = ⟨e.row⟩
  := by
  induction rs generalizing m with
  | nil => exact ⟨List.forall_mem_nil _, rfl⟩
  | cons r rs ih =>
      obtain ⟨-, ho, hquiet⟩ | ⟨hlt, -⟩ | ⟨hlt, -⟩ := h.of_cons
      · have hsame := persisted_of_writes_eq_nil (c := ⟨e.row⟩) hquiet.writes
        have hrest := h.tail
        rw [hsame] at hrest
        obtain ⟨hall, hpersisted⟩ := ih hrest
        rw [transcripts_cons, persisted_append, hsame]
        exact ⟨List.forall_mem_cons.mpr ⟨⟨ho, hquiet⟩, hall⟩, hpersisted⟩
      · exact absurd hlt (UInt64.lt_irrefl _)
      · exact absurd hlt (UInt64.lt_irrefl _)

/-- A round that starts up to the newest row is enough to reach it. -/
theorem persisted_of_le (h : Undisturbed (e :: rest) c m (r :: rs)) (hle : c.row ≤ e.row) :
  persisted c (transcripts (r :: rs)) = ⟨e.row⟩
  := by
  have hfirst : persisted c r.transcript = ⟨e.row⟩ := by
    obtain ⟨heq, -, hquiet⟩ | ⟨hlt, -⟩ | ⟨-, hpersisted⟩ := h.of_cons
    · rw [persisted_of_writes_eq_nil hquiet.writes, ← heq]
    · exact absurd hlt (UInt64.not_lt.mpr hle)
    · apply hpersisted
  have hrest := h.tail
  rw [hfirst] at hrest
  rw [transcripts_cons, persisted_append, hfirst]
  apply hrest.of_newest.2

/-- Two rounds are enough to reach the newest row. -/
theorem persisted_of_two (h : Undisturbed (e :: rest) c m rs) (hrs : 2 ≤ rs.length) :
  persisted c (transcripts rs) = ⟨e.row⟩
  := by
  obtain ⟨r, s, rs, rfl⟩ : ∃ r s rs', rs = r :: s :: rs' := by
    match rs, hrs with
    | r :: s :: rs, _ => exact ⟨r, s, rs, rfl⟩
  by_cases hle : c.row ≤ e.row
  · apply h.persisted_of_le hle
  · obtain ⟨heq, -⟩ | ⟨-, hzero⟩ | ⟨hlt, -⟩ := h.of_cons
    · exact absurd (UInt64.le_of_eq heq) hle
    · have hrest := h.tail
      rw [hzero] at hrest
      rw [transcripts_cons, persisted_append, hzero]
      apply hrest.persisted_of_le UInt64.zero_le
    · exact absurd (UInt64.le_of_lt hlt) hle

/-- Undisturbed rounds that leave the cursor before the newest row leave it where the log is read
from. -/
theorem turned_eq (h : Undisturbed (e :: rest) c m rs)
    (hlt : (persisted c (transcripts rs)).row < e.row) :
  turned c e.row = persisted c (transcripts rs)
  := by
  induction rs generalizing c m with
  | nil => apply turned_of_le (UInt64.le_of_lt hlt)
  | cons r rs ih =>
      rw [transcripts_cons, persisted_append] at hlt ⊢
      rw [← ih h.tail hlt]
      obtain ⟨-, -, hquiet⟩ | ⟨hbeyond, hzero⟩ | ⟨-, hnewest⟩ := h.of_cons
      · rw [persisted_of_writes_eq_nil hquiet.writes]
      · rw [hzero, turned_of_lt hbeyond, turned_zero]
      · have hrest := h.tail
        rw [hnewest] at hrest hlt
        rw [hrest.of_newest.2] at hlt
        exact absurd hlt (UInt64.lt_irrefl _)

/-- Undisturbed rounds that reach the newest row had the room for it. -/
theorem hasRoom_of_persisted (h : Undisturbed (e :: rest) c m rs)
    (hpersisted : persisted c (transcripts rs) = ⟨e.row⟩) :
  Reconciliation.HasRoom p.limits (turned c e.row) e.row
  := by
  induction rs generalizing c m with
  | nil =>
      obtain rfl : c = ⟨e.row⟩ := hpersisted
      rw [turned_of_le (UInt64.le_refl _)]
      apply Reconciliation.hasRoom_of_le (UInt64.le_refl _)
  | cons r rs ih =>
      rw [transcripts_cons, persisted_append] at hpersisted
      obtain ⟨heq, -⟩ | ⟨hbeyond, hzero⟩ | ⟨hlt, -⟩ := h.of_cons
      · have hle := UInt64.le_of_eq heq
        rw [turned_of_le hle]
        apply Reconciliation.hasRoom_of_le (UInt64.le_of_eq heq.symm)
      · have hroom := ih h.tail hpersisted
        rwa [hzero, turned_zero, ← turned_of_lt hbeyond] at hroom
      · rw [turned_of_le (UInt64.le_of_lt hlt)]
        by_contra hroom
        cases (h.first.eq_none_iff h.closed).mpr ⟨hlt, hroom⟩

end Undisturbed

/-- While the log stays as it is and nothing fails, two rounds bring the cursor to the newest row,
wherever it was and whatever the limits are; and as soon as it is there, every round is up to date
and asks for the newest row only. Over an empty log every round finds that the source is empty,
and asks for the newest row only.

The rounds go on, with the cycle after them coming to a result, if and only if there is room for
the rows from the cursor, or from 0 if it was beyond the newest row, to the newest row. Without it
the newest row is never reached: once the cursor is before it, the next cycle aborts, and leaves
the cursor where it is. -/
theorem converges {rs : List (Round p)} {o : Option Account} (h : Undisturbed l c m rs)
    (hnext : Unhindered p l (persisted c (transcripts rs)) (lastMemory m rs) t o) :
  (l = [] → o.isSome = true
      ∧ ∀ r ∈ rs, r.account.outcome = .ok .sourceEmpty ∧ Quiet r.transcript)
    ∧ ∀ newest ∈ l, (∀ e ∈ l, e.row ≤ newest.row) →
      (Reconciliation.HasRoom p.limits (turned c newest.row) newest.row →
        o.isSome = true ∧ ∀ before after, rs = before ++ after →
          (2 ≤ before.length → persisted c (transcripts before) = ⟨newest.row⟩)
            ∧ (persisted c (transcripts before) = ⟨newest.row⟩ →
              ∀ r ∈ after,
                r.account.outcome = .ok (.upToDate ⟨newest.row⟩) ∧ Quiet r.transcript))
      ∧ (¬ Reconciliation.HasRoom p.limits (turned c newest.row) newest.row →
        rs.length ≤ 1 ∧ persisted c (transcripts rs) ≠ ⟨newest.row⟩
          ∧ (o = none ↔ (persisted c (transcripts rs)).row < newest.row)
          ∧ (o = none → Quiet t))
  := by
  constructor
  · rintro rfl
    exact ⟨hnext.isSome_of_nil, h.of_nil⟩
  · rintro newest hnewest hmax
    cases l with
    | nil => cases hnewest
    | cons e rest =>
        have heq : newest.row = e.row := by
          apply UInt64.le_antisymm (h.descending.row_le_head newest hnewest)
          apply hmax e List.mem_cons_self
        have hend := hnext.eq_none_iff h.closed_last
        rw [heq]
        constructor
        · intro hroom
          constructor
          · rw [Option.isSome_iff_ne_none, ne_eq, hend]
            rintro ⟨hlt, hnone⟩
            rw [h.turned_eq hlt] at hroom
            apply hnone hroom
          · rintro before after rfl
            constructor
            · intro htwo
              apply h.left.persisted_of_two htwo
            · intro hpersisted
              have hafter := h.right
              rw [hpersisted] at hafter
              apply hafter.of_newest.1
        · intro hnone
          refine ⟨?_, ?_, ?_, ?_⟩
          · by_contra htwo
            apply hnone
            apply h.hasRoom_of_persisted
            apply h.persisted_of_two (Nat.lt_of_not_le htwo)
          · intro hpersisted
            apply hnone (h.hasRoom_of_persisted hpersisted)
          · rw [hend, and_iff_left_iff_imp]
            intro hlt
            rwa [h.turned_eq hlt] at hnone
          · rintro rfl
            apply hnext.quiet_of_none

/-! ### In worlds without cues -/

/-- In a world without cues a cycle is unhindered. -/
theorem exists_unhindered {w : World} (hw : w.IsCalm) :
  ∃ t o, Unhindered p w.log w.cursor m t o
  := by
  obtain ⟨t, o, hend, hreads, hpages, hsmooth⟩ := exists_ends_of_isCalm hw (p.account m)
  exact ⟨t, o, hend, hreads, hpages, hsmooth⟩

/-- In a world without cues rounds within modest limits are undisturbed. -/
theorem undisturbed_rehearse (hp : p.limits.IsModest) (n : Nat) {w : World} (hw : w.IsCalm)
    (hl : Descending w.log) (hm : m.governor.terminated = false) :
  Undisturbed w.log w.cursor m (rehearse hp n m w)
  := by
  obtain ⟨hpages, hsmooth⟩ := rehearse_of_isCalm hp n m hw
  exact ⟨hl, hm, continues_rehearse hp n m w, readsBack_rehearse hp n m w, hpages, hsmooth⟩

/-- From beyond the newest row two rounds lead to the newest row, and more rounds rest there. -/
theorem converges_from_beyond :
  ∃ (before after : List (Round sample)) (t : Transcript) (o : Option Account),
    before.length = 2 ∧ after.length = 3
      ∧ Undisturbed ([7, 5, 4, 2, 1].map sampleEntry) ⟨9⟩ (.new 5) (before ++ after)
      ∧ (sample.account (lastMemory (.new 5) (before ++ after))).Ends t o ∧ o.isSome = true
      ∧ persisted ⟨9⟩ (transcripts before) = ⟨7⟩
      ∧ ∀ r ∈ after, r.account.outcome = .ok (.upToDate ⟨7⟩) ∧ Quiet r.transcript
  := by
  let rs := rehearse isModest_sample 6 (.new 5) (sampleWorld 9 [7, 5, 4, 2, 1])
  obtain ⟨u, v, x, y, z, last, hrs⟩ : ∃ u v x y z last, rs = [u, v, x, y, z, last] :=
    ⟨_, _, _, _, _, _, rfl⟩
  have h : Undisturbed ([7, 5, 4, 2, 1].map sampleEntry) ⟨9⟩ (.new 5)
      ([u, v] ++ [x, y, z] ++ [last]) := by
    change Undisturbed _ _ _ [u, v, x, y, z, last]
    rw [← hrs]
    apply undisturbed_rehearse isModest_sample 6 (w := sampleWorld 9 [7, 5, 4, 2, 1])
      ⟨rfl, rfl, rfl⟩ (by decide) rfl
  have hnext := h.right.first
  obtain ⟨hroom, -⟩ := (converges h.left hnext).2 (sampleEntry 7) (by decide) (by decide)
  obtain ⟨hsome, hrest⟩ := hroom (by decide)
  obtain ⟨htwo, hafter⟩ := hrest [u, v] [x, y, z] rfl
  have hpersisted := htwo (Nat.le_refl 2)
  exact ⟨[u, v], [x, y, z], _, _, rfl, rfl, h.left, hnext.ends, hsome, hpersisted,
    hafter hpersisted⟩

/-- A pipeline with pages as large and as many as can be. -/
def vast : Pipeline :=
  ⟨.new 4294967295 4294967295 100, "dns"⟩

/-- With pages as large and as many as can be, a log whose only row is 2^63 is never shipped:
nothing fails, but the first cycle aborts and leaves the cursor at 0. No round is ever carried
out. -/
theorem aborts_before_newest :
  ∃ t, Unhindered vast [sampleEntry 9223372036854775808] .zero (.new 1) t none
    ∧ persisted .zero t = .zero
    ∧ ∀ rs : List (Round vast),
      Undisturbed [sampleEntry 9223372036854775808] .zero (.new 1) rs → rs = []
  := by
  obtain ⟨t, o, h⟩ := exists_unhindered (p := vast) (m := .new 1)
    (w := sampleWorld 0 [9223372036854775808]) ⟨rfl, rfl, rfl⟩
  have hroom : ¬ Reconciliation.HasRoom vast.limits .zero 9223372036854775808 := by decide
  obtain rfl := (h.eq_none_iff rfl).mpr ⟨by decide, hroom⟩
  refine ⟨t, h, persisted_of_writes_eq_nil h.quiet_of_none.writes, ?_⟩
  rintro (_ | ⟨r, rs⟩) hrs
  · rfl
  · cases (hrs.first.eq_none_iff rfl).mpr ⟨by decide, hroom⟩

end Pipeline

end LogCourier
