import LogCourier.Job
import LogCourier.Proofs.Backlog
import LogCourier.Proofs.Rounds

/-!
# Room for a harvest

A harvest makes room for all that it may collect before it fetches a page: for the rows pending,
or for what the allowed pages hold if this is less (`toNat_room`). The work aborts where this is
more than can be asked for in one piece, and nowhere else: a reconciliation or a cycle that
finds rows beyond the cursor aborts if there is no room for them (`Aborted.not_hasRoom`), and has
a result only if there is (`hasRoom_of_yields`). Where the allowed pages hold no more than there is
room for (`Limits.IsModest`), a job never aborts (`Job.total_run`).
-/

namespace LogCourier

open Dialogue Work

namespace Reconciliation

variable {limits : Limits} {c : Cursor} {row : UInt64} {g g' : Governor} {t : Transcript}

/-- What a cycle may collect from the cursor up to the row is no more than there is room for. -/
def HasRoom (limits : Limits) (c : Cursor) (row : UInt64) : Prop :=
  min (row.toNat - c.row.toNat) (limits.pageSize.toNat * limits.pageCap.toNat) * entryBytes
    ≤ maxBytes

instance : Decidable (HasRoom limits c row) :=
  inferInstanceAs (Decidable (_ ≤ _))

/-- Room is made for the rows pending, or for as many as the allowed pages hold. -/
theorem toNat_room (h : c.row < row) :
  (room limits c row).toNat
    = min (row.toNat - c.row.toNat) (limits.pageSize.toNat * limits.pageCap.toNat)
  := by
  rw [room, UInt64.toNat_min, toNat_capacity, toNat_pages h, toNat_pending h]
  generalize row.toNat - c.row.toNat = n
  have hleft : n - pageBudget limits n * limits.pageSize.toNat
      = n - limits.pageSize.toNat * limits.pageCap.toNat := sub_pageBudget_mul
  omega

theorem isReservable_room_iff (h : c.row < row) :
  isReservable (room limits c row) = true ↔ HasRoom limits c row
  := by
  rw [isReservable, decide_eq_true_iff, toNat_room h, HasRoom]

/-- Where no row is pending no room is needed. -/
theorem hasRoom_of_le (h : row ≤ c.row) :
  HasRoom limits c row
  := by
  rw [HasRoom, Nat.sub_eq_zero_of_le (UInt64.le_iff_toNat_le.mp h), Nat.zero_min, Nat.zero_mul]
  apply Nat.zero_le

end Reconciliation

open Reconciliation

/-- The allowed pages hold no more entries than there is room for. -/
def Limits.IsModest (limits : Limits) : Prop :=
  limits.pageSize.toNat * limits.pageCap.toNat * entryBytes ≤ maxBytes

instance (limits : Limits) : Decidable limits.IsModest :=
  inferInstanceAs (Decidable (_ ≤ _))

theorem Limits.IsModest.hasRoom {limits : Limits} (h : limits.IsModest) (c : Cursor)
    (row : UInt64) :
  HasRoom limits c row
  := by
  apply Nat.le_trans _ h
  apply Nat.mul_le_mul_right
  apply Nat.min_le_right

namespace Reconciliation

/-! ### Reconciliations -/

/-- After the cursor is read the newest row is asked for. -/
theorem fetches_load {d : Cursor} {u : Transcript} {head : QueryLogPage}
    (hf : (Polling.fetch g ⟨1, 1⟩).Yields t (.ok head, g')) :
  fetches (⟨.load, d⟩ :: (t ++ u)) = (⟨1, 1⟩, .ok head) :: fetches u
  := by
  rw [fetches_cons, fetches_append, Polling.fetches_of_yields_ok hf]
  rfl

/-- A reconciliation that aborts found rows beyond the cursor for which there is no room. It
asked for the newest row and for nothing else. -/
theorem Aborted.not_hasRoom (h : Aborted limits g t) (hread : ReadsBack c t) :
  ∃ head row, fetches t = [(⟨1, 1⟩, .ok head)] ∧ head.latestRow = some row ∧ c.row < row
    ∧ ¬ HasRoom limits c row
  := by
  obtain ⟨hf, hrow, hlt, hn, hroom⟩ := h
  obtain rfl := (hread.1 _ rfl).symm
  refine ⟨_, _, ?_, hrow, hlt, ?_⟩
  · rw [fetches_cons, fetches_append, fetches_of_within (uses_noteBacklog.within hn),
      Polling.fetches_of_yields_ok hf]
    rfl
  · rw [← isReservable_room_iff hlt, hroom]
    nofun

/-- A reconciliation that aborts has not touched the cursor. -/
theorem Aborted.within (h : Aborted limits g t) :
  Within [.load, .fetch, .clock, .note] t
  := by
  obtain ⟨hf, hrow, hlt, hn, hroom⟩ := h
  exact Pipeline.within_load hf (uses_noteBacklog.within hn).mono

/-- A reconciliation that finds rows beyond the cursor has a result only if there is room for
them. -/
theorem hasRoom_of_yields {o : Except Failure Reconciliation} {head : QueryLogPage}
    {later : List (PageRequest × Except SourceError QueryLogPage)}
    (h : (reconcile limits g).Yields t (o, g')) (hread : ReadsBack c t)
    (hhead : fetches t = (⟨1, 1⟩, .ok head) :: later) (hrow : head.latestRow = some row)
    (hlt : c.row < row) :
  HasRoom limits c row
  := by
  cases reconciled_of_yields h with
  | headFailed hf =>
      cases Polling.fetched_of_yields hf with
      | refused hg => cases hhead
      | failed hg hn => cases hhead
  | sourceEmpty hf hnone hn =>
      cases (fetches_load hf).symm.trans hhead
      cases hnone.symm.trans hrow
  | reset hf hlatest hbefore hr =>
      obtain rfl := (hread.1 _ rfl).symm
      cases (fetches_load hf).symm.trans hhead
      cases hlatest.symm.trans hrow
      exact absurd hbefore (UInt64.lt_asymm hlt)
  | upToDate hf hlatest hn =>
      obtain rfl := (hread.1 _ rfl).symm
      cases (fetches_load hf).symm.trans hhead
      rw [Option.some.inj (hrow.symm.trans hlatest)] at hlt
      exact absurd hlt (UInt64.lt_irrefl _)
  | harvest hf hlatest hbeyond hh =>
      obtain rfl := (hread.1 _ rfl).symm
      cases (fetches_load hf).symm.trans hhead
      cases hlatest.symm.trans hrow
      exact (isReservable_room_iff hlt).mp (isReservable_of_yields_harvest hh)

/-- Within modest limits there is always room. -/
theorem Aborted.not_isModest (h : Aborted limits g t) :
  ¬ limits.IsModest
  := by
  obtain ⟨hf, hrow, hlt, hn, hroom⟩ := h
  intro hmodest
  rw [(isReservable_room_iff hlt).mpr (hmodest.hasRoom _ _)] at hroom
  cases hroom

end Reconciliation

/-! ### Cycles -/

namespace Pipeline

variable {p : Pipeline} {m : Memory} {c : Cursor} {t : Transcript}

/-- A cycle aborts with its reconciliation. -/
theorem aborted_of_aborts (h : (p.account m).Aborts t) :
  Aborted p.limits m.governor t
  := by
  rw [account, reconcile] at h
  rcases aborts_bind.mp h with h | ⟨t₁, ⟨o, m'⟩, t₂, -, -, h⟩
  · rcases aborts_bind.mp h with h | ⟨t₁, x, t₂, -, -, h⟩
    · apply Reconciliation.aborted_of_aborts h
    · exact absurd h (total_pure t₂)
  · rcases o with e | outcome
    · exact absurd h (total_pure t₂)
    · cases outcome with
      | newEntries harvest =>
          obtain ⟨t₃, x, t₄, -, -, h⟩ := Shipping.uses_account.total.aborts_bind.mp h
          exact absurd h (total_pure t₄)
      | sourceEmpty => exact absurd h (total_pure t₂)
      | upToDate cursor => exact absurd h (total_pure t₂)
      | reset previous latestRow => exact absurd h (total_pure t₂)

/-- A cycle that finds rows beyond the cursor has a result only if there is room for them. -/
theorem hasRoom_of_yields {a : Account} {head : QueryLogPage} {row : UInt64}
    {later : List (PageRequest × Except SourceError QueryLogPage)}
    (h : (p.account m).Yields t a) (hread : ReadsBack c t)
    (hhead : fetches t = (⟨1, 1⟩, .ok head) :: later) (hrow : head.latestRow = some row)
    (hlt : c.row < row) :
  HasRoom p.limits c row
  := by
  cases accounted_of_yields h with
  | settled hr ho => apply Reconciliation.hasRoom_of_yields hr hread hhead hrow hlt
  | shipped hr hship =>
      rw [fetches_append, fetches_of_within (Shipping.uses_account.within hship),
        List.append_nil] at hhead
      rw [readsBack_append] at hread
      apply Reconciliation.hasRoom_of_yields hr hread.1 hhead hrow hlt

/-- Within modest limits a cycle never aborts. -/
theorem total_account (h : p.limits.IsModest) :
  (p.account m).Total
  := fun _ ht => (aborted_of_aborts ht).not_isModest h

theorem total_cycle (h : p.limits.IsModest) :
  (p.cycle m).Total
  := by
  rw [cycle_eq_account]
  apply (total_account h).map

end Pipeline

/-! ### Jobs -/

namespace Job

variable {j : Job} {m : Memory} {rounds : Nat}

theorem total_round (h : j.pipeline.limits.IsModest) :
  (j.round m).Total
  := by
  rw [round]
  apply (Pipeline.total_cycle h).bind
  rintro ⟨e | r, m'⟩
  · dsimp only
    rw [noteFailure]
    split <;> exact (uses_log _ _ _).total.bind fun _ => total_pure
  · cases r with
    | shipped harvest report =>
        dsimp only [noteReport]
        rw [noteShipped]
        split <;> exact (uses_log _ _ _).total.bind fun _ => total_pure
    | sourceEmpty => exact (uses_log _ _ _).total.bind fun _ => total_pure
    | upToDate cursor => exact (uses_log _ _ _).total.bind fun _ => total_pure
    | reset previous latestRow => exact (uses_log _ _ _).total.bind fun _ => total_pure

theorem total_cycles (h : j.pipeline.limits.IsModest) :
  (j.cycles rounds m).Total
  := by
  induction rounds generalizing m with
  | zero => apply total_pure
  | succ rounds ih =>
      rw [cycles]
      apply (total_round h).bind
      rintro ⟨e | e, m'⟩
      · apply total_question.bind
        rintro (_ | _)
        · apply ih
        · exact (uses_log _ _ _).total.bind fun _ => total_pure
      · apply total_pure

/-- A job whose pages hold no more than there is room for never aborts. -/
theorem total_run (h : j.pipeline.limits.IsModest) :
  (j.run rounds m).Total
  := by
  rw [run, start]
  apply Total.bind
  · apply total_question.bind
    intro c
    exact (uses_record _).total.bind fun _ => (uses_log _ _ _).total
  · intro _
    apply total_cycles h

end Job

end LogCourier
