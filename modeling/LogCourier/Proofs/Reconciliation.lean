import LogCourier.Proofs.Scan

/-!
# How a reconciliation goes

A reconciliation reads the cursor, asks for the newest row, and goes on in one of five ways
(`Reconciliation.Reconciled`): the fetch fails, the source is empty, the newest row is
before the cursor and the cursor is set to 0, it is at the cursor, or it is beyond the
cursor and the rows in between are collected.

In the last way it may also abort, where the room that it asks for is more than can be had,
and there only (`aborts_harvest_iff`, `Reconciliation.aborted_of_aborts`).
-/

namespace LogCourier

namespace Reconciliation

open Dialogue Work

variable {limits : Limits} {g g' : Governor} {cursor : Cursor} {row : UInt64} {t : Transcript}

/-! ### Resetting the cursor -/

/-- A reset makes one attempt to write the cursor, and succeeds with it. -/
theorem writes_resetCursor {o : Except Failure Reconciliation}
    (h : (resetCursor cursor row).Yields t o) :
  ∃ x, writes t = [(.zero, x)] ∧ o = x.map fun _ => .reset cursor row
  := by
  rw [resetCursor] at h
  obtain ⟨n, u, t', rfl, hn, hr⟩ := yields_bind.mp h
  obtain ⟨x, t'', rfl, hx⟩ := yields_question_bind.mp hr
  use x
  rw [writes_append, writes_of_within ((uses_log _ _ _).within hn), writes_cons]
  cases x with
  | error e =>
      obtain ⟨rfl, rfl⟩ := yields_pure.mp hx
      exact ⟨rfl, rfl⟩
  | ok u =>
      obtain ⟨n', u, t', rfl, hn', hr⟩ := yields_bind.mp hx
      obtain ⟨rfl, rfl⟩ := yields_pure.mp hr
      rw [List.append_nil, writes_of_within ((uses_record _).within hn')]
      exact ⟨rfl, rfl⟩

theorem uses_resetCursor :
  Uses [.note, .store] (resetCursor cursor row)
  := by
  rw [resetCursor]
  apply Confined.bind
  · exact (uses_log _ _ _).mono
  · intro _
    apply Confined.bind
    · apply confined_question.mpr
      apply List.mem_cons_of_mem _ List.mem_cons_self
    · rintro (e | u)
      · apply confined_pure
      · apply Confined.bind
        · exact (uses_record _).mono
        · intro _
          apply confined_pure

/-! ### Harvesting -/

theorem uses_noteBacklog {pending unharvested : UInt64} :
  Uses [.note] (noteBacklog limits cursor row pending unharvested)
  := by
  rw [noteBacklog]
  split <;> split
  · exact (uses_log _ _ _).bind fun _ => (uses_log _ _ _).bind fun _ => uses_record _
  · exact (uses_log _ _ _).bind fun _ => uses_record _
  · exact (uses_log _ _ _).bind fun _ => uses_record _
  · exact uses_record _

/-- Making room leaves no trace, and succeeds if the room can be asked for. -/
theorem yields_reserve_iff {n : UInt64} {u : Unit} :
  (reserve n).Yields t u ↔ isReservable n = true ∧ t = []
  := by
  rw [reserve]
  split
  · next h =>
    rw [yields_pure, and_iff_left rfl, and_iff_right h]
  · next h =>
    apply iff_of_false nofun
    rintro ⟨hn, -⟩
    apply h hn

theorem aborts_reserve_iff {n : UInt64} :
  (reserve n).Aborts t ↔ isReservable n = false ∧ t = []
  := by
  rw [reserve]
  split
  · next h =>
    apply iff_of_false nofun
    rintro ⟨hn, -⟩
    cases h.symm.trans hn
  · next h =>
    rw [and_iff_right (Bool.not_eq_true _ ▸ h)]
    constructor
    · intro h
      cases h
      rfl
    · rintro rfl
      apply Aborts.abort

theorem uses_reserve {n : UInt64} :
  Uses [.abort] (reserve n)
  := by
  rw [reserve]
  split
  · apply confined_pure
  · apply List.mem_singleton_self

theorem uses_harvest :
  Uses [.abort, .fetch, .clock, .note] (harvest limits g cursor row)
  := by
  rw [harvest]
  apply Confined.bind
  · exact uses_noteBacklog.mono
  · intro _
    apply Confined.bind
    · exact uses_reserve.mono
    · intro _
      apply Confined.bind
      · exact uses_scan.mono
      · intro _
        apply confined_pure

/-- The pages that a cycle may fetch. -/
def pages (limits : Limits) (cursor : Cursor) (row : UInt64) : UInt32 :=
  pagesToFetch (row - cursor.row) limits.pageSize limits.pageCap

/-- The entries that a harvest makes room for. -/
def room (limits : Limits) (cursor : Cursor) (row : UInt64) : UInt64 :=
  min (row - cursor.row) (capacity (pages limits cursor row) limits.pageSize)

/-- The harvest of the given entries. -/
def harvestOf (limits : Limits) (cursor : Cursor) (row : UInt64) (entries : List LogEntry) :
    Harvest where
  cursor := cursor
  latestRow := row
  pending := row - cursor.row
  unharvested := unharvested (row - cursor.row) (pages limits cursor row) limits.pageSize
  entries := entries

/-- Note the backlog of a harvest. -/
def noteBacklogOf (limits : Limits) (cursor : Cursor) (row : UInt64) : Work Unit :=
  noteBacklog limits cursor row (row - cursor.row)
    (unharvested (row - cursor.row) (pages limits cursor row) limits.pageSize)

/-- A harvest notes the backlog, makes room, and is what a scan collects. -/
theorem parts_of_yields_harvest {r : Except Failure Reconciliation}
    (h : (harvest limits g cursor row).Yields t (r, g')) :
  ∃ n t' s, t = n ++ t'
    ∧ (noteBacklogOf limits cursor row).Yields n ()
    ∧ isReservable (room limits cursor row) = true
    ∧ Scanned limits cursor (row - cursor.row) (pages limits cursor row).toNat 1 g [] t' (s, g')
    ∧ r = s.map fun entries => .newEntries (harvestOf limits cursor row entries)
  := by
  rw [harvest] at h
  obtain ⟨n, u, t', rfl, hn, hrest⟩ := yields_bind.mp h
  obtain ⟨t₁, v, t₂, rfl, hreserve, hr⟩ := yields_bind.mp hrest
  obtain ⟨hroom, rfl⟩ := yields_reserve_iff.mp hreserve
  obtain ⟨t₃, ⟨s, g''⟩, t₄, rfl, hs, hend⟩ := yields_bind.mp hr
  obtain ⟨rfl, ho⟩ := yields_pure.mp hend
  obtain ⟨rfl, rfl⟩ := Prod.mk.inj ho
  use n, t₃, s
  rw [List.nil_append, List.append_nil]
  exact ⟨rfl, hn, hroom, scanned_of_yields hs, rfl⟩

/-- A harvest aborts where the room that it asks for cannot be had. Then it has noted the
backlog and has done nothing else. -/
theorem aborts_harvest_iff :
  (harvest limits g cursor row).Aborts t
    ↔ isReservable (room limits cursor row) = false
      ∧ (noteBacklogOf limits cursor row).Yields t ()
  := by
  rw [harvest, uses_noteBacklog.total.aborts_bind]
  constructor
  · rintro ⟨n, u, t', rfl, hn, h⟩
    rcases aborts_bind.mp h with h | ⟨t₁, v, t₂, rfl, -, h⟩
    · obtain ⟨hroom, rfl⟩ := aborts_reserve_iff.mp h
      rw [List.append_nil]
      exact ⟨hroom, hn⟩
    · obtain ⟨t₃, r, t₄, -, -, h⟩ := uses_scan.total.aborts_bind.mp h
      exact absurd h (total_pure t₄)
  · rintro ⟨hroom, hn⟩
    refine ⟨t, (), [], (List.append_nil t).symm, hn, aborts_bind.mpr (.inl ?_)⟩
    exact aborts_reserve_iff.mpr ⟨hroom, rfl⟩

/-- A harvest is what a scan collects. -/
theorem scanned_of_yields_harvest {r : Except Failure Reconciliation}
    (h : (harvest limits g cursor row).Yields t (r, g')) :
  ∃ n t' s, t = n ++ t' ∧ Within [.note] n
    ∧ Scanned limits cursor (row - cursor.row) (pages limits cursor row).toNat 1 g [] t' (s, g')
    ∧ r = s.map fun entries => .newEntries (harvestOf limits cursor row entries)
  := by
  obtain ⟨n, t', s, ht, hn, -, hs, hr⟩ := parts_of_yields_harvest h
  exact ⟨n, t', s, ht, uses_noteBacklog.within hn, hs, hr⟩

theorem isReservable_of_yields_harvest {o : Except Failure Reconciliation × Governor}
    (h : (harvest limits g cursor row).Yields t o) :
  isReservable (room limits cursor row) = true
  := by
  obtain ⟨n, t', s, -, -, hroom, -⟩ := parts_of_yields_harvest h
  apply hroom

/-! ### Reconciling -/

/-- How a reconciliation goes: its transcript, and the outcome with the governor after it. -/
inductive Reconciled (limits : Limits) (g : Governor) :
    Transcript → Except Failure Reconciliation × Governor → Prop
  | headFailed {c : Cursor} {t : Transcript} {e : Failure} {g' : Governor}
      (hf : (Polling.fetch g ⟨1, 1⟩).Yields t (.error e, g')) :
      Reconciled limits g (⟨.load, c⟩ :: t) (.error e, g')
  | sourceEmpty {c : Cursor} {t n : Transcript} {head : QueryLogPage} {g' : Governor}
      (hf : (Polling.fetch g ⟨1, 1⟩).Yields t (.ok head, g')) (hrow : head.latestRow = none)
      (hn : (Work.log .debug "Query log source has no entries" []).Yields n ()) :
      Reconciled limits g (⟨.load, c⟩ :: (t ++ n)) (.ok .sourceEmpty, g')
  | reset {c : Cursor} {t t' : Transcript} {head : QueryLogPage} {g' : Governor} {row : UInt64}
      {o : Except Failure Reconciliation}
      (hf : (Polling.fetch g ⟨1, 1⟩).Yields t (.ok head, g')) (hrow : head.latestRow = some row)
      (hlt : row < c.row) (hr : (resetCursor c row).Yields t' o) :
      Reconciled limits g (⟨.load, c⟩ :: (t ++ t')) (o, g')
  | upToDate {c : Cursor} {t n : Transcript} {head : QueryLogPage} {g' : Governor}
      (hf : (Polling.fetch g ⟨1, 1⟩).Yields t (.ok head, g'))
      (hrow : head.latestRow = some c.row)
      (hn : (Work.log .debug "No new query log entries" [("cursor", .text c.text)]).Yields n ()) :
      Reconciled limits g (⟨.load, c⟩ :: (t ++ n)) (.ok (.upToDate c), g')
  | harvest {c : Cursor} {t t' : Transcript} {head : QueryLogPage} {g' : Governor}
      {row : UInt64} {o : Except Failure Reconciliation × Governor}
      (hf : (Polling.fetch g ⟨1, 1⟩).Yields t (.ok head, g')) (hrow : head.latestRow = some row)
      (hlt : c.row < row) (hh : (harvest limits g' c row).Yields t' o) :
      Reconciled limits g (⟨.load, c⟩ :: (t ++ t')) o

theorem reconciled_of_yields {o : Except Failure Reconciliation × Governor}
    (h : (reconcile limits g).Yields t o) :
  Reconciled limits g t o
  := by
  rw [reconcile] at h
  obtain ⟨c, t', rfl, hc⟩ := yields_question_bind.mp h
  obtain ⟨t, ⟨r, g'⟩, t'', rfl, hf, hr⟩ := yields_bind.mp hc
  cases r with
  | error e =>
      obtain ⟨rfl, rfl⟩ := yields_pure.mp hr
      rw [List.append_nil]
      apply Reconciled.headFailed hf
  | ok head =>
      dsimp only at hr
      split at hr
      · next hrow =>
        obtain ⟨n, u, t', rfl, hn, hr⟩ := yields_bind.mp hr
        obtain ⟨rfl, rfl⟩ := yields_pure.mp hr
        rw [List.append_nil]
        apply Reconciled.sourceEmpty hf hrow hn
      · next row hrow =>
        split at hr
        · next hlt =>
          obtain ⟨n, o', t', rfl, hn, hr⟩ := yields_bind.mp hr
          obtain ⟨rfl, rfl⟩ := yields_pure.mp hr
          rw [List.append_nil]
          apply Reconciled.reset hf hrow hlt hn
        · next hge =>
          split at hr
          · next heq =>
            obtain ⟨n, u, t', rfl, hn, hr⟩ := yields_bind.mp hr
            obtain ⟨rfl, rfl⟩ := yields_pure.mp hr
            rw [List.append_nil]
            subst heq
            apply Reconciled.upToDate hf hrow hn
          · next hne =>
            apply Reconciled.harvest hf hrow _ hr
            apply UInt64.lt_of_le_of_ne (UInt64.not_lt.mp hge)
            exact Ne.symm hne

/-- How a reconciliation aborts: the newest row is beyond the cursor, and there is no room for
the rows in between. -/
inductive Aborted (limits : Limits) (g : Governor) : Transcript → Prop
  | intro {c : Cursor} {t n : Transcript} {head : QueryLogPage} {g' : Governor} {row : UInt64}
      (hf : (Polling.fetch g ⟨1, 1⟩).Yields t (.ok head, g')) (hrow : head.latestRow = some row)
      (hlt : c.row < row) (hn : (noteBacklogOf limits c row).Yields n ())
      (hroom : isReservable (room limits c row) = false) :
      Aborted limits g (⟨.load, c⟩ :: (t ++ n))

theorem aborted_of_aborts (h : (reconcile limits g).Aborts t) :
  Aborted limits g t
  := by
  rw [reconcile] at h
  obtain ⟨c, t', rfl, hc⟩ := aborts_question_bind.mp h
  obtain ⟨t, ⟨r, g'⟩, t'', rfl, hf, hr⟩ := Polling.uses_fetch.total.aborts_bind.mp hc
  cases r with
  | error e => exact absurd hr (total_pure _)
  | ok head =>
      dsimp only at hr
      split at hr
      · obtain ⟨n, u, t', -, -, hr⟩ := (uses_log _ _ _).total.aborts_bind.mp hr
        exact absurd hr (total_pure _)
      · next row hrow =>
        split at hr
        · obtain ⟨n, o, t', -, -, hr⟩ := uses_resetCursor.total.aborts_bind.mp hr
          exact absurd hr (total_pure _)
        · next hge =>
          split at hr
          · obtain ⟨n, u, t', -, -, hr⟩ := (uses_log _ _ _).total.aborts_bind.mp hr
            exact absurd hr (total_pure _)
          · next hne =>
            obtain ⟨hroom, hn⟩ := aborts_harvest_iff.mp hr
            apply Aborted.intro hf hrow _ hn hroom
            apply UInt64.lt_of_le_of_ne (UInt64.not_lt.mp hge)
            exact Ne.symm hne

theorem uses_reconcile :
  Uses [.abort, .load, .fetch, .clock, .note, .store] (reconcile limits g)
  := by
  rw [reconcile]
  apply Confined.bind
  · exact confined_question.mpr (by decide)
  · intro c
    apply Confined.bind
    · exact Polling.uses_fetch.mono
    · rintro ⟨e | head, g'⟩
      · apply confined_pure
      · dsimp only
        split
        · apply Confined.bind
          · exact (uses_log _ _ _).mono
          · intro _
            apply confined_pure
        · next row _ =>
          split
          · apply Confined.bind
            · exact uses_resetCursor.mono
            · intro _
              apply confined_pure
          · split
            · apply Confined.bind
              · exact (uses_log _ _ _).mono
              · intro _
                apply confined_pure
            · exact uses_harvest.mono

/-- A reconciliation that gets pages only leaves the circuit as it is. -/
theorem Reconciled.terminated_of_answered {o : Except Failure Reconciliation}
    (h : Reconciled limits g t (o, g')) (ht : Answered t) :
  g'.terminated = g.terminated
  := by
  cases h with
  | headFailed hf =>
      exact Polling.terminated_of_answered hf ((answered_cons_of_ne (by nofun)).mp ht)
  | sourceEmpty hf hrow hn =>
      obtain ⟨hhead, -⟩ := answered_append.mp ((answered_cons_of_ne (by nofun)).mp ht)
      apply Polling.terminated_of_answered hf hhead
  | reset hf hrow hlt hr =>
      obtain ⟨hhead, -⟩ := answered_append.mp ((answered_cons_of_ne (by nofun)).mp ht)
      apply Polling.terminated_of_answered hf hhead
  | upToDate hf hrow hn =>
      obtain ⟨hhead, -⟩ := answered_append.mp ((answered_cons_of_ne (by nofun)).mp ht)
      apply Polling.terminated_of_answered hf hhead
  | harvest hf hrow hlt hh =>
      obtain ⟨hhead, hrest⟩ := answered_append.mp ((answered_cons_of_ne (by nofun)).mp ht)
      obtain ⟨n, t₁, s, rfl, -, hs, -⟩ := scanned_of_yields_harvest hh
      obtain ⟨-, hscan⟩ := answered_append.mp hrest
      rw [hs.terminated_of_answered hscan, Polling.terminated_of_answered hf hhead]

end Reconciliation

end LogCourier
