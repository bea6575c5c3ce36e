import LogCourier.Proofs.Rehearsals

/-!
# The law of the cursor

The cursor is written on two paths: a reset sets it to 0, and a delivery raises it to the
last row delivered. Whatever the outside world does, a round makes at most one attempt to
write the cursor, and the cursor stays, becomes 0 or grows (`Round.Lawful`).

A reset needs a row before the cursor, so there is none while the cursor is 0
(`cursor_law`).
-/

namespace LogCourier

namespace Pipeline

open Work

variable {p : Pipeline} {c : Cursor}

/-- What a round may do to the cursor `c`. -/
structure Round.Lawful (c : Cursor) (r : Round p) : Prop where
  /-- There is at most one attempt to write the cursor. -/
  once : (writes r.transcript).length ≤ 1
  /-- The cursor stays, becomes 0 or grows. -/
  moved : persisted c r.transcript = c ∨ persisted c r.transcript = .zero
    ∨ c.row < (persisted c r.transcript).row
  /-- To set it to 0 is attempted only if the newest row is before the cursor, and then
  nothing but this row was asked for and nothing is pushed. -/
  zeroed : ∀ x, (.zero, x) ∈ writes r.transcript →
    ∃ head row, fetches r.transcript = [(⟨1, 1⟩, .ok head)] ∧ head.latestRow = some row
      ∧ row < c.row ∧ pushes r.transcript = []
  /-- To set it to anything else is attempted only for the row of the last entry of the last
  sub-batch delivered, which is beyond the cursor. -/
  raised : ∀ d x, (d, x) ∈ writes r.transcript → d ≠ .zero →
    c.row < d.row ∧ ∃ e, Shipping.lastEntry r.account.delivered = some e ∧ d = ⟨e.row⟩

/-- A round without an attempt to write the cursor. -/
theorem Round.lawful_of_writes_eq_nil {r : Round p} (h : writes r.transcript = []) :
  r.Lawful c
  := by
  constructor
  · rw [h]
    apply Nat.zero_le
  · exact .inl (persisted_of_writes_eq_nil h)
  · rw [h]
    nofun
  · rw [h]
    nofun

/-- A round that attempts to write 0 after it met a row before the cursor. -/
theorem Round.lawful_of_reset {r : Round p} {head : QueryLogPage} {row : UInt64}
    {x : Except Failure Unit} (hf : fetches r.transcript = [(⟨1, 1⟩, .ok head)])
    (hrow : head.latestRow = some row) (hlt : row < c.row)
    (hw : writes r.transcript = [(.zero, x)]) (hp : pushes r.transcript = []) :
  r.Lawful c
  := by
  constructor
  · rw [hw]
    apply Nat.le_refl
  · rw [persisted_of_writes_singleton hw]
    cases x with
    | error e => exact .inl rfl
    | ok u => exact .inr (.inl rfl)
  · intro y hy
    exact ⟨head, row, hf, hrow, hlt, hp⟩
  · intro d y hy hd
    rw [hw] at hy
    cases List.mem_singleton.mp hy
    exact absurd rfl hd

/-- A round that attempts to write the row of the last entry delivered. -/
theorem Round.lawful_of_delivery {r : Round p} {e : LogEntry} {x : Except Failure Unit}
    (hlt : c.row < e.row) (hlast : Shipping.lastEntry r.account.delivered = some e)
    (hw : writes r.transcript = [(⟨e.row⟩, x)]) :
  r.Lawful c
  := by
  constructor
  · rw [hw]
    apply Nat.le_refl
  · rw [persisted_of_writes_singleton hw]
    cases x with
    | error failure => exact .inl rfl
    | ok u => exact .inr (.inr hlt)
  · intro y hy
    rw [hw] at hy
    obtain ⟨hzero, -⟩ := Prod.mk.inj (List.mem_singleton.mp hy)
    rw [← Cursor.mk.inj hzero] at hlt
    exact absurd hlt UInt64.not_lt_zero
  · intro d y hy hd
    rw [hw] at hy
    cases List.mem_singleton.mp hy
    exact ⟨hlt, e, hlast, rfl⟩

/-- Every round keeps the law. -/
theorem Round.lawful (r : Round p) (h : ReadsBack c r.transcript) :
  r.Lawful c
  := by
  have hcourse := r.course h
  have hbeyond := hcourse.beyond
  have hlast := hcourse.lastEntry_eq
  cases hcourse with
  | idle hw hp hh hi => apply Round.lawful_of_writes_eq_nil hw
  | reset hf hrow hlt hw hp hh ho => apply Round.lawful_of_reset hf hrow hlt hw hp
  | shipped hc hd hsettled hw hrec ho =>
      cases hrec with
      | nothing hnone => apply Round.lawful_of_writes_eq_nil hw
      | @written e x hsome =>
          apply Round.lawful_of_delivery _ hsome hw
          apply hbeyond e
          apply List.mem_of_getLast? (hlast.symm.trans hsome)

/-- A round that finds the cursor at 0 does not reset it. -/
theorem Round.not_isReset_of_zero {r : Round p} (h : ReadsBack .zero r.transcript) :
  ¬ r.account.IsReset
  := by
  intro hr
  obtain ⟨row, hlt, hw⟩ := (r.course h).of_isReset hr
  exact absurd hlt UInt64.not_lt_zero

/-- After any rounds, a round makes at most one attempt to write the cursor, sets it to 0 only
if the newest row is before it, without further fetches and without pushes, and otherwise
raises it to the last row delivered; and it is no reset if all attempts to write the cursor
failed since a reset. -/
theorem cursor_law {before : List (Round p)} {r : Round p}
    (h : ReadsBack c (transcripts (before ++ [r]))) :
  r.Lawful (persisted c (transcripts before))
    ∧ ∀ earlier s between, before = earlier ++ s :: between → s.account.IsReset →
      (∀ w ∈ writes (transcripts between), w.2 ≠ .ok ()) → ¬ r.account.IsReset
  := by
  rw [transcripts_append, readsBack_append, transcripts_cons, transcripts_nil,
    List.append_nil] at h
  obtain ⟨hbefore, hr⟩ := h
  constructor
  · apply r.lawful hr
  · rintro earlier s between rfl hs hfailed
    apply Round.not_isReset_of_zero
    rw [transcripts_append, transcripts_cons, readsBack_append, readsBack_append] at hbefore
    obtain ⟨row, hlt, hw⟩ := (s.course hbefore.2.1).of_isReset hs
    rw [transcripts_append, transcripts_cons, persisted_append, persisted_append,
      persisted_of_failed hfailed, persisted_of_writes_singleton hw] at hr
    apply hr

/-- After a rollback to row 2 while the cursor is 5, the next round begins from row 1. -/
theorem cursor_law_after_rollback :
  ∃ s r : Round sample, ReadsBack ⟨5⟩ (transcripts [s, r]) ∧ s.account.IsReset
    ∧ r.Lawful .zero ∧ ¬ r.account.IsReset ∧ r.account.rows = [1, 2]
  := by
  let w := sampleWorld 5 [2, 1]
  let s := Round.rehearse isModest_sample (.new 5) w
  let r := Round.rehearse isModest_sample s.account.memory (w.hold (sample.account (.new 5))).2
  have h : ReadsBack ⟨5⟩ (transcripts ([s] ++ [r])) := readsBack_rehearse _ 2 (.new 5) w
  have hs : s.account.IsReset := ⟨_, _, rfl⟩
  have hzero : persisted ⟨5⟩ (transcripts [s]) = .zero := by decide +kernel
  obtain ⟨hlaw, hreset⟩ := cursor_law h
  rw [hzero] at hlaw
  exact ⟨s, r, h, hs, hlaw, hreset [] s [] rfl hs nofun, by decide +kernel⟩

end Pipeline

end LogCourier
