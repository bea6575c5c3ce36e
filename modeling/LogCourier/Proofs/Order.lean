import LogCourier.Proofs.Rehearsals

/-!
# The order of delivery

What a round delivers ascends and is beyond the cursor, and if the cursor can be written it
is the last row delivered after the round (`Round.row_persisted`). So from round to round
the rows go on growing until the cursor is reset, whatever the source answers
(`rows_ascend`): no row is delivered twice, and none after a newer one.
-/

namespace LogCourier

namespace Pipeline

open Work
open Rehearsal (World)

variable {p : Pipeline} {c : Cursor}

/-- Two growing lists join if the second one begins beyond the last element of the first. -/
theorem pairwise_lt_append {x y : UInt64} {l l' : List UInt64} (h : (x :: l).Pairwise (· < ·))
    (hy : y = l.getLast?.getD x) (h' : (y :: l').Pairwise (· < ·)) :
  (x :: (l ++ l')).Pairwise (· < ·)
  := by
  induction l generalizing x with
  | nil =>
      subst hy
      apply h'
  | cons a l ih =>
      obtain ⟨hx, hl⟩ := List.pairwise_cons.mp h
      have hxa : x < a := hx a List.mem_cons_self
      rw [List.getLast?_cons, Option.getD_some] at hy
      have hjoin := ih hl hy
      apply List.pairwise_cons.mpr
      constructor
      · intro b hb
        rcases List.mem_cons.mp hb with rfl | hb
        · apply hxa
        · apply UInt64.lt_trans hxa
          apply (List.pairwise_cons.mp hjoin).1 b hb
      · apply hjoin

namespace Round

variable {r : Round p} (h : ReadsBack c r.transcript)
include h

/-- The rows that a round delivers grow from the cursor on. -/
theorem pairwise_rows :
  (c.row :: r.account.rows).Pairwise (· < ·)
  := by
  have hcourse := r.course h
  apply List.pairwise_cons.mpr
  constructor
  · intro row hrow
    obtain ⟨e, he, rfl⟩ := List.mem_map.mp hrow
    apply hcourse.beyond e he
  · apply List.pairwise_map.mpr hcourse.ascending

/-- After a round that is no reset and writes the cursor without failure, the cursor is the
last row that was delivered, if there is one. -/
theorem row_persisted (hr : ¬ r.account.IsReset) (hw : ∀ w ∈ writes r.transcript, w.2 = .ok ()) :
  (persisted c r.transcript).row = r.account.rows.getLast?.getD c.row
  := by
  have hcourse := r.course h
  rw [Account.rows, List.getLast?_map, ← hcourse.lastEntry_eq]
  cases hcourse with
  | idle hnone hp hh hi =>
      rw [persisted_of_writes_eq_nil hnone, Account.delivered, hh]
      rfl
  | @reset head row x hf hrow hlt hone hp hh ho =>
      rw [hone] at hw
      have hx : x = .ok () := hw _ List.mem_cons_self
      rw [hx] at ho
      exact absurd ⟨c, row, ho⟩ hr
  | shipped hc hd hsettled hwrites hrec ho =>
      cases hrec with
      | nothing hnone =>
          rw [persisted_of_writes_eq_nil hwrites, Account.delivered, hnone]
          rfl
      | @written e x hsome =>
          have hone : writes r.transcript = [(⟨e.row⟩, x)] := hwrites
          rw [hone] at hw
          have hx : x = .ok () := hw _ List.mem_cons_self
          rw [persisted_of_writes_singleton hone, hx, Account.delivered, hsome]
          rfl

end Round

/-- Along rounds without a reset that write the cursor without failure, the rows that are
delivered grow from the cursor on. -/
theorem pairwise_rows {rs : List (Round p)} (h : ReadsBack c (transcripts rs))
    (hr : ∀ r ∈ rs, ¬ r.account.IsReset) (hw : ∀ w ∈ writes (transcripts rs), w.2 = .ok ()) :
  (c.row :: rs.flatMap fun r => r.account.rows).Pairwise (· < ·)
  := by
  induction rs generalizing c with
  | nil => apply List.pairwise_singleton
  | cons r rs ih =>
      rw [transcripts_cons, readsBack_append] at h
      rw [transcripts_cons, writes_append, List.forall_mem_append] at hw
      obtain ⟨hr, hrs⟩ := List.forall_mem_cons.mp hr
      rw [List.flatMap_cons]
      apply pairwise_lt_append (Round.pairwise_rows h.1) (Round.row_persisted h.1 hr hw.1)
      apply ih h.2 hrs hw.2

/-- Between two resets the rows of all delivered sub-batches grow, from sub-batch to
sub-batch and from round to round, if the cursor is written without failure. -/
theorem rows_ascend {before between : List (Round p)}
    (h : ReadsBack c (transcripts (before ++ between)))
    (hr : ∀ r ∈ between, ¬ r.account.IsReset)
    (hw : ∀ w ∈ writes (transcripts between), w.2 = .ok ()) :
  (between.flatMap fun r => r.account.rows).Pairwise (· < ·)
  := by
  rw [transcripts_append, readsBack_append] at h
  apply (List.pairwise_cons.mp (pairwise_rows h.2 hr hw)).2

/-- A reset, a push that is refused, and a page out of order with rows seen before. -/
theorem rows_ascend_of_disorder :
  ∃ before between : List (Round sample), ReadsBack ⟨5⟩ (transcripts (before ++ between))
    ∧ (∀ r ∈ between, ¬ r.account.IsReset) ∧ (∀ w ∈ writes (transcripts between), w.2 = .ok ())
    ∧ (between.flatMap fun r => r.account.rows) = [1, 2, 3, 4]
    ∧ (between.flatMap fun r => r.account.rows).Pairwise (· < ·)
  := by
  let w : World := { sampleWorld 5 [3, 2, 1] with
    source := [.plain, .plain, .plain, .page [sampleEntry 4], .page ([4, 3, 4, 5].map sampleEntry)]
    sink := [none, some "refused"] }
  let rs := rehearse isModest_sample 3 (.new 5) w
  have h : ReadsBack ⟨5⟩ (transcripts (rs.take 1 ++ rs.drop 1)) := by
    rw [List.take_append_drop]
    apply readsBack_rehearse _ 3 (.new 5) w
  have hr : ∀ r ∈ rs.drop 1, ¬ r.account.IsReset := by decide +kernel
  have hw : ∀ w ∈ writes (transcripts (rs.drop 1)), w.2 = .ok () := by decide +kernel
  refine ⟨rs.take 1, rs.drop 1, h, hr, hw, ?_, rows_ascend h hr hw⟩
  decide +kernel

end Pipeline

end LogCourier
