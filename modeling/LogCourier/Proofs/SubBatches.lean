import LogCourier.Proofs.Delivery
import LogCourier.Proofs.Grouping
import LogCourier.Proofs.Rehearsals
import Mathlib.Algebra.Order.Floor.Div

/-!
# How entries are delivered in sub-batches

The sub-batches are the consecutive parts of the entries, of the same size but for the last
(`chunks_eq_map_portion`). They are handed over in order up to the first that is refused
(`HandedOver.exists_failure`), each of them with one push or, if no entry in it has a readable
time, with none (`Pushed`). All numbers of the report follow from the number of sub-batches that
were not refused, and so does the cursor that is written (`ships_portions`).
-/

namespace LogCourier

open Dialogue Work
open Rehearsal (World)

/-- A sub-batch that was delivered. -/
def Handover.accepted (batch : List LogEntry) : Handover :=
  ⟨batch, .ok ()⟩

/-- A sub-batch that ended the delivery. -/
def Handover.refused (batch : List LogEntry) (e : Failure) : Handover :=
  ⟨batch, .error e⟩

namespace Shipping

variable {α : Type} {job : String} {total sent size : Nat} {cache cache' : HostnameCache}
  {batch entries : List LogEntry} {batches : List (List LogEntry)} {hs : List Handover}
  {failure : Option Failure} {t : Transcript}

/-! ### The parts of a list by their numbers -/

/-- The part of a list that has the number `i`, counted from 0. -/
def portion (size : Nat) (l : List α) (i : Nat) : List α :=
  (l.drop (i * size)).take size

theorem portion_succ (size : Nat) (l : List α) (i : Nat) :
  portion size l (i + 1) = portion size (l.drop size) i
  := by
  rw [portion, portion, List.drop_drop, Nat.succ_mul, Nat.add_comm]

/-- One part more than the parts of what follows the first one. -/
theorem ceilDiv_length_cons (n : Nat) (a : α) (rest : List α) :
  (a :: rest).length ⌈/⌉ (n + 1) = (rest.drop n).length ⌈/⌉ (n + 1) + 1
  := by
  rw [Nat.ceilDiv_eq_add_pred_div, Nat.ceilDiv_eq_add_pred_div, List.length_cons, List.length_drop,
    ← Nat.add_div_right _ (Nat.succ_pos n)]
  rcases Nat.le_total n rest.length with hle | hle
  · congr 1
    omega
  · -- all fits into the first part
    rw [Nat.div_eq_of_lt_le (k := 1) (by omega) (by omega),
      Nat.div_eq_of_lt_le (k := 1) (by omega) (by omega)]

theorem chunks_eq_map_portion (hsize : 0 < size) (l : List α) :
  chunks size l = (List.range (l.length ⌈/⌉ size)).map (portion size l)
  := by
  obtain ⟨n, rfl⟩ := Nat.exists_eq_succ_of_ne_zero (Nat.ne_of_gt hsize)
  rw [chunks, Nat.succ_eq_add_one, Nat.add_sub_cancel]
  fun_induction chunksOfSucc n l with
  | case1 =>
      rw [List.length_nil, zero_ceilDiv]
      rfl
  | case2 a rest ih =>
      have hfirst : portion (n + 1) (a :: rest) 0 = a :: rest.take n := by
        rw [portion, Nat.zero_mul]
        rfl
      have hnext : portion (n + 1) (rest.drop n) = portion (n + 1) (a :: rest) ∘ Nat.succ := by
        funext i
        exact (portion_succ (n + 1) (a :: rest) i).symm
      rw [ceilDiv_length_cons, List.range_succ_eq_map, List.map_cons, List.map_map, hfirst, ih,
        hnext]

theorem length_chunks (hsize : 0 < size) (l : List α) :
  (chunks size l).length = l.length ⌈/⌉ size
  := by
  rw [chunks_eq_map_portion hsize, List.length_map, List.length_range]

/-- A part has no elements if its number is too large. -/
theorem getElem?_chunks_getD (hsize : 0 < size) (l : List α) (i : Nat) :
  (chunks size l)[i]?.getD [] = portion size l i
  := by
  rw [chunks_eq_map_portion hsize, List.getElem?_map]
  by_cases hi : i < l.length ⌈/⌉ size
  · rw [List.getElem?_range hi]
    rfl
  · have hend : l.length ≤ i * size := by
      rw [Nat.mul_comm]
      exact (ceilDiv_le_iff_le_mul hsize).mp (Nat.not_lt.mp hi)
    rw [List.getElem?_eq_none (by rwa [List.length_range, ← Nat.not_lt]), portion,
      List.drop_of_length_le hend, List.take_nil]
    rfl

/-- The first parts of a list make up its beginning. -/
theorem flatten_map_portion (size : Nat) (l : List α) (k : Nat) :
  ((List.range k).map (portion size l)).flatten = l.take (k * size)
  := by
  induction k with
  | zero => rw [Nat.zero_mul, List.take_zero]; rfl
  | succ k ih =>
      rw [List.range_succ, List.map_append, List.flatten_append, ih, List.map_singleton,
        List.flatten_singleton, Nat.succ_mul, List.take_add]
      rfl

/-! ### Handing over up to the first refusal -/

/-- Sub-batches are handed over up to the first that is refused, or to the last of all. -/
theorem HandedOver.exists_failure
    (h : HandedOver job total batches cache sent t (hs, cache')) :
  ∃ k failure, k ≤ batches.length ∧ (failure = none ↔ k = batches.length)
    ∧ hs = (batches.take k).map .accepted ++ failure.toList.map (.refused (batches[k]?.getD []))
  := by
  generalize ho : (hs, cache') = o at h
  -- `k` counts the sub-batches accepted before the end, which is a refusal or the end of all
  induction h generalizing hs with
  | nil =>
      cases ho
      exact ⟨0, none, Nat.le_refl 0, iff_of_true rfl rfl, rfl⟩
  | accepted hd hn hr ih =>
      cases ho
      obtain ⟨k, failure, hk, hnone, rfl⟩ := ih rfl
      refine ⟨k + 1, failure, Nat.succ_le_succ hk, ?_, rfl⟩
      rw [hnone, List.length_cons, Nat.succ_inj]
  | @refused _ _ _ _ _ _ _ e hd hn =>
      cases ho
      exact ⟨0, some e, Nat.zero_le _, iff_of_false nofun nofun, rfl⟩

theorem delivered_handovers (batches : List (List LogEntry)) (batch : List LogEntry)
    (failure : Option Failure) :
  delivered (batches.map .accepted ++ failure.toList.map (.refused batch)) = batches
  := by
  induction batches with
  | nil => cases failure <;> rfl
  | cons b batches ih =>
      rw [List.map_cons, List.cons_append]
      apply (congrArg (b :: ·) ih)

/-- The sub-batches delivered are counted, and so are their entries. -/
theorem counts_after (p : Progress) (hs : List Handover) :
  (p.after hs).sent = p.sent + (delivered hs).length
    ∧ (p.after hs).delivered = p.delivered + (delivered hs).flatten.length
  := by
  induction hs generalizing p with
  | nil => exact ⟨rfl, rfl⟩
  | cons h hs ih =>
      obtain ⟨batch, e | u⟩ := h
      · apply ih
      · obtain ⟨hsent, hdelivered⟩ := ih (p.advance batch)
        rw [delivered_cons_ok, List.length_cons, List.flatten_cons, List.length_append,
          Nat.add_comm _ 1, ← Nat.add_assoc, ← Nat.add_assoc]
        exact ⟨hsent, hdelivered⟩

theorem delivered_report :
  (report total (Progress.initial.after hs)).delivered = (delivered hs).flatten.length
  := (counts_after .initial hs).2.trans (Nat.zero_add _)

theorem failure_after_handovers (p : Progress) (batches : List (List LogEntry))
    (batch : List LogEntry) (failure : Option Failure) :
  (p.after (batches.map .accepted ++ failure.toList.map (.refused batch))).failure
    = failure.or p.failure
  := by
  induction batches generalizing p with
  | nil => cases failure <;> rfl
  | cons b batches ih => apply ih (p.advance b)

/-- The report of a delivery, by the sub-batches before the one that failed. -/
theorem report_handovers (batches : List (List LogEntry)) (batch : List LogEntry)
    (failure : Option Failure) :
  report total (Progress.initial.after
      (batches.map .accepted ++ failure.toList.map (.refused batch)))
    = ⟨batches.flatten.length, batches.length, total, (lastEntry batches).map fun e => ⟨e.row⟩,
      failure⟩
  := by
  obtain ⟨hsent, hdelivered⟩ :=
    counts_after .initial (batches.map .accepted ++ failure.toList.map (.refused batch))
  rw [report, hsent, hdelivered, failure_after_handovers, lastRow_after_initial,
    delivered_handovers, Option.map_map]
  simp only [Progress.initial, Nat.zero_add, Option.or_none]
  rfl

/-! ### The requests of sub-batches -/

/-- What is pushed of a sub-batch: nothing if none of its entries has a readable time, and one
request with its named entries otherwise, which decides what becomes of the sub-batch. -/
inductive Pushed (job : String) : Handover → List (PushRequest × Except Failure Unit) → Prop
  | nothing {batch : List LogEntry} (h : ∀ e ∈ batch, e.IsMalformed) :
      Pushed job (.accepted batch) []
  | request {batch : List LogEntry} {ns : List NamedEntry} {outcome : Except Failure Unit}
      (h : ¬ ∀ e ∈ batch, e.IsMalformed) (hns : Formatting.Names batch ns) :
      Pushed job ⟨batch, outcome⟩ [(⟨Formatting.streamsOf job [] ns⟩, outcome)]

theorem pushed_of_yields {outcome : Except Failure Unit}
    (h : (deliver job cache batch).Yields t (outcome, cache')) :
  Pushed job ⟨batch, outcome⟩ (pushes t)
  := by
  cases sent_of_yields h with
  | nothing hf he =>
      rw [pushes_of_within (Formatting.uses_format.within hf)]
      apply Pushed.nothing ((Formatting.isEmpty_iff_of_yields_format hf).mp he)
  | pushed hf he =>
      rw [pushes_append, pushes_of_within (Formatting.uses_format.within hf)]
      have hreadable := (Formatting.isEmpty_iff_of_yields_format hf).not.mp (by rw [he]; nofun)
      obtain ⟨ns, hns, rfl⟩ := Formatting.exists_named_of_yields_format hf
      apply Pushed.request hreadable hns

/-- The pushes of a delivery are those of its sub-batches, in order. -/
theorem HandedOver.exists_pushed (h : HandedOver job total batches cache sent t (hs, cache')) :
  ∃ parts, List.Forall₂ (Pushed job) hs parts ∧ pushes t = parts.flatten
  := by
  generalize ho : (hs, cache') = o at h
  have hnotes : ∀ {w : Work Unit} {n : Transcript}, Uses [.note] w → w.Yields n () →
      pushes n = [] := fun hw hn => pushes_of_within (hw.within hn)
  induction h generalizing hs with
  | nil =>
      cases ho
      exact ⟨[], .nil, rfl⟩
  | accepted hd hn hr ih =>
      cases ho
      obtain ⟨parts, hparts, hflat⟩ := ih rfl
      refine ⟨_, .cons (pushed_of_yields hd) hparts, ?_⟩
      rw [pushes_append, pushes_append, hnotes ((uses_record _).bind fun _ => uses_log _ _ _) hn,
        List.append_nil, hflat, List.flatten_cons]
  | refused hd hn =>
      cases ho
      refine ⟨_, .cons (pushed_of_yields hd) .nil, ?_⟩
      rw [pushes_append, hnotes ((uses_record _).bind fun _ => uses_log _ _ _) hn,
        List.append_nil, List.flatten_singleton]

/-! ### The law of sub-batches -/

/-- Entries that are delivered in parts of the given size, with the handovers and the report: the
parts were handed over in order, the last of them being the one that failed, if any did. -/
structure Portioned (size : Nat) (entries : List LogEntry) (hs : List Handover) (r : ShipReport) :
    Prop where
  total : r.subBatchesTotal = entries.length ⌈/⌉ size
  sent_le : r.subBatchesSent ≤ r.subBatchesTotal
  handovers : hs = (List.range r.subBatchesSent).map (fun i => .accepted (portion size entries i))
    ++ r.failure.toList.map (.refused (portion size entries r.subBatchesSent))
  delivered : r.delivered = min entries.length (r.subBatchesSent * size)
  complete : r.isComplete = true ↔ r.subBatchesSent = r.subBatchesTotal

/-- Handing over the sub-batches of some entries. -/
theorem HandedOver.portioned (hsize : 0 < size)
    (h : HandedOver job total (chunks size entries) cache sent t (hs, cache')) :
  Portioned size entries hs
    (report (chunks size entries).length (Progress.initial.after hs))
  := by
  obtain ⟨k, failure, hk, hnone, rfl⟩ := h.exists_failure
  have hfirst : (chunks size entries).take k = (List.range k).map (portion size entries) := by
    rw [chunks_eq_map_portion hsize, ← List.map_take, List.take_range, Nat.min_eq_left]
    rwa [← length_chunks hsize]
  have hsent : ((List.range k).map (portion size entries)).length = k := by
    rw [List.length_map, List.length_range]
  rw [report_handovers, hfirst, getElem?_chunks_getD hsize, flatten_map_portion, hsent]
  constructor
  · exact length_chunks hsize entries
  · exact hk
  · rw [List.map_map]
    rfl
  · exact List.length_take.trans (Nat.min_comm _ _)
  · rw [ShipReport.isComplete, Option.isNone_iff_eq_none]
    exact hnone

/-- If nothing was delivered nothing is written. Otherwise the row of the last entry delivered is
written, and the delivery fails only with that. -/
theorem Recorded.cursor {r : Except Failure ShipReport} (h : Recorded total hs t r)
    (hne : ∀ b ∈ delivered hs, b ≠ []) (hfirst : (delivered hs).flatten <+: entries) :
  let q := report total (Progress.initial.after hs)
  (q.delivered = 0 → q.cursor = none ∧ writes t = [] ∧ r = .ok q)
    ∧ (0 < q.delivered → ∃ e x, entries[q.delivered - 1]? = some e ∧ q.cursor = some ⟨e.row⟩
      ∧ writes t = [(⟨e.row⟩, x)] ∧ r = x.map fun _ => q)
  := by
  dsimp only
  rw [delivered_report, cursor_report]
  cases h with
  | nothing h =>
      rw [h]
      exact ⟨fun _ => ⟨rfl, rfl, rfl⟩, fun hpos => absurd hpos (Nat.lt_irrefl 0)⟩
  | @written e x h =>
      have hlast : (delivered hs).flatten.getLast? = some e := by
        rwa [← lastEntry_eq_getLast?_flatten hne]
      have hpos : 0 < (delivered hs).flatten.length :=
        List.length_pos_of_mem (List.mem_of_getLast? hlast)
      obtain ⟨rest, rfl⟩ := hfirst
      rw [h]
      refine ⟨fun hzero => absurd hzero (Nat.ne_of_gt hpos), fun _ => ⟨e, x, ?_, rfl, rfl, rfl⟩⟩
      rw [List.getElem?_append_left (Nat.sub_lt hpos Nat.one_pos), ← List.getLast?_eq_getElem?,
        hlast]

variable {limits : Limits}

/-- Delivering entries in sub-batches. The sub-batches are the parts of the given size; they are
handed over in order up to the first whose push is refused, and nothing else is pushed. The report
counts them and their entries. If entries were delivered, the row of the last of them is written,
once, and only this can make the whole fail; otherwise nothing is written. -/
theorem ships_portions {r : Except Failure ShipReport}
    (h : (ship limits job cache entries).Yields t (r, cache')) :
  ∃ hs report, Portioned limits.subBatchSize.toNat entries hs report
    ∧ (∃ parts, List.Forall₂ (Pushed job) hs parts ∧ pushes t = parts.flatten)
    ∧ (report.delivered = 0 → report.cursor = none ∧ writes t = [] ∧ r = .ok report)
    ∧ (0 < report.delivered → ∃ e x, entries[report.delivered - 1]? = some e
      ∧ report.cursor = some ⟨e.row⟩ ∧ writes t = [(⟨e.row⟩, x)] ∧ r = x.map fun _ => report)
  := by
  rw [ship_eq_account] at h
  obtain ⟨⟨r', hs, cache''⟩, ha, ho⟩ := yields_map.mp h
  cases ho
  obtain ⟨t₁, t₂, rfl, hwithin, hover, hrec⟩ := recorded_of_yields_account ha
  have hsize : 0 < limits.subBatchSize.toNat := UInt64.le_iff_toNat_le.mp limits.one_le_subBatchSize
  obtain ⟨parts, hparts, hpushes⟩ := hover.exists_pushed
  obtain ⟨hnone, hsome⟩ := hrec.cursor
    (fun b hb => ne_nil_of_mem_chunks (hover.delivered_isPrefix.mem hb))
    (flatten_isPrefix hover.delivered_isPrefix)
  refine ⟨hs, _, hover.portioned hsize, ⟨parts, hparts, ?_⟩, ?_, ?_⟩
  · rw [pushes_append, pushes_of_within hrec.within, List.append_nil, hpushes]
  · rw [writes_append, writes_of_within hwithin, List.nil_append]
    exact hnone
  · rw [writes_append, writes_of_within hwithin, List.nil_append]
    exact hsome

/-- Of three sub-batches the second has no readable times and the push of the third, which is
short, is refused: four entries are delivered with one request, and row 4 is written. -/
theorem ships_portions_of_refusal :
  let entries := [1, 2].map Pipeline.sampleEntry
    ++ [3, 4].map (fun row => { Pipeline.sampleEntry row with timestamp := "?" })
    ++ [Pipeline.sampleEntry 5]
  ∃ t hs report cache', (ship (.new 1 1 2) "dns" .empty entries).Yields t (.ok report, cache')
    ∧ Portioned 2 entries hs report ∧ report.subBatchesSent = 2 ∧ report.subBatchesTotal = 3
    ∧ (pushes t).map (fun x => x.2.isOk) = [true, false]
    ∧ writes t = [(⟨4⟩, .ok ())]
  := by
  intro entries
  let w := { World.new .zero with sink := [none, some "full"] }
  obtain ⟨⟨r, cache'⟩, h, hreport⟩ := exists_yields_of_any World.answer
    (ship (.new 1 1 2) "dns" .empty entries) w
    (P := fun x => x.1 = .ok ⟨4, 2, 3, some ⟨4⟩, some (.sinkDelivery "full")⟩)
    (by decide +kernel)
  have hpushes : (pushes (transcript World.answer (ship (.new 1 1 2) "dns" .empty entries) w)).map
      (fun x => x.2.isOk) = [true, false] := by
    decide +kernel
  have hwrites : writes (transcript World.answer (ship (.new 1 1 2) "dns" .empty entries) w)
      = [(⟨4⟩, .ok ())] := by
    decide +kernel
  obtain rfl := hreport
  obtain ⟨hs, report, hportioned, -, hnone, hsome⟩ := ships_portions h
  have hequal : report = ⟨4, 2, 3, some ⟨4⟩, some (.sinkDelivery "full")⟩ := by
    rcases Nat.eq_zero_or_pos report.delivered with hzero | hpos
    · obtain ⟨-, -, hr⟩ := hnone hzero
      exact (Except.ok.inj hr).symm
    · obtain ⟨e, x, -, -, -, hr⟩ := hsome hpos
      cases x <;> cases hr
      rfl
  subst hequal
  exact ⟨_, hs, _, cache', h, hportioned, rfl, rfl, hpushes, hwrites⟩

end Shipping

end LogCourier
