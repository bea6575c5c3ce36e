import LogCourier.Pipeline.Shipping
import LogCourier.Proofs.Formatting
import LogCourier.Proofs.Rows

/-!
# How a delivery goes

A delivery takes up sub-batches in order. A handover (`Handover`) is a sub-batch that was
taken up with what became of it; those that were not refused are the delivered ones
(`delivered`). The program keeps only their number, their entries' number and the last row;
`Shipping.account` is the delivery that returns all handovers as well, and forgetting them
gives back `Shipping.ship` (`ship_eq_account`).

* The delivered sub-batches are the first ones of all (`HandedOver.delivered_isPrefix`).
* A delivered sub-batch was accepted by the log store, or it has no entry with a readable
  time (`HandedOver.settled`).
* One attempt is made to write the cursor if something was delivered, and none otherwise
  (`Recorded`).
-/

namespace LogCourier

open Dialogue Work

/-- A sub-batch that was taken up for delivery, with what became of it. -/
structure Handover where
  batch : List LogEntry
  outcome : Except Failure Unit

/-- The sub-batches that were delivered. -/
def delivered (hs : List Handover) : List (List LogEntry) :=
  (hs.filter fun h => h.outcome.isOk).map Handover.batch

theorem delivered_cons_ok {batch : List LogEntry} {hs : List Handover} :
  delivered (⟨batch, .ok ()⟩ :: hs) = batch :: delivered hs
  := rfl

namespace Shipping

variable {α : Type} {job : String} {total sent : Nat} {cache cache' : HostnameCache}
  {batch : List LogEntry} {batches : List (List LogEntry)} {hs : List Handover} {t : Transcript}

/-! ### Cutting a list into parts -/

theorem flatten_chunks (size : Nat) (l : List α) :
  (chunks size l).flatten = l
  := by
  rw [chunks]
  fun_induction chunksOfSucc (size - 1) l with
  | case1 => rfl
  | case2 a rest ih => rw [List.flatten_cons, ih, List.cons_append, List.take_append_drop]

/-- The first parts of a list make up the beginning of the list. -/
theorem flatten_isPrefix {size : Nat} {l : List α} {parts : List (List α)}
    (h : parts <+: chunks size l) :
  parts.flatten <+: l
  := by
  obtain ⟨rest, hrest⟩ := h
  use rest.flatten
  rw [← List.flatten_append, hrest, flatten_chunks]

theorem ne_nil_of_mem_chunks {size : Nat} {l part : List α} (h : part ∈ chunks size l) :
  part ≠ []
  := by
  rw [chunks] at h
  fun_induction chunksOfSucc (size - 1) l with
  | case1 => cases h
  | case2 a rest ih =>
      rcases List.mem_cons.mp h with rfl | h
      · apply List.cons_ne_nil
      · apply ih h

/-! ### Progress by handovers -/

/-- The progress after a handover. -/
def Progress.settle (p : Progress) (h : Handover) : Progress :=
  match h.outcome with
  | .ok () => p.advance h.batch
  | .error e => { p with failure := some e }

/-- The progress after some handovers. -/
def Progress.after (p : Progress) (hs : List Handover) : Progress :=
  hs.foldl settle p

/-- The last row of the last sub-batch delivered. -/
theorem lastRow_after (p : Progress) (hs : List Handover) :
  (p.after hs).lastRow
    = ((delivered hs).getLast?.map fun b => b.getLast?.map LogEntry.row).getD p.lastRow
  := by
  induction hs generalizing p with
  | nil => rfl
  | cons h hs ih =>
      obtain ⟨batch, e | u⟩ := h
      · apply ih
      · rw [delivered_cons_ok, List.getLast?_cons]
        apply Eq.trans (ih (p.advance batch))
        cases (delivered hs).getLast? <;> rfl

/-- Deliver sub-batches in order up to the first that fails, and return the handovers. -/
def handOver (job : String) (total : Nat) :
  List (List LogEntry) → HostnameCache → (sent : Nat) → Work (List Handover × HostnameCache)
  | [], cache, _ => return ([], cache)
  | batch :: batches, cache, sent => do
    match ← deliver job cache batch with
    | (.ok (), cache) =>
      noteDelivered (sent + 1) total batch
      let (hs, cache) ← handOver job total batches cache (sent + 1)
      return (⟨batch, .ok ()⟩ :: hs, cache)
    | (.error e, cache) =>
      noteRefused (sent + 1) total e
      return ([⟨batch, .error e⟩], cache)

/-- The progress of a delivery is that by its handovers. -/
theorem deliverAll_eq_handOver (p : Progress) :
  deliverAll job total batches cache p
    = (fun x => (p.after x.1, x.2)) <$> handOver job total batches cache p.sent
  := by
  induction batches generalizing cache p with
  | nil => rfl
  | cons batch batches ih =>
      rw [deliverAll, handOver, map_bind]
      congr 1
      funext x
      obtain ⟨e | u, cache⟩ := x
      · simp only [map_bind, map_pure]
        rfl
      · simp only [ih, map_eq_pure_bind, LawfulMonad.bind_assoc, LawfulMonad.pure_bind]
        rfl

/-! ### Handing over sub-batches -/

/-- How a sub-batch goes: its transcript, and the outcome with the names of clients. -/
inductive Sent (job : String) (cache : HostnameCache) (batch : List LogEntry) :
    Transcript → Except Failure Unit × HostnameCache → Prop
  | nothing {n : Transcript} {request : PushRequest} {cache' : HostnameCache}
      (hn : (Formatting.format job cache batch).Yields n (request, cache'))
      (he : request.isEmpty = true) :
      Sent job cache batch n (.ok (), cache')
  | pushed {n : Transcript} {request : PushRequest} {cache' : HostnameCache}
      {r : Except Failure Unit}
      (hn : (Formatting.format job cache batch).Yields n (request, cache'))
      (he : request.isEmpty = false) :
      Sent job cache batch (n ++ [⟨.push request, r⟩]) (r, cache')

theorem sent_of_yields {o : Except Failure Unit × HostnameCache}
    (h : (deliver job cache batch).Yields t o) :
  Sent job cache batch t o
  := by
  rw [deliver] at h
  obtain ⟨n, ⟨request, cache'⟩, t', rfl, hn, hr⟩ := yields_bind.mp h
  dsimp only at hr
  split at hr
  · next he =>
    obtain ⟨rfl, rfl⟩ := yields_pure.mp hr
    rw [List.append_nil]
    apply Sent.nothing hn he
  · next he =>
    obtain ⟨r, t'', rfl, hp⟩ := yields_question_bind.mp hr
    obtain ⟨rfl, rfl⟩ := yields_pure.mp hp
    rw [Bool.not_eq_true] at he
    apply Sent.pushed hn he

/-- How sub-batches are handed over: the transcript, the handovers, and the names of
clients. -/
inductive HandedOver (job : String) (total : Nat) :
    List (List LogEntry) → HostnameCache → (sent : Nat) → Transcript →
      List Handover × HostnameCache → Prop
  | nil {cache : HostnameCache} {sent : Nat} : HandedOver job total [] cache sent [] ([], cache)
  | accepted {batch : List LogEntry} {batches : List (List LogEntry)}
      {cache cache' cache'' : HostnameCache} {sent : Nat} {t n t' : Transcript}
      {hs : List Handover} (hd : (deliver job cache batch).Yields t (.ok (), cache'))
      (hn : (noteDelivered (sent + 1) total batch).Yields n ())
      (hr : HandedOver job total batches cache' (sent + 1) t' (hs, cache'')) :
      HandedOver job total (batch :: batches) cache sent (t ++ n ++ t')
        (⟨batch, .ok ()⟩ :: hs, cache'')
  | refused {batch : List LogEntry} {batches : List (List LogEntry)}
      {cache cache' : HostnameCache} {sent : Nat} {t n : Transcript} {e : Failure}
      (hd : (deliver job cache batch).Yields t (.error e, cache'))
      (hn : (noteRefused (sent + 1) total e).Yields n ()) :
      HandedOver job total (batch :: batches) cache sent (t ++ n) ([⟨batch, .error e⟩], cache')

theorem handedOver_of_yields {o : List Handover × HostnameCache}
    (h : (handOver job total batches cache sent).Yields t o) :
  HandedOver job total batches cache sent t o
  := by
  induction batches generalizing cache sent t o with
  | nil =>
      obtain ⟨rfl, rfl⟩ := yields_pure.mp h
      apply HandedOver.nil
  | cons batch batches ih =>
      rw [handOver] at h
      obtain ⟨t, ⟨r, cache'⟩, t', rfl, hd, hr⟩ := yields_bind.mp h
      cases r with
      | error e =>
          obtain ⟨n, u, t'', rfl, hn, hr⟩ := yields_bind.mp hr
          obtain ⟨rfl, rfl⟩ := yields_pure.mp hr
          rw [List.append_nil]
          apply HandedOver.refused hd hn
      | ok u =>
          obtain ⟨n, u, t'', rfl, hn, hr⟩ := yields_bind.mp hr
          obtain ⟨t', ⟨hs, cache''⟩, t''', rfl, hh, hr⟩ := yields_bind.mp hr
          obtain ⟨rfl, rfl⟩ := yields_pure.mp hr
          rw [List.append_nil, ← List.append_assoc]
          apply HandedOver.accepted hd hn (ih hh)

theorem uses_deliver :
  Uses [.lookup, .note, .push] (deliver job cache batch)
  := by
  rw [deliver]
  apply Confined.bind
  · exact Formatting.uses_format.mono
  · rintro ⟨request, cache'⟩
    dsimp only
    split
    · apply confined_pure
    · apply Confined.bind
      · apply confined_question.mpr
        apply List.mem_cons_of_mem _ (List.mem_cons_of_mem _ List.mem_cons_self)
      · intro _
        apply confined_pure

theorem uses_handOver :
  Uses [.lookup, .note, .push] (handOver job total batches cache sent)
  := by
  induction batches generalizing cache sent with
  | nil => apply confined_pure
  | cons batch batches ih =>
      rw [handOver]
      apply Confined.bind
      · apply uses_deliver
      · rintro ⟨e | u, cache'⟩
        · apply Confined.bind
          · exact Uses.mono ((uses_record _).bind fun _ => uses_log _ _ _)
          · intro _
            apply confined_pure
        · apply Confined.bind
          · exact Uses.mono ((uses_record _).bind fun _ => uses_log _ _ _)
          · intro _
            apply Confined.bind ih
            intro _
            apply confined_pure

/-- The log store accepted a request with what the sub-batch has to say. -/
def Accepted (job : String) (batch : List LogEntry) (t : Transcript) : Prop :=
  ∃ cache n request cache', (Formatting.format job cache batch).Yields n (request, cache')
    ∧ (request, .ok ()) ∈ pushes t

theorem Accepted.mono {t' : Transcript} (h : Accepted job batch t)
    (ht : pushes t ⊆ pushes t') :
  Accepted job batch t'
  := by
  obtain ⟨cache, n, request, cache', hf, hp⟩ := h
  exact ⟨cache, n, request, cache', hf, ht hp⟩

namespace HandedOver

/-- The delivered sub-batches are the first ones of all. -/
theorem delivered_isPrefix {o : List Handover × HostnameCache}
    (h : HandedOver job total batches cache sent t o) :
  delivered o.1 <+: batches
  := by
  induction h with
  | nil => apply List.prefix_rfl
  | accepted hd hn hr ih => apply List.prefix_cons_inj _ |>.mpr ih
  | refused hd hn => apply List.nil_prefix

/-- A delivered sub-batch was accepted by the log store, or there is nothing to be said of
its entries. -/
theorem settled {o : List Handover × HostnameCache}
    (h : HandedOver job total batches cache sent t o) :
  ∀ b ∈ delivered o.1, (∀ e ∈ b, e.IsMalformed) ∨ Accepted job b t
  := by
  induction h with
  | nil => nofun
  | refused hd hn => nofun
  | accepted hd hn hr ih =>
      intro b hb
      rcases List.mem_cons.mp hb with rfl | hb
      · cases sent_of_yields hd with
        | nothing hf he => exact .inl ((Formatting.isEmpty_iff_of_yields_format hf).mp he)
        | pushed hf he =>
            refine .inr ⟨_, _, _, _, hf, ?_⟩
            simp [pushes_cons, push?]
      · rcases ih b hb with hbad | hacc
        · exact .inl hbad
        · apply Or.inr (hacc.mono _)
          rw [pushes_append]
          apply List.subset_append_right

/-- Unless a push is refused, every sub-batch is delivered. -/
theorem delivered_eq {o : List Handover × HostnameCache}
    (h : HandedOver job total batches cache sent t o) (hp : ∀ x ∈ pushes t, x.2 = .ok ()) :
  delivered o.1 = batches
  := by
  induction h with
  | nil => rfl
  | accepted hd hn hr ih =>
      rw [pushes_append, List.forall_mem_append] at hp
      rw [delivered_cons_ok, ih hp.2]
  | @refused batch batches cache cache' sent t n e hd hn =>
      cases sent_of_yields hd with
      | @pushed n' request cache' r hf he =>
          have hmem : (request, .error e) ∈ pushes (n' ++ [⟨.push request, .error e⟩] ++ n) := by
            simp [pushes_cons, push?]
          cases hp _ hmem

end HandedOver

/-! ### Accounts of a delivery -/

/-- The last entry of the last sub-batch. -/
def lastEntry (batches : List (List LogEntry)) : Option LogEntry :=
  batches.getLast?.bind List.getLast?

/-- Deliver entries as `ship` does, and return the handovers as well. -/
def account (limits : Limits) (job : String) (cache : HostnameCache) (entries : List LogEntry) :
  Work (Except Failure ShipReport × List Handover × HostnameCache) := do
  let batches := chunks limits.subBatchSize.toNat entries
  let total := batches.length
  let (hs, cache) ← handOver job total batches cache 0
  let p := Progress.initial.after hs
  match p.lastRow with
  | none => return (.ok (report total p), hs, cache)
  | some row =>
    match ← Work.store ⟨row⟩ with
    | .error e => return (.error e, hs, cache)
    | .ok () => return (.ok (report total p), hs, cache)

variable {limits : Limits} {entries : List LogEntry}

/-- Forgetting the handovers gives back the delivery. -/
theorem ship_eq_account :
  ship limits job cache entries = (fun x => (x.1, x.2.2)) <$> account limits job cache entries
  := by
  rw [ship, account, map_bind]
  simp only [deliverAll_eq_handOver, bind_map_left]
  congr 1
  funext x
  cases (Progress.initial.after x.1).lastRow with
  | none => rfl
  | some row =>
      dsimp only
      rw [map_bind]
      congr 1
      funext r
      cases r <;> rfl

theorem uses_account :
  Uses [.lookup, .note, .push, .store] (account limits job cache entries)
  := by
  rw [account]
  apply Confined.bind
  · exact uses_handOver.mono
  · rintro ⟨hs, cache'⟩
    dsimp only
    split
    · apply confined_pure
    · apply Confined.bind
      · apply confined_question.mpr
        simp [Call.kind]
      · rintro (e | u)
        · apply confined_pure
        · apply confined_pure

theorem lastRow_after_initial :
  (Progress.initial.after hs).lastRow = (lastEntry (delivered hs)).map LogEntry.row
  := by
  rw [lastRow_after, lastEntry]
  cases (delivered hs).getLast? <;> rfl

/-- The report names the last row delivered. -/
theorem cursor_report :
  (report total (Progress.initial.after hs)).cursor
    = (lastEntry (delivered hs)).map fun e => ⟨e.row⟩
  := by
  rw [report, lastRow_after_initial, Option.map_map]
  rfl

/-- The last of non-empty sub-batches has a last entry. -/
theorem lastEntry_eq_none_iff (h : ∀ b ∈ batches, b ≠ []) :
  lastEntry batches = none ↔ batches = []
  := by
  rw [lastEntry, Option.bind_eq_none_iff]
  constructor
  · intro hlast
    by_contra hne
    apply h _ (List.getLast_mem hne)
    apply List.getLast?_eq_none_iff.mp
    apply hlast _ (List.getLast?_eq_some_getLast hne)
  · rintro rfl
    nofun

/-- The last entry of the last of non-empty sub-batches is the last entry of them all. -/
theorem lastEntry_eq_getLast?_flatten (h : ∀ b ∈ batches, b ≠ []) :
  lastEntry batches = batches.flatten.getLast?
  := by
  rcases batches.eq_nil_or_concat with rfl | ⟨before, b, rfl⟩
  · rfl
  · rw [List.concat_eq_append] at h ⊢
    have hb : b ≠ [] := h b (List.mem_append_right before List.mem_cons_self)
    rw [lastEntry, List.getLast?_concat, Option.bind_some, List.flatten_append,
      List.flatten_singleton, List.getLast?_append_of_ne_nil before.flatten hb]

/-- What a delivery does after its handovers: if something was delivered, it makes one
attempt to write the cursor, for the last row delivered, and it fails only with that. -/
inductive Recorded (total : Nat) (hs : List Handover) :
    Transcript → Except Failure ShipReport → Prop
  | nothing (h : delivered hs = []) :
      Recorded total hs [] (.ok (report total (Progress.initial.after hs)))
  | written {e : LogEntry} {x : Except Failure Unit} (h : lastEntry (delivered hs) = some e) :
      Recorded total hs [⟨.store ⟨e.row⟩, x⟩]
        (x.map fun _ => report total (Progress.initial.after hs))

theorem Recorded.within {r : Except Failure ShipReport} (h : Recorded total hs t r) :
  Within [.store] t
  := by
  cases h with
  | nothing h => nofun
  | written h => exact within_cons.mpr ⟨List.mem_cons_self, nofun⟩

theorem recorded_of_yields_account {r : Except Failure ShipReport}
    (h : (account limits job cache entries).Yields t (r, hs, cache')) :
  let batches := chunks limits.subBatchSize.toNat entries
  ∃ t₁ t₂, t = t₁ ++ t₂ ∧ Within [.lookup, .note, .push] t₁
    ∧ HandedOver job batches.length batches cache 0 t₁ (hs, cache')
    ∧ Recorded batches.length hs t₂ r
  := by
  rw [account] at h
  obtain ⟨t₁, ⟨hs', cache''⟩, t₂, rfl, hh, hr⟩ := yields_bind.mp h
  have hwithin := uses_handOver.within hh
  have hover := handedOver_of_yields hh
  have hne : ∀ b ∈ delivered hs', b ≠ [] := by
    intro b hb
    apply ne_nil_of_mem_chunks (hover.delivered_isPrefix.mem hb)
  dsimp only at hr
  rw [lastRow_after_initial] at hr
  cases hlast : lastEntry (delivered hs') with
  | none =>
      rw [hlast] at hr
      obtain ⟨rfl, ho⟩ := yields_pure.mp hr
      cases ho
      use t₁, [], rfl, hwithin, hover
      apply Recorded.nothing ((lastEntry_eq_none_iff hne).mp hlast)
  | some e =>
      rw [hlast] at hr
      obtain ⟨x, t', rfl, hx⟩ := yields_question_bind.mp hr
      use t₁, ⟨.store ⟨e.row⟩, x⟩ :: t', rfl, hwithin
      cases x with
      | error failure =>
          obtain ⟨rfl, ho⟩ := yields_pure.mp hx
          cases ho
          exact ⟨hover, Recorded.written hlast⟩
      | ok u =>
          obtain ⟨rfl, ho⟩ := yields_pure.mp hx
          cases ho
          exact ⟨hover, Recorded.written hlast⟩

end Shipping

end LogCourier
