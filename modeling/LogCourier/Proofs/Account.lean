import LogCourier.Pipeline.Cycle
import LogCourier.Proofs.Delivery
import LogCourier.Proofs.Reconciliation

/-!
# Accounts of cycles

The account of a cycle (`Account`) is its outcome with the sub-batches that were taken up;
forgetting these gives back `Pipeline.cycle` (`cycle_eq_account`). As far as the outside
world can tell a cycle goes in one of three ways (`Pipeline.Course`): nothing is pushed or
written, or the cursor is reset, or entries are shipped.

* Whatever the source answers, what is delivered ascends and is beyond the cursor
  (`Course.ascending`, `Course.beyond`).
* A cycle that raises the cursor delivered entries up to it, in order, of those that it
  collected (`Course.shipment_of_moved`, `Course.of_shipment`).
-/

namespace LogCourier

open Dialogue Work

/-- The failure that came of something, if it failed. -/
def Failure.of? {α : Type} : Except Failure α → Option Failure
  | .error e => some e
  | .ok _ => none

theorem Failure.of?_eq_some {α : Type} {o : Except Failure α} {e : Failure} :
  Failure.of? o = some e ↔ o = .error e
  := by
  cases o with
  | error f => rw [of?, Option.some.injEq, Except.error.injEq]
  | ok a => exact ⟨nofun, nofun⟩

/-- The account of a cycle: its outcome, the memory after it, and the sub-batches that were
taken up for delivery. -/
structure Account where
  outcome : Except Failure CycleReport
  memory : Memory
  handovers : List Handover

namespace Account

/-- The cycle reset the cursor. -/
def IsReset (a : Account) : Prop :=
  ∃ previous row, a.outcome = .ok (.reset previous row)

instance (a : Account) : Decidable a.IsReset :=
  match h : a.outcome with
  | .ok (.reset previous row) => .isTrue ⟨previous, row, h⟩
  | .ok .sourceEmpty => .isFalse fun ⟨_, _, hr⟩ => nomatch h.symm.trans hr
  | .ok (.upToDate _) => .isFalse fun ⟨_, _, hr⟩ => nomatch h.symm.trans hr
  | .ok (.shipped _ _) => .isFalse fun ⟨_, _, hr⟩ => nomatch h.symm.trans hr
  | .error _ => .isFalse fun ⟨_, _, hr⟩ => nomatch h.symm.trans hr

/-- The harvest and the report of the cycle, if it shipped. -/
def shipment (a : Account) : Option (Harvest × ShipReport) :=
  match a.outcome with
  | .ok (.shipped h r) => some (h, r)
  | _ => none

theorem shipment_eq_some {a : Account} {h : Harvest} {r : ShipReport} :
  a.shipment = some (h, r) ↔ a.outcome = .ok (.shipped h r)
  := by
  rw [shipment]
  constructor
  · intro heq
    split at heq
    · next hout =>
      cases heq
      apply hout
    · cases heq
  · intro hout
    rw [hout]

/-- The sub-batches that the cycle delivered. -/
def delivered (a : Account) : List (List LogEntry) :=
  LogCourier.delivered a.handovers

/-- The rows that the cycle delivered, in order. -/
def rows (a : Account) : List UInt64 :=
  a.delivered.flatten.map LogEntry.row

end Account

namespace Pipeline

/-- Carry out one cycle as `cycle` does, and give account of it. -/
def account (p : Pipeline) (m : Memory) : Work Account := do
  match ← p.reconcile m with
  | (.error e, m) => return ⟨.error e, m, []⟩
  | (.ok .sourceEmpty, m) => return ⟨.ok .sourceEmpty, m, []⟩
  | (.ok (.upToDate cursor), m) => return ⟨.ok (.upToDate cursor), m, []⟩
  | (.ok (.reset previous latestRow), m) => return ⟨.ok (.reset previous latestRow), m, []⟩
  | (.ok (.newEntries h), m) =>
    let (r, hs, cache) ← Shipping.account p.limits p.job m.hostnames h.entries
    return ⟨r.map (.shipped h), { m with hostnames := cache }, hs⟩

/-- Forgetting the handovers gives back the cycle. -/
theorem cycle_eq_account (p : Pipeline) (m : Memory) :
  p.cycle m = (fun a => (a.outcome, a.memory)) <$> p.account m
  := by
  rw [cycle, account, map_bind]
  congr 1
  funext x
  obtain ⟨e | r, m⟩ := x
  · rfl
  · cases r with
    | sourceEmpty => rfl
    | upToDate cursor => rfl
    | reset previous latestRow => rfl
    | newEntries h =>
        dsimp only
        rw [ship, Shipping.ship_eq_account, map_bind, bind_map_left, LawfulMonad.bind_assoc]
        rfl

variable {p : Pipeline} {m m' : Memory} {c : Cursor} {t : Transcript} {a : Account}

/-- What a reconciliation without new entries makes of a cycle. -/
inductive Settles : Except Failure Reconciliation → Except Failure CycleReport → Prop
  | failed {e : Failure} : Settles (.error e) (.error e)
  | sourceEmpty : Settles (.ok .sourceEmpty) (.ok .sourceEmpty)
  | upToDate {c : Cursor} : Settles (.ok (.upToDate c)) (.ok (.upToDate c))
  | reset {c : Cursor} {row : UInt64} : Settles (.ok (.reset c row)) (.ok (.reset c row))

/-- The parts of a cycle: a reconciliation, and a delivery if there are new entries. -/
inductive Accounted (p : Pipeline) (m : Memory) : Transcript → Account → Prop
  | settled {t : Transcript} {r : Except Failure Reconciliation} {g : Governor}
      {o : Except Failure CycleReport}
      (hr : (Reconciliation.reconcile p.limits m.governor).Yields t (r, g)) (ho : Settles r o) :
      Accounted p m t ⟨o, { m with governor := g }, []⟩
  | shipped {t t' : Transcript} {harvest : Harvest} {g : Governor} {r : Except Failure ShipReport}
      {hs : List Handover} {cache : HostnameCache}
      (hr : (Reconciliation.reconcile p.limits m.governor).Yields t (.ok (.newEntries harvest), g))
      (hship : (Shipping.account p.limits p.job m.hostnames harvest.entries).Yields t'
        (r, hs, cache)) :
      Accounted p m (t ++ t') ⟨r.map (.shipped harvest), ⟨g, cache⟩, hs⟩

theorem accounted_of_yields (h : (p.account m).Yields t a) :
  Accounted p m t a
  := by
  rw [account, reconcile] at h
  obtain ⟨t₀, ⟨o, m'⟩, t₂, rfl, hrec, hend⟩ := yields_bind.mp h
  obtain ⟨t₁, ⟨o', g'⟩, t₃, rfl, hscan, hpure⟩ := yields_bind.mp hrec
  obtain ⟨rfl, hpair⟩ := yields_pure.mp hpure
  cases hpair
  rw [List.append_nil]
  rcases o with e | outcome
  · obtain ⟨rfl, rfl⟩ := yields_pure.mp hend
    rw [List.append_nil]
    apply Accounted.settled hscan .failed
  · cases outcome with
    | newEntries harvest =>
        obtain ⟨t₃, ⟨r, hs, cache⟩, t₄, rfl, hship, hr⟩ := yields_bind.mp hend
        obtain ⟨rfl, rfl⟩ := yields_pure.mp hr
        rw [List.append_nil]
        apply Accounted.shipped hscan hship
    | sourceEmpty =>
        obtain ⟨rfl, rfl⟩ := yields_pure.mp hend
        rw [List.append_nil]
        apply Accounted.settled hscan .sourceEmpty
    | upToDate cursor =>
        obtain ⟨rfl, rfl⟩ := yields_pure.mp hend
        rw [List.append_nil]
        apply Accounted.settled hscan .upToDate
    | reset previous latestRow =>
        obtain ⟨rfl, rfl⟩ := yields_pure.mp hend
        rw [List.append_nil]
        apply Accounted.settled hscan .reset

/-- A cycle makes all kinds of calls, but it does not pause. -/
theorem uses_account :
  Uses [.abort, .load, .fetch, .clock, .note, .store, .lookup, .push] (p.account m)
  := by
  rw [account, reconcile]
  apply Confined.bind
  · apply Confined.bind
    · exact Reconciliation.uses_reconcile.mono
    · intro _
      apply confined_pure
  · rintro ⟨e | outcome, m'⟩
    · apply confined_pure
    · cases outcome with
      | newEntries harvest =>
          apply Confined.bind
          · exact Shipping.uses_account.mono
          · intro _
            apply confined_pure
      | sourceEmpty => apply confined_pure
      | upToDate cursor => apply confined_pure
      | reset previous latestRow => apply confined_pure

/-- The entries were collected beyond the cursor `c` after the newest row was asked for. -/
inductive Collected (p : Pipeline) (c : Cursor) (t : Transcript) (row : UInt64)
    (entries : List LogEntry) : Prop
  | intro {head : QueryLogPage} {g g' : Governor} {t₁ : Transcript}
      (hf : fetches t = (⟨1, 1⟩, .ok head) :: fetches t₁) (hrow : head.latestRow = some row)
      (hlt : c.row < row)
      (hs : Reconciliation.Scanned p.limits c (row - c.row)
        (Reconciliation.pages p.limits c row).toNat 1 g [] t₁ (.ok entries, g'))

theorem Collected.ascending {row : UInt64} {entries : List LogEntry}
    (h : Collected p c t row entries) :
  Ascending entries
  := by
  obtain ⟨hf, hrow, hlt, hs⟩ := h
  apply hs.ascending

theorem Collected.beyond {row : UInt64} {entries : List LogEntry}
    (h : Collected p c t row entries) :
  ∀ e ∈ entries, c.row < e.row
  := by
  obtain ⟨hf, hrow, hlt, hs⟩ := h
  apply hs.beyond

/-- How a cycle ends that neither pushes nor writes, if the cursor is `c` when it is read: a
fetch fails, or the newest row is all that is asked for. -/
inductive Idle (c : Cursor) (t : Transcript) (a : Account) : Prop
  | failed {e : Failure} (ho : a.outcome = .error e) (he : e.IsOfSource)
      (hcause : a.memory.governor.terminated = true ∨ ∃ r error, (r, .error error) ∈ fetches t)
  | sourceEmpty {head : QueryLogPage} (hf : fetches t = [(⟨1, 1⟩, .ok head)])
      (hrow : head.latestRow = none) (ho : a.outcome = .ok .sourceEmpty)
  | upToDate {head : QueryLogPage} (hf : fetches t = [(⟨1, 1⟩, .ok head)])
      (hrow : head.latestRow = some c.row) (ho : a.outcome = .ok (.upToDate c))

theorem Idle.not_isReset (h : Idle c t a) :
  ¬ a.IsReset
  := by
  rintro ⟨previous, row, hout⟩
  cases h with
  | failed ho he hcause => cases ho.symm.trans hout
  | sourceEmpty hf hrow ho => cases ho.symm.trans hout
  | upToDate hf hrow ho => cases ho.symm.trans hout

theorem Idle.shipment_eq_none (h : Idle c t a) :
  a.shipment = none
  := by
  cases h with
  | failed ho he hcause => rw [Account.shipment, ho]
  | sourceEmpty hf hrow ho => rw [Account.shipment, ho]
  | upToDate hf hrow ho => rw [Account.shipment, ho]

/-- How a cycle goes as far as the outside world can tell, if the cursor is `c` when it is
read. -/
inductive Course (p : Pipeline) (c : Cursor) (t : Transcript) (a : Account) : Prop
  | idle (hw : writes t = []) (hp : pushes t = []) (hh : a.handovers = []) (hi : Idle c t a)
  | reset {head : QueryLogPage} {row : UInt64} {x : Except Failure Unit}
      (hf : fetches t = [(⟨1, 1⟩, .ok head)]) (hrow : head.latestRow = some row)
      (hlt : row < c.row) (hw : writes t = [(.zero, x)]) (hp : pushes t = [])
      (hh : a.handovers = []) (ho : a.outcome = x.map fun _ => .reset c row)
  | shipped {row : UInt64} {entries : List LogEntry} {total : Nat} {t₂ : Transcript}
      {r : Except Failure ShipReport} (hc : Collected p c t row entries)
      (hd : a.delivered <+: Shipping.chunks p.limits.subBatchSize.toNat entries)
      (hsettled : ∀ b ∈ a.delivered,
        (∀ e ∈ b, e.IsMalformed) ∨ Shipping.Accepted p.job b t)
      (hw : writes t = writes t₂) (hrec : Shipping.Recorded total a.handovers t₂ r)
      (ho : a.outcome = r.map (.shipped (Reconciliation.harvestOf p.limits c row entries)))
      (hall : (∀ x ∈ pushes t, x.2 = .ok ()) →
        a.delivered = Shipping.chunks p.limits.subBatchSize.toNat entries)

/-- What is asked of the source before anything is pushed or written. -/
theorem within_load {n : Transcript} {o : Except Failure QueryLogPage} {g g' : Governor}
    (hf : (Polling.fetch g ⟨1, 1⟩).Yields t (o, g')) (hn : Within [.fetch, .clock, .note] n) :
  Within [.load, .fetch, .clock, .note] (⟨.load, c⟩ :: (t ++ n))
  := by
  apply within_cons.mpr
  constructor
  · apply List.mem_cons_self
  · apply within_append.mpr
    exact ⟨(Polling.uses_fetch.within hf).mono, hn.mono⟩

/-- A cycle that only asks the source and takes notes. -/
theorem Course.of_within (ht : Within [.load, .fetch, .clock, .note] t) (hh : a.handovers = [])
    (hi : Idle c t a) :
  Course p c t a
  := Course.idle (writes_of_within ht) (pushes_of_within ht) hh hi

/-- A cycle that asks for the newest row and for nothing else. -/
theorem fetches_head {head : QueryLogPage} {g g' : Governor} {n : Transcript}
    (hf : (Polling.fetch g ⟨1, 1⟩).Yields t (.ok head, g')) (hn : Within [.note] n) :
  fetches (⟨.load, c⟩ :: (t ++ n)) = [(⟨1, 1⟩, .ok head)]
  := by
  rw [fetches_cons, fetches_append, fetches_of_within hn, Polling.fetches_of_yields_ok hf]
  rfl

/-- A cycle that meets a row before the cursor. -/
theorem course_of_resetCursor {head : QueryLogPage} {row : UInt64} {g : Governor}
    {t₁ : Transcript} {x : Except Failure Unit}
    (hf : (Polling.fetch m.governor ⟨1, 1⟩).Yields t (.ok head, g))
    (hrow : head.latestRow = some row) (hlt : row < c.row)
    (hr : (Reconciliation.resetCursor c row).Yields t₁ (x.map fun _ => .reset c row))
    (hw : writes t₁ = [(.zero, x)]) :
  Course p c (⟨.load, c⟩ :: (t ++ t₁)) ⟨x.map fun _ => .reset c row, { m with governor := g }, []⟩
  := by
  have hfetch := Polling.uses_fetch.within hf
  have hrest := Reconciliation.uses_resetCursor.within hr
  refine Course.reset ?_ hrow hlt ?_ ?_ rfl rfl
  · rw [fetches_cons, fetches_append, fetches_of_within hrest, Polling.fetches_of_yields_ok hf]
    rfl
  · rw [writes_cons, writes_append, hw, writes_of_within hfetch]
    rfl
  · rw [pushes_cons, pushes_append, pushes_of_within hfetch, pushes_of_within hrest]
    rfl

/-- A cycle that ships the entries its scan collected. -/
theorem course_of_ship {head : QueryLogPage} {row : UInt64} {g g' : Governor}
    {entries : List LogEntry} {r : Except Failure ShipReport} {hs : List Handover}
    {cache cache' : HostnameCache} {n t₁ t₂ : Transcript}
    (hf : (Polling.fetch m.governor ⟨1, 1⟩).Yields t (.ok head, g))
    (hrow : head.latestRow = some row) (hlt : c.row < row) (hn : Within [.note] n)
    (hask : Within [.fetch, .clock, .note] t₁)
    (hscan : Reconciliation.Scanned p.limits c (row - c.row)
      (Reconciliation.pages p.limits c row).toNat 1 g [] t₁ (.ok entries, g'))
    (hship : (Shipping.account p.limits p.job cache entries).Yields t₂ (r, hs, cache')) :
  Course p c (⟨.load, c⟩ :: (t ++ (n ++ t₁)) ++ t₂)
    ⟨r.map (.shipped (Reconciliation.harvestOf p.limits c row entries)), ⟨g', cache'⟩, hs⟩
  := by
  obtain ⟨t₃, t₄, rfl, hpush, hover, hrec⟩ := Shipping.recorded_of_yields_account hship
  have hbefore := within_load (c := c) hf (within_append.mpr ⟨hn.mono, hask⟩)
  refine Course.shipped (.intro ?_ hrow hlt hscan) hover.delivered_isPrefix ?_ ?_ hrec rfl ?_
  · rw [fetches_append, fetches_append, fetches_of_within hpush, fetches_of_within hrec.within,
      fetches_cons, fetches_append, fetches_append, fetches_of_within hn,
      Polling.fetches_of_yields_ok hf]
    simp [fetch?]
  · intro b hb
    apply (hover.settled b hb).imp_right
    intro hacc
    apply hacc.mono
    rw [pushes_append, @pushes_append t₃ t₄]
    exact List.Subset.trans (List.subset_append_left _ _) (List.subset_append_right _ _)
  · rw [writes_append, writes_append, writes_of_within hbefore, writes_of_within hpush]
    rfl
  · intro hp
    apply hover.delivered_eq
    intro x hx
    apply hp
    rw [pushes_append, @pushes_append t₃ t₄]
    apply List.mem_append_right _ (List.mem_append_left _ hx)

/-- A cycle reads the cursor first, and its course depends on what it reads. -/
theorem exists_course (h : (p.account m).Yields t a) :
  ∃ c t', t = ⟨.load, c⟩ :: t' ∧ Course p c t a
  := by
  rw [account, reconcile] at h
  obtain ⟨t₀, ⟨o, m'⟩, t₂, rfl, hrec, hend⟩ := yields_bind.mp h
  obtain ⟨t₁, ⟨o', g'⟩, t₃, rfl, hscan, hpure⟩ := yields_bind.mp hrec
  obtain ⟨rfl, hpair⟩ := yields_pure.mp hpure
  cases hpair
  rw [List.append_nil]
  cases Reconciliation.reconciled_of_yields hscan with
  | @headFailed c t e g' hf =>
      obtain ⟨rfl, rfl⟩ := yields_pure.mp hend
      obtain ⟨he, hcause⟩ := Polling.refused_or_failed hf
      have hload := within_load (c := c) (n := []) hf nofun
      rw [List.append_nil] at hload ⊢
      refine ⟨c, t, rfl, Course.of_within hload rfl (.failed rfl he ?_)⟩
      apply hcause.imp_right
      rintro ⟨error, hfailed⟩
      exact ⟨_, error, hfailed⟩
  | @sourceEmpty c t n head g' hf hrow hn =>
      obtain ⟨rfl, rfl⟩ := yields_pure.mp hend
      rw [List.append_nil]
      have hnote := (uses_log _ _ _).within hn
      refine ⟨c, t ++ n, rfl, Course.of_within (within_load hf hnote.mono) rfl ?_⟩
      apply Idle.sourceEmpty (fetches_head hf hnote) hrow rfl
  | @reset c t t' head g' row o hf hrow hlt hreset =>
      obtain ⟨x, hw, rfl⟩ := Reconciliation.writes_resetCursor hreset
      have hcourse := course_of_resetCursor (p := p) hf hrow hlt hreset hw
      cases x with
      | error e =>
          obtain ⟨rfl, rfl⟩ := yields_pure.mp hend
          rw [List.append_nil]
          exact ⟨c, t ++ t', rfl, hcourse⟩
      | ok u =>
          obtain ⟨rfl, rfl⟩ := yields_pure.mp hend
          rw [List.append_nil]
          exact ⟨c, t ++ t', rfl, hcourse⟩
  | @upToDate c t n head g' hf hrow hn =>
      obtain ⟨rfl, rfl⟩ := yields_pure.mp hend
      rw [List.append_nil]
      have hnote := (uses_log _ _ _).within hn
      refine ⟨c, t ++ n, rfl, Course.of_within (within_load hf hnote.mono) rfl ?_⟩
      apply Idle.upToDate (fetches_head hf hnote) hrow rfl
  | @harvest c t t' head g' row o hf hrow hlt hh =>
      have hask := (Reconciliation.uses_harvest.within hh).of_abort
      obtain ⟨n, t₁, s, rfl, hn, hs, rfl⟩ := Reconciliation.scanned_of_yields_harvest hh
      cases s with
      | error e =>
          obtain ⟨rfl, rfl⟩ := yields_pure.mp hend
          obtain ⟨he, hcause⟩ := hs.refused_or_failed
          rw [List.append_nil]
          refine ⟨c, t ++ (n ++ t₁), rfl, Course.of_within (within_load hf hask) rfl ?_⟩
          refine Idle.failed rfl he (hcause.imp_right ?_)
          rintro ⟨r, error, hfailed⟩
          use r, error
          rw [fetches_cons, fetches_append, fetches_append]
          apply List.mem_append_right _ (List.mem_append_right _ (List.mem_append_right _ hfailed))
      | ok entries =>
          obtain ⟨t₂, ⟨r, hs', cache⟩, t₃, rfl, hship, hr⟩ := yields_bind.mp hend
          obtain ⟨rfl, rfl⟩ := yields_pure.mp hr
          rw [List.append_nil]
          refine ⟨c, t ++ (n ++ t₁) ++ t₂, rfl, ?_⟩
          apply course_of_ship hf hrow hlt hn (within_append.mp hask).2 hs hship

theorem course_of_yields (h : (p.account m).Yields t a) (hc : ReadsBack c t) :
  Course p c t a
  := by
  obtain ⟨d, t', rfl, hcourse⟩ := exists_course h
  obtain rfl := hc.1 d rfl
  apply hcourse

/-- A cycle that gets pages only leaves the circuit as it is. -/
theorem terminated_of_answered (h : (p.account m).Yields t a) (ht : Answered t) :
  a.memory.governor.terminated = m.governor.terminated
  := by
  rw [account, reconcile] at h
  obtain ⟨t₀, ⟨o, m'⟩, t₂, rfl, hrec, hend⟩ := yields_bind.mp h
  obtain ⟨t₁, ⟨o', g'⟩, t₃, rfl, hscan, hpure⟩ := yields_bind.mp hrec
  obtain ⟨rfl, hpair⟩ := yields_pure.mp hpure
  cases hpair
  rw [List.append_nil] at ht
  obtain ⟨hask, -⟩ := answered_append.mp ht
  rw [← (Reconciliation.reconciled_of_yields hscan).terminated_of_answered hask]
  rcases o with e | outcome
  · obtain ⟨-, rfl⟩ := yields_pure.mp hend
    rfl
  · cases outcome with
    | newEntries harvest =>
        obtain ⟨t₃, ⟨r, hs, cache⟩, t₄, rfl, -, hr⟩ := yields_bind.mp hend
        obtain ⟨-, rfl⟩ := yields_pure.mp hr
        rfl
    | sourceEmpty =>
        obtain ⟨-, rfl⟩ := yields_pure.mp hend
        rfl
    | upToDate cursor =>
        obtain ⟨-, rfl⟩ := yields_pure.mp hend
        rfl
    | reset previous latestRow =>
        obtain ⟨-, rfl⟩ := yields_pure.mp hend
        rfl

namespace Course

variable (h : Course p c t a)
include h

/-- A cycle that reset the cursor met a row before it, and wrote 0. -/
theorem of_isReset (hr : a.IsReset) :
  ∃ row, row < c.row ∧ writes t = [(.zero, .ok ())]
  := by
  obtain ⟨previous, row', hout⟩ := hr
  cases h with
  | idle hw hp hh hi => exact absurd ⟨previous, row', hout⟩ hi.not_isReset
  | @reset head row x hf hrow hlt hw hp hh ho =>
      use row, hlt
      rw [hw]
      cases x with
      | error e => cases ho.symm.trans hout
      | ok u => rfl
  | @shipped row entries total t₂ r hc hd hsettled hw hrec ho =>
      cases r with
      | error e => cases ho.symm.trans hout
      | ok report => cases ho.symm.trans hout

/-- What is delivered are the first sub-batches of an ascending list beyond the cursor. -/
theorem delivered_isPrefix :
  ∃ entries, a.delivered <+: Shipping.chunks p.limits.subBatchSize.toNat entries
    ∧ Ascending entries ∧ ∀ e ∈ entries, c.row < e.row
  := by
  have hnothing : a.handovers = [] →
      a.delivered <+: Shipping.chunks p.limits.subBatchSize.toNat [] := by
    intro hh
    rw [Account.delivered, hh]
    apply List.nil_prefix
  cases h with
  | idle hw hp hh hi => exact ⟨[], hnothing hh, List.Pairwise.nil, nofun⟩
  | reset hf hrow hlt hw hp hh ho => exact ⟨[], hnothing hh, List.Pairwise.nil, nofun⟩
  | @shipped row entries total t₂ r hc hd hsettled hw hrec ho =>
      exact ⟨entries, hd, hc.ascending, hc.beyond⟩

/-- What is delivered is beyond the cursor. -/
theorem beyond :
  ∀ e ∈ a.delivered.flatten, c.row < e.row
  := by
  obtain ⟨entries, hd, hasc, hbeyond⟩ := h.delivered_isPrefix
  intro e he
  apply hbeyond e ((Shipping.flatten_isPrefix hd).mem he)

/-- What is delivered ascends. -/
theorem ascending :
  Ascending a.delivered.flatten
  := by
  obtain ⟨entries, hd, hasc, hbeyond⟩ := h.delivered_isPrefix
  apply List.Pairwise.sublist (Shipping.flatten_isPrefix hd).sublist hasc

/-- The last entry of the last sub-batch delivered is the last entry delivered. -/
theorem lastEntry_eq :
  Shipping.lastEntry a.delivered = a.delivered.flatten.getLast?
  := by
  obtain ⟨entries, hd, hasc, hbeyond⟩ := h.delivered_isPrefix
  apply Shipping.lastEntry_eq_getLast?_flatten
  intro b hb
  apply Shipping.ne_nil_of_mem_chunks (hd.mem hb)

/-- A cycle that raises the cursor ships, and reports the cursor. -/
theorem shipment_of_moved (hmoved : c.row < (persisted c t).row) :
  ∃ harvest report, a.shipment = some (harvest, report)
    ∧ report.cursor = some (persisted c t)
  := by
  cases h with
  | idle hw hp hh hi =>
      rw [persisted_of_writes_eq_nil hw] at hmoved
      exact absurd hmoved (UInt64.lt_irrefl _)
  | @reset head row x hf hrow hlt hw hp hh ho =>
      rw [persisted_of_writes_singleton hw] at hmoved
      cases x with
      | error e => exact absurd hmoved (UInt64.lt_irrefl _)
      | ok u => exact absurd hmoved UInt64.not_lt_zero
  | @shipped row entries total t₂ r hc hd hsettled hw hrec ho =>
      cases hrec with
      | nothing hnone =>
          rw [persisted_of_writes_eq_nil hw] at hmoved
          exact absurd hmoved (UInt64.lt_irrefl _)
      | @written last x hsome =>
          have hone : writes t = [(⟨last.row⟩, x)] := hw
          rw [persisted_of_writes_singleton hone] at hmoved ⊢
          cases x with
          | error failure => exact absurd hmoved (UInt64.lt_irrefl _)
          | ok u =>
              refine ⟨_, _, Account.shipment_eq_some.mpr ho, ?_⟩
              rw [Shipping.cursor_report, hsome]
              rfl

/-- A cycle that ships and reports a cursor delivered entries up to it, in order, of those
that it collected. -/
theorem of_shipment {harvest : Harvest} {report : ShipReport} {d : Cursor}
    (hs : a.shipment = some (harvest, report)) (hd : report.cursor = some d) :
  harvest = Reconciliation.harvestOf p.limits c harvest.latestRow harvest.entries
    ∧ Collected p c t harvest.latestRow harvest.entries
    ∧ a.delivered <+: Shipping.chunks p.limits.subBatchSize.toNat harvest.entries
    ∧ (∀ b ∈ a.delivered, (∀ e ∈ b, e.IsMalformed) ∨ Shipping.Accepted p.job b t)
    ∧ ∃ last, a.delivered.flatten.getLast? = some last ∧ d = ⟨last.row⟩
  := by
  have hlast := h.lastEntry_eq
  have hout := Account.shipment_eq_some.mp hs
  cases h with
  | idle hw hp hh hi => cases hi.shipment_eq_none.symm.trans hs
  | @reset head row x hf hrow hlt hw hp hh ho => cases x <;> cases ho.symm.trans hout
  | @shipped row entries total t₂ r hc hpre hsettled hw hrec ho =>
      have heq := ho.symm.trans hout
      cases hrec with
      | nothing hnone =>
          cases heq
          rw [Shipping.cursor_report, hnone] at hd
          cases hd
      | @written last x hsome =>
          cases x with
          | error failure => cases heq
          | ok u =>
              cases heq
              rw [Shipping.cursor_report, hsome] at hd
              cases hd
              exact ⟨rfl, hc, hpre, hsettled, last, hlast.symm.trans hsome, rfl⟩

end Course

end Pipeline

end LogCourier
