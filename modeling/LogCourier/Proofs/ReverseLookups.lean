import LogCourier.Proofs.Rehearsals
import LogCourier.Proofs.TwoWorlds

/-!
# Reverse lookups and delivery

What name servers answer shows in the names of clients and in what is told of lookups, and
nowhere else: in two worlds that differ in their name servers and clocks only, the rounds of two
runs are alike (`Pipeline.rounds_alike`). The same pages are asked for, the same sub-batches are
handed over and accepted or refused, the same cursors are written, and the reports are the same
up to the wording of a refusal.

Each part of a cycle is akin to itself with other names: the hostnames of clients make calls
about names only, a request is empty or not whatever the names are, and of a push only its
acceptance goes on.
-/

namespace LogCourier

open Dialogue Work

/-! ### What may differ -/

/-- Two governors are the same but for the time of the last success. -/
structure Governor.Akin (g₁ g₂ : Governor) : Prop where
  threshold : g₁.threshold = g₂.threshold
  failures : g₁.failures = g₂.failures
  terminated : g₁.terminated = g₂.terminated

/-- Two handovers are of the same sub-batch, both delivered or both refused. -/
structure Handover.Akin (h₁ h₂ : Handover) : Prop where
  batch : h₁.batch = h₂.batch
  outcome : h₁.outcome.isOk = h₂.outcome.isOk

/-- Two reports are the same but for the wording of a failure. -/
structure ShipReport.Akin (r₁ r₂ : ShipReport) : Prop where
  rest : { r₁ with failure := none } = { r₂ with failure := none }
  failure : r₁.failure.isSome = r₂.failure.isSome

/-- Two reports of cycles are the same but for the wording of a refusal. -/
inductive CycleReport.Akin : CycleReport → CycleReport → Prop
  | same (r : CycleReport) : Akin r r
  | shipped (h : Harvest) {r₁ r₂ : ShipReport} (hr : r₁.Akin r₂) :
      Akin (.shipped h r₁) (.shipped h r₂)

/-- Two outcomes are the same failure, or they are related successes. -/
inductive AkinOutcomes {α β : Type} (R : α → β → Prop) : Except Failure α → Except Failure β → Prop
  | error (e : Failure) : AkinOutcomes R (.error e) (.error e)
  | ok {a : α} {b : β} (h : R a b) : AkinOutcomes R (.ok a) (.ok b)

/-- Two accounts are the same but for names, times and the wording of a refusal. -/
structure Account.Akin (a₁ a₂ : Account) : Prop where
  outcome : AkinOutcomes CycleReport.Akin a₁.outcome a₂.outcome
  handovers : List.Forall₂ Handover.Akin a₁.handovers a₂.handovers
  governor : a₁.memory.governor.Akin a₂.memory.governor

variable {job : String} {g₁ g₂ : Governor} {c₁ c₂ : HostnameCache} {s₁ s₂ : List LogStream}
  {entries : List LogEntry}

/-! ### Fetching -/

namespace Governor.Akin

theorem refl (g : Governor) :
  g.Akin g
  := ⟨rfl, rfl, rfl⟩

theorem success (h : g₁.Akin g₂) (x y : Nat) :
  (g₁.success x).Akin (g₂.success y)
  := ⟨h.threshold, rfl, h.terminated⟩

theorem failure (h : g₁.Akin g₂) (e : SourceError) :
  (g₁.failure e).1 = (g₂.failure e).1 ∧ (g₁.failure e).2.Akin (g₂.failure e).2
  := by
  rw [Governor.failure, Governor.failure, h.threshold, h.failures, h.terminated]
  dsimp only
  split
  · exact ⟨rfl, rfl, rfl, rfl⟩
  · exact ⟨rfl, rfl, rfl, rfl⟩

end Governor.Akin

namespace Polling

/-- A fetch goes on alike. -/
theorem akin_fetch (h : g₁.Akin g₂) (r : PageRequest) :
  Akin job (fun a b => a.1 = b.1 ∧ a.2.Akin b.2) (fetch g₁ r) (fetch g₂ r)
  := by
  rw [fetch, fetch, h.failures, h.terminated]
  split
  · exact akin_pure ⟨rfl, h⟩
  · apply akin_question_bind (q := .fetch r) trivial
    rintro (e | page)
    · obtain ⟨hverdict, hg⟩ := h.failure e
      have hnote : Uses [.note] (noteFailed r e (g₂.failure e).1.failures) :=
        (uses_record _).bind fun _ => uses_log _ _ _
      dsimp only
      rw [hverdict]
      apply (akin_self hnote.mono).bind
      rintro _ _ -
      exact akin_pure ⟨rfl, hg⟩
    · apply akin_clock_bind
      intro x y
      dsimp only [noteFetched]
      rw [LawfulMonad.bind_assoc, LawfulMonad.bind_assoc]
      apply akin_note_bind (.time _ _)
      apply (akin_self (uses_log _ _ _).mono).bind
      rintro _ _ -
      exact akin_pure ⟨rfl, h.success x y⟩

end Polling

/-! ### Finding out what is new -/

namespace Reconciliation

variable {limits : Limits} {cursor : Cursor} {pending : UInt64}

theorem akin_scan {left page : Nat} {collected : List LogEntry} (h : g₁.Akin g₂) :
  Akin job (fun a b => a.1 = b.1 ∧ a.2.Akin b.2)
    (scan limits cursor pending left page g₁ collected)
    (scan limits cursor pending left page g₂ collected)
  := by
  induction left generalizing page g₁ g₂ collected with
  | zero => exact akin_pure ⟨rfl, h⟩
  | succ left ih =>
      rw [scan, scan]
      apply (Polling.akin_fetch h _).bind
      rintro ⟨e | p, g₁'⟩ ⟨_, g₂'⟩ ⟨rfl, hg⟩
      · exact akin_pure ⟨rfl, hg⟩
      · dsimp only
        split
        · exact akin_pure ⟨rfl, hg⟩
        · split
          · exact akin_pure ⟨rfl, hg⟩
          · apply ih hg

theorem akin_harvest {latestRow : UInt64} (h : g₁.Akin g₂) :
  Akin job (fun a b => a.1 = b.1 ∧ a.2.Akin b.2) (harvest limits g₁ cursor latestRow)
    (harvest limits g₂ cursor latestRow)
  := by
  rw [harvest, harvest]
  apply (akin_self uses_noteBacklog.mono).bind
  rintro _ _ -
  apply (akin_self uses_reserve.mono).bind
  rintro _ _ -
  apply (akin_scan h).bind
  rintro ⟨o, g₁'⟩ ⟨_, g₂'⟩ ⟨rfl, hg⟩
  exact akin_pure ⟨rfl, hg⟩

/-- What is new is found out alike. -/
theorem akin_reconcile (h : g₁.Akin g₂) :
  Akin job (fun a b => a.1 = b.1 ∧ a.2.Akin b.2) (reconcile limits g₁) (reconcile limits g₂)
  := by
  rw [reconcile, reconcile]
  apply akin_question_bind (q := .load) trivial
  intro cursor
  apply (Polling.akin_fetch h _).bind
  rintro ⟨e | head, g₁'⟩ ⟨_, g₂'⟩ ⟨rfl, hg⟩
  · exact akin_pure ⟨rfl, hg⟩
  · dsimp only
    split
    · apply (akin_self (uses_log _ _ _).mono).bind
      rintro _ _ -
      exact akin_pure ⟨rfl, hg⟩
    · next latestRow _ =>
      split
      · apply (akin_self uses_resetCursor.mono).bind
        rintro o _ rfl
        exact akin_pure ⟨rfl, hg⟩
      · split
        · apply (akin_self (uses_log _ _ _).mono).bind
          rintro _ _ -
          exact akin_pure ⟨rfl, hg⟩
        · exact akin_harvest hg

end Reconciliation

/-! ### Naming clients -/

namespace HostnameCache

theorem confined_lookup (client : String) :
  (lookup client).Confined Call.IsAboutNames
  := by
  rw [lookup]
  split
  · apply Confined.bind (confined_question.mpr (.inl rfl))
    intro _
    apply confined_pure
  · apply Confined.bind (confined_question.mpr trivial)
    rintro (e | name)
    · apply Confined.bind (confined_question.mpr (.inr rfl))
      intro _
      apply confined_pure
    · apply confined_pure

/-- Naming a client makes calls about names only. -/
theorem confined_hostname (c : HostnameCache) (client : String) :
  (c.hostname client).Confined Call.IsAboutNames
  := by
  rw [hostname]
  split
  · apply confined_pure
  · apply Confined.bind (confined_lookup client)
    intro name
    apply Confined.bind (confined_question.mpr trivial)
    intro _
    apply confined_pure

end HostnameCache

namespace Formatting

theorem akin_noteProcessed (e : LogEntry) (x y : String) :
  Akin job Eq (noteProcessed e x (labels job e x)) (noteProcessed e y (labels job e y))
  := by
  dsimp only [noteProcessed]
  rw [get?_labels (by decide) e x y, get?_labels (by decide) e x y, get?_labels (by decide) e x y]
  apply akin_note (.name _ _ _ _ _ _)

theorem akin_group :
  Akin job (fun _ _ => True) (group job entries c₁ s₁) (group job entries c₂ s₂)
  := by
  induction entries generalizing c₁ c₂ s₁ s₂ with
  | nil => exact akin_pure trivial
  | cons e entries ih =>
      rw [group, group]
      split
      · apply (akin_self (uses_noteMalformed _ _).mono).bind
        rintro _ _ -
        exact ih
      · apply (akin_of_confined (c₁.confined_hostname _) (c₂.confined_hostname _)).bind
        rintro ⟨x, c₁'⟩ ⟨y, c₂'⟩ -
        apply (akin_noteProcessed e x y).bind
        rintro _ _ -
        exact ih

/-- Requests of the same entries are akin, and one is empty if the other is. -/
theorem akin_format :
  Akin job (fun a b => a.1.Akin job b.1 ∧ a.1.isEmpty = b.1.isEmpty) (format job c₁ entries)
    (format job c₂ entries)
  := by
  have hformat : Akin job (fun _ _ => True) (format job c₁ entries) (format job c₂ entries) :=
    akin_group.bind fun a b _ => akin_pure trivial
  apply hformat.yields.mono
  rintro ⟨q₁, c₁'⟩ ⟨q₂, c₂'⟩ ⟨-, ⟨t₁, h₁⟩, t₂, h₂⟩
  constructor
  · obtain ⟨ns₁, hns₁, rfl⟩ := exists_named_of_yields_format h₁
    obtain ⟨ns₂, hns₂, rfl⟩ := exists_named_of_yields_format h₂
    exact ⟨ns₁, ns₂, hns₁.trans hns₂.symm, rfl, rfl⟩
  · apply Bool.eq_iff_iff.mpr
    exact (isEmpty_iff_of_yields_format h₁).trans (isEmpty_iff_of_yields_format h₂).symm

end Formatting

/-! ### Delivering -/

theorem delivered_eq_of_akin {hs₁ hs₂ : List Handover} (h : List.Forall₂ Handover.Akin hs₁ hs₂) :
  delivered hs₁ = delivered hs₂
  := by
  induction h with
  | nil => rfl
  | @cons h₁ h₂ hs₁ hs₂ hh hr ih =>
      rw [delivered] at ih
      rw [delivered, delivered, List.filter_cons, List.filter_cons, hh.outcome]
      split
      · rw [List.map_cons, List.map_cons, hh.batch, ih]
        rfl
      · exact ih

namespace Shipping

variable {batch : List LogEntry} {batches : List (List LogEntry)} {total sent : Nat}
  {limits : Limits}

theorem akin_deliver :
  Akin job (fun a b => a.1.isOk = b.1.isOk) (deliver job c₁ batch) (deliver job c₂ batch)
  := by
  rw [deliver, deliver]
  apply Formatting.akin_format.bind
  rintro ⟨q₁, c₁'⟩ ⟨q₂, c₂'⟩ ⟨hq, hempty⟩
  dsimp only at hq hempty ⊢
  rw [hempty]
  split
  · exact akin_pure rfl
  · apply akin_push_bind hq
    intro x y hxy
    exact akin_pure hxy

theorem akin_noteRefused (e₁ e₂ : Failure) :
  Akin job Eq (noteRefused sent total e₁) (noteRefused sent total e₂)
  := by
  apply akin_note_bind (.same _)
  apply akin_note (.wording _ _ [("sub_batch", .nat sent), ("total", .nat total)])

/-- The same sub-batches are handed over, up to the same one. -/
theorem akin_handOver :
  Akin job (fun a b => List.Forall₂ Handover.Akin a.1 b.1)
    (handOver job total batches c₁ sent) (handOver job total batches c₂ sent)
  := by
  induction batches generalizing c₁ c₂ sent with
  | nil => exact akin_pure .nil
  | cons batch batches ih =>
      rw [handOver, handOver]
      apply akin_deliver.bind
      rintro ⟨x, c₁'⟩ ⟨y, c₂'⟩ hxy
      cases x with
      | error e₁ =>
          cases y with
          | ok v => cases hxy
          | error e₂ =>
              apply (akin_noteRefused e₁ e₂).bind
              rintro _ _ -
              exact akin_pure (.cons ⟨rfl, rfl⟩ .nil)
      | ok u =>
          cases y with
          | error e₂ => cases hxy
          | ok v =>
              have hnote : Uses [.note] (noteDelivered (sent + 1) total batch) :=
                (uses_record _).bind fun _ => uses_log _ _ _
              apply (akin_self hnote.mono).bind
              rintro _ _ -
              apply ih.bind
              rintro ⟨hs₁, c₁''⟩ ⟨hs₂, c₂''⟩ hhs
              exact akin_pure (.cons ⟨rfl, rfl⟩ hhs)

theorem akin_settle {p₁ p₂ : Progress} {h₁ h₂ : Handover}
    (hp : (report total p₁).Akin (report total p₂)) (h : h₁.Akin h₂) :
  (report total (p₁.settle h₁)).Akin (report total (p₂.settle h₂))
  := by
  obtain ⟨batch, x⟩ := h₁
  obtain ⟨_, y⟩ := h₂
  obtain ⟨rfl, hxy⟩ := h
  obtain ⟨hrest, hfailure⟩ := hp
  have hparts := hrest
  injection hparts with hdelivered hsent _ hcursor
  cases x with
  | error e₁ =>
      cases y with
      | error e₂ => exact ⟨hrest, rfl⟩
      | ok v => cases hxy
  | ok u =>
      cases y with
      | error e₂ => cases hxy
      | ok v =>
          refine ⟨?_, hfailure⟩
          dsimp only [report] at hdelivered hsent
          simp only [report, Progress.settle, Progress.advance, hdelivered, hsent]

/-- Like handovers lead to like reports. -/
theorem akin_report {p₁ p₂ : Progress} {hs₁ hs₂ : List Handover}
    (hp : (report total p₁).Akin (report total p₂)) (h : List.Forall₂ Handover.Akin hs₁ hs₂) :
  (report total (p₁.after hs₁)).Akin (report total (p₂.after hs₂))
  := by
  induction h generalizing p₁ p₂ with
  | nil => exact hp
  | cons hh hr ih => exact ih (akin_settle hp hh)

theorem akin_account :
  Akin job
    (fun a b => AkinOutcomes ShipReport.Akin a.1 b.1 ∧ List.Forall₂ Handover.Akin a.2.1 b.2.1)
    (account limits job c₁ entries) (account limits job c₂ entries)
  := by
  rw [account, account]
  apply akin_handOver.bind
  rintro ⟨hs₁, c₁'⟩ ⟨hs₂, c₂'⟩ hhs
  have hreport : ∀ total, (report total (Progress.initial.after hs₁)).Akin
      (report total (Progress.initial.after hs₂)) := fun total => akin_report ⟨rfl, rfl⟩ hhs
  dsimp only at hhs ⊢
  rw [lastRow_after_initial, lastRow_after_initial, delivered_eq_of_akin hhs]
  cases lastEntry (delivered hs₂) with
  | none => exact akin_pure ⟨.ok (hreport _), hhs⟩
  | some e =>
      apply akin_question_bind (q := .store ⟨e.row⟩) trivial
      rintro (e | u)
      · exact akin_pure ⟨.error e, hhs⟩
      · exact akin_pure ⟨.ok (hreport _), hhs⟩

end Shipping

/-! ### Cycles -/

namespace Pipeline

variable {p : Pipeline} {m₁ m₂ : Memory}

/-- A cycle is akin to itself with other names of clients remembered. -/
theorem akin_account (h : m₁.governor.Akin m₂.governor) :
  Akin p.job Account.Akin (p.account m₁) (p.account m₂)
  := by
  rw [account, account, reconcile, reconcile]
  rw [LawfulMonad.bind_assoc, LawfulMonad.bind_assoc]
  apply (Reconciliation.akin_reconcile h).bind
  rintro ⟨o, g₁⟩ ⟨_, g₂⟩ ⟨rfl, hg⟩
  cases o with
  | error e => exact akin_pure ⟨.error e, .nil, hg⟩
  | ok r =>
      cases r with
      | sourceEmpty => exact akin_pure ⟨.ok (.same _), .nil, hg⟩
      | upToDate c => exact akin_pure ⟨.ok (.same _), .nil, hg⟩
      | reset c row => exact akin_pure ⟨.ok (.same _), .nil, hg⟩
      | newEntries harvest =>
          apply Shipping.akin_account.bind
          rintro ⟨r₁, hs₁, c₁'⟩ ⟨r₂, hs₂, c₂'⟩ ⟨hr, hhs⟩
          cases hr with
          | error e => exact akin_pure ⟨.error e, hhs, hg⟩
          | ok hr => exact akin_pure ⟨.ok (.shipped harvest hr), hhs, hg⟩

/-- Two rounds are the same but for the names of clients, what is told of lookups, times, and the
wording of a refusal: the same pages are asked for, as many requests are made of the log store,
for the same entries and with the same success, the same cursors are written, the same
sub-batches are handed over, and the reports are the same. -/
structure Round.Alike (r₁ r₂ : Round p) : Prop where
  fetches : fetches r₁.transcript = fetches r₂.transcript
  pushes : List.Forall₂ (AkinPushes p.job) (pushes r₁.transcript) (pushes r₂.transcript)
  writes : writes r₁.transcript = writes r₂.transcript
  handovers : List.Forall₂ Handover.Akin r₁.account.handovers r₂.account.handovers
  outcome : AkinOutcomes CycleReport.Akin r₁.account.outcome r₂.account.outcome
  alongside : Alongside p.job r₁.transcript r₂.transcript

/-- Rounds that begin alike in the same outside world go on alike. -/
theorem Round.alike_of_answers {σ : Type} {w : Outside σ} {s : σ} {r₁ r₂ : Round p}
    (hm : r₁.memory.governor.Akin r₂.memory.governor) (hw₁ : w.Answers s r₁.transcript)
    (hw₂ : w.Answers s r₂.transcript) :
  r₁.Alike r₂ ∧ r₁.account.memory.governor.Akin r₂.account.memory.governor
  := by
  obtain ⟨ha, ht⟩ := (akin_account hm).alongside r₁.yields r₂.yields hw₁ hw₂
  exact ⟨⟨ht.fetches_eq, ht.pushes, ht.writes_eq, ha.handovers, ha.outcome, ht⟩, ha.governor⟩

theorem rounds_alike_of_akin {σ : Type} {w : Outside σ} {s : σ} {rs₁ rs₂ : List (Round p)}
    (hlength : rs₁.length = rs₂.length) (hm : m₁.governor.Akin m₂.governor)
    (hc₁ : Continues m₁ rs₁) (hc₂ : Continues m₂ rs₂)
    (hw₁ : w.Answers s (transcripts rs₁)) (hw₂ : w.Answers s (transcripts rs₂)) :
  List.Forall₂ Round.Alike rs₁ rs₂
  := by
  induction rs₁ generalizing rs₂ m₁ m₂ s with
  | nil =>
      obtain rfl := List.length_eq_zero_iff.mp hlength.symm
      exact .nil
  | cons r₁ rs₁ ih =>
      cases rs₂ with
      | nil => cases hlength
      | cons r₂ rs₂ =>
          obtain ⟨rfl, hc₁⟩ := hc₁
          obtain ⟨rfl, hc₂⟩ := hc₂
          rw [transcripts_cons, Outside.answers_append] at hw₁ hw₂
          obtain ⟨halike, hg⟩ := Round.alike_of_answers hm hw₁.1 hw₂.1
          rw [halike.alongside.after_eq] at hw₁
          exact .cons halike (ih (Nat.succ.inj hlength) hg hc₁ hc₂ hw₁.2 hw₂.2)

/-- Reverse lookups have no influence on delivery: whatever name servers answer and whatever
names are remembered at first, two runs that meet the same outside world are alike round by
round. -/
theorem rounds_alike {σ : Type} (w : Outside σ) {s : σ} {rs₁ rs₂ : List (Round p)}
    (hlength : rs₁.length = rs₂.length) (hm : m₁.governor = m₂.governor)
    (hc₁ : Continues m₁ rs₁) (hc₂ : Continues m₂ rs₂)
    (hw₁ : w.Answers s (transcripts rs₁)) (hw₂ : w.Answers s (transcripts rs₂)) :
  List.Forall₂ Round.Alike rs₁ rs₂
  := by
  refine rounds_alike_of_akin hlength ?_ hc₁ hc₂ hw₁ hw₂
  rw [hm]
  apply Governor.Akin.refl

end Pipeline

/-! ### Scripted worlds -/

open Rehearsal (World)

/-- A scripted world without its hosts, its clock and its record. -/
def Rehearsal.World.bare (w : World) : World :=
  { w with hosts := [], time := 0, record := .empty }

/-- The outside world but for name servers and clocks, as a script tells it. -/
def Outside.scripted : Outside World where
  fetch r w := ((w.fetch r).1, (w.fetch r).2.bare)
  accepts w := ((w.push ⟨[]⟩).1.isOk, (w.push ⟨[]⟩).2.bare)
  load w := (w.cursor, w)
  store c w := ((w.store c).1, (w.store c).2.bare)

namespace Outside

theorem fetch_bare (r : PageRequest) (w : World) :
  (w.bare.fetch r).1 = (w.fetch r).1 ∧ (w.bare.fetch r).2.bare = (w.fetch r).2.bare
  := by
  obtain ⟨log, source, sink, hosts, cursor, failure, time, interval, requests, cancelAt, cancelled,
    record⟩ := w
  cases source with
  | nil => exact ⟨rfl, rfl⟩
  | cons cue source => cases cue <;> exact ⟨rfl, rfl⟩

theorem store_bare (c : Cursor) (w : World) :
  (w.bare.store c).1 = (w.store c).1 ∧ (w.bare.store c).2.bare = (w.store c).2.bare
  := by
  obtain ⟨log, source, sink, hosts, cursor, failure, time, interval, requests, cancelAt, cancelled,
    record⟩ := w
  cases failure <;> exact ⟨rfl, rfl⟩

/-- What a scripted world answers is what its script tells, apart from names and times. -/
theorem scripted_answer (q : Call) (w : World) :
  scripted.Allows w.bare ⟨q, (World.answer q w).1⟩
    ∧ scripted.next w.bare ⟨q, (World.answer q w).1⟩ = (World.answer q w).2.bare
  := by
  cases q with
  | fetch r => exact ⟨(fetch_bare r w).1.symm, (fetch_bare r w).2⟩
  | store c => exact ⟨(store_bare c w).1.symm, (store_bare c w).2⟩
  | push r => exact ⟨rfl, rfl⟩
  | lookup ip => exact ⟨trivial, rfl⟩
  | load => exact ⟨rfl, rfl⟩
  | clock => exact ⟨trivial, rfl⟩
  | note n => exact ⟨trivial, rfl⟩
  | pause =>
      refine ⟨trivial, ?_⟩
      rw [World.answer]
      split <;> rfl

theorem answers_transcript {α : Type} (d : Work α) (w : World) :
  scripted.Answers w.bare (d.transcript World.answer w)
    ∧ scripted.after w.bare (d.transcript World.answer w) = (w.hold d).2.bare
  := by
  induction d generalizing w with
  | done a => exact ⟨trivial, rfl⟩
  | ask q next ih =>
      obtain ⟨hallows, hnext⟩ := scripted_answer q w
      obtain ⟨hanswers, hafter⟩ := ih (World.answer q w).1 (World.answer q w).2
      rw [transcript, Answers, after, List.foldl_cons, hnext]
      exact ⟨⟨hallows, hanswers⟩, hafter⟩
  | abort => exact ⟨trivial, rfl⟩

theorem answers_rehearse {p : Pipeline} (hp : p.limits.IsModest) (n : Nat) (m : Memory)
    (w : World) :
  scripted.Answers w.bare (Pipeline.transcripts (Pipeline.rehearse hp n m w))
  := by
  induction n generalizing m w with
  | zero => trivial
  | succ n ih =>
      obtain ⟨hanswers, hafter⟩ := answers_transcript (p.account m) w
      rw [Pipeline.rehearse, Pipeline.transcripts_cons, answers_append]
      refine ⟨hanswers, ?_⟩
      rw [Pipeline.Round.rehearse, hafter]
      apply ih

end Outside

namespace Pipeline

/-- An entry of a client with an address. -/
def clientEntry (row : UInt64) : LogEntry :=
  { sampleEntry row with clientIp := "10.0.0.1" }

/-- A world with hosts where three entries are new and the second push is refused. -/
def namedWorld (hosts : List (String × Rehearsal.HostCue)) : World :=
  { sampleWorld 0 [] with
    log := [3, 2, 1].map clientEntry
    sink := [none, some "full"]
    hosts }

/-- A client with a name and one whose lookup fails make other requests, with the same success. -/
theorem rounds_alike_of_hosts :
  let rs₁ := rehearse isModest_sample 2 (.new 3) (namedWorld [("10.0.0.1", .name "router.")])
  let rs₂ := rehearse isModest_sample 2 (.new 3) (namedWorld [("10.0.0.1", .fail .queryTimeout)])
  List.Forall₂ Round.Alike rs₁ rs₂
    ∧ (pushes (transcripts rs₁)).map (fun x => x.2.isOk) = [true, false, true]
    ∧ (pushes (transcripts rs₁)).map Prod.fst ≠ (pushes (transcripts rs₂)).map Prod.fst
  := by
  refine ⟨?_, ?_, ?_⟩
  · exact rounds_alike Outside.scripted (by simp) rfl (continues_rehearse _ _ _ _)
      (continues_rehearse _ _ _ _) (Outside.answers_rehearse _ _ _ _)
      (Outside.answers_rehearse _ _ _ (namedWorld [("10.0.0.1", .fail .queryTimeout)]))
  · decide +kernel
  · decide +kernel

end Pipeline

end LogCourier
