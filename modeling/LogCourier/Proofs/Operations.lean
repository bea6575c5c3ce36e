import LogCourier.Proofs.JobRun

/-!
# Operations

What the program does is a sequence of operations (`Operation`): a fetch under the eyes of the
governor, a question for the name of a client, and single calls that leave what is remembered as
it is. `Proceeds m ops t m'` tells that the operations `ops` take the memory from `m` to `m'`, and
leave the transcript `t`.

Every cycle, and every run of the job after its start, proceeds by operations
(`Pipeline.exists_proceeds`, `Job.exists_proceeds`). So what each operation preserves holds
between any two of them, in the middle of a cycle too.
-/

namespace LogCourier

open Dialogue Work

/-- The event tells nothing of the governor, of the names of clients, or of the persisted
cursor. -/
def MetricEvent.IsPlain : MetricEvent → Prop
  | fetchSucceeded _ | fetchFailed .. | hostnameCacheSize _ | lastRowUpdated _ => False
  | _ => True

/-- The call is an operation of its own. -/
def Call.IsPlain : Call → Prop
  | load | store _ | push _ | pause | note (.log _) => True
  | note (.metric e) => e.IsPlain
  | fetch _ | lookup _ | clock => False

/-- A step of the program. -/
inductive Operation
  /-- A fetch under the eyes of the governor. -/
  | poll (request : PageRequest) (outcome : Except Failure QueryLogPage)
  /-- The name of a client, remembered or looked up. -/
  | hostname (client name : String)
  /-- A single call. -/
  | call (x : Work.Exchange)

/-- How an operation goes: its transcript, and the memory after it. -/
inductive Goes : Memory → Operation → Transcript → Memory → Prop
  | poll {m : Memory} {r : PageRequest} {t : Transcript} {o : Except Failure QueryLogPage}
      {g : Governor} (h : (Polling.fetch m.governor r).Yields t (o, g)) :
      Goes m (.poll r o) t { m with governor := g }
  | hostname {m : Memory} {client name : String} {t : Transcript} {cache : HostnameCache}
      (h : (m.hostnames.hostname client).Yields t (name, cache)) :
      Goes m (.hostname client name) t { m with hostnames := cache }
  | call {m : Memory} {x : Work.Exchange} (h : x.1.IsPlain) : Goes m (.call x) [x] m

/-- How operations go one after the other. -/
inductive Proceeds : Memory → List Operation → Transcript → Memory → Prop
  | nil {m : Memory} : Proceeds m [] [] m
  | cons {m m' m'' : Memory} {op : Operation} {ops : List Operation} {t t' : Transcript}
      (h : Goes m op t m') (hs : Proceeds m' ops t' m'') : Proceeds m (op :: ops) (t ++ t') m''

namespace Proceeds

variable {m m' m'' : Memory} {op : Operation} {ops ops' : List Operation} {t t' : Transcript}

theorem append (h : Proceeds m ops t m') (h' : Proceeds m' ops' t' m'') :
  Proceeds m (ops ++ ops') (t ++ t') m''
  := by
  induction h with
  | nil => apply h'
  | cons hop hs ih =>
      rw [List.append_assoc]
      apply Proceeds.cons hop (ih h')

/-- Between two operations there are a memory and a place in the transcript. -/
theorem split (h : Proceeds m (ops ++ ops') t m'') :
  ∃ t₁ m' t₂, t = t₁ ++ t₂ ∧ Proceeds m ops t₁ m' ∧ Proceeds m' ops' t₂ m''
  := by
  induction ops generalizing m t with
  | nil => exact ⟨[], m, t, rfl, .nil, h⟩
  | cons op ops ih =>
      cases h with
      | cons hop hs =>
          obtain ⟨t₁, m', t₂, rfl, h₁, h₂⟩ := ih hs
          exact ⟨_, m', t₂, (List.append_assoc _ _ _).symm, .cons hop h₁, h₂⟩

theorem single (h : Goes m op t m') :
  Proceeds m [op] t m'
  := by
  rw [← List.append_nil t]
  apply Proceeds.cons h .nil

/-- Single calls leave the memory as it is. -/
theorem of_plain (h : ∀ x ∈ t, x.1.IsPlain) :
  Proceeds m (t.map .call) t m
  := by
  induction t with
  | nil => apply Proceeds.nil
  | cons x t ih =>
      obtain ⟨hx, ht⟩ := List.forall_mem_cons.mp h
      apply Proceeds.cons (.call hx) (ih ht)

/-- What every operation preserves holds after operations. -/
theorem preserves {I : Memory → Prop}
    (hI : ∀ {m op t m'}, Goes m op t m' → I m → I m') (h : Proceeds m ops t m') (hm : I m) :
  I m'
  := by
  induction h with
  | nil => apply hm
  | cons hop hs ih => apply ih (hI hop hm)

end Proceeds

namespace Work

/-- The work makes single calls only. -/
abbrev Plain {α : Type} (w : Work α) : Prop :=
  w.Confined Call.IsPlain

theorem plain_log (level : LogLevel) (message : String) (fields : List (String × FieldValue)) :
  Plain (log level message fields)
  := confined_question.mpr trivial

theorem plain_record (e : MetricEvent) (h : e.IsPlain := by trivial) :
  Plain (record e)
  := confined_question.mpr h

/-- The memory is taken from `m` to `m'` along the transcript. -/
def Leads (m : Memory) (t : Transcript) (m' : Memory) : Prop :=
  ∃ ops, Proceeds m ops t m'

namespace Leads

variable {α : Type} {m m' m'' : Memory} {t t' : Transcript}

theorem append (h : Leads m t m') (h' : Leads m' t' m'') :
  Leads m (t ++ t') m''
  := by
  obtain ⟨ops, h⟩ := h
  obtain ⟨ops', h'⟩ := h'
  exact ⟨_, h.append h'⟩

theorem of_plain {w : Work α} {a : α} (hw : Plain w) (h : w.Yields t a) :
  Leads m t m
  := ⟨_, Proceeds.of_plain (h.of_confined hw)⟩

theorem call (x : Work.Exchange) (h : x.1.IsPlain := by trivial) :
  Leads m [x] m
  := ⟨_, Proceeds.single (.call h)⟩

theorem poll {r : PageRequest} {o : Except Failure QueryLogPage} {g g' : Governor}
    {cache : HostnameCache} (h : (Polling.fetch g r).Yields t (o, g')) :
  Leads ⟨g, cache⟩ t ⟨g', cache⟩
  := ⟨_, Proceeds.single (.poll h)⟩

theorem hostname {client name : String} {g : Governor} {cache cache' : HostnameCache}
    (h : (cache.hostname client).Yields t (name, cache')) :
  Leads ⟨g, cache⟩ t ⟨g, cache'⟩
  := ⟨_, Proceeds.single (.hostname h)⟩

end Leads

end Work

/-! ### Reconciling by operations -/

namespace Reconciliation

variable {limits : Limits} {cursor : Cursor} {row : UInt64} {g g' : Governor}
  {cache : HostnameCache} {t : Transcript}

theorem Scanned.leads {pending : UInt64} {left page : Nat} {collected : List LogEntry}
    {o : Except Failure (List LogEntry) × Governor}
    (h : Scanned limits cursor pending left page g collected t o) :
  Leads ⟨g, cache⟩ t ⟨o.2, cache⟩
  := by
  induction h with
  | spent => exact ⟨[], .nil⟩
  | failed hf => apply Leads.poll hf
  | blank hf hp => apply Leads.poll hf
  | enough hf hp henough => apply Leads.poll hf
  | further hf hp hs ih => apply (Leads.poll hf).append ih

theorem plain_resetCursor :
  Plain (resetCursor cursor row)
  := by
  rw [resetCursor]
  apply Confined.bind (plain_log _ _ _)
  intro _
  apply Confined.bind (confined_question.mpr trivial)
  rintro (e | u)
  · apply confined_pure
  · apply Confined.bind (plain_record _)
    intro _
    apply confined_pure

theorem plain_noteBacklog {pending unharvested : UInt64} :
  Plain (noteBacklog limits cursor row pending unharvested)
  := by
  have hlast : Plain (Work.record (.backlogObserved pending unharvested)) := plain_record _
  rw [noteBacklog]
  split <;> split
  · exact (plain_log _ _ _).bind fun _ => (plain_log _ _ _).bind fun _ => hlast
  · exact (plain_log _ _ _).bind fun _ => hlast
  · exact (plain_log _ _ _).bind fun _ => hlast
  · exact hlast

theorem leads_harvest {o : Except Failure Reconciliation}
    (h : (harvest limits g cursor row).Yields t (o, g')) :
  Leads ⟨g, cache⟩ t ⟨g', cache⟩
  := by
  obtain ⟨n, t', s, rfl, hn, -, hs, -⟩ := parts_of_yields_harvest h
  apply (Leads.of_plain plain_noteBacklog hn).append hs.leads

theorem Reconciled.leads {o : Except Failure Reconciliation} (h : Reconciled limits g t (o, g')) :
  Leads ⟨g, cache⟩ t ⟨g', cache⟩
  := by
  have hload : ∀ c, Leads ⟨g, cache⟩ [⟨.load, c⟩] ⟨g, cache⟩ := fun c => Leads.call _
  cases h with
  | headFailed hf => apply (hload _).append (Leads.poll hf)
  | sourceEmpty hf hrow hn =>
      apply (hload _).append ((Leads.poll hf).append (Leads.of_plain (plain_log _ _ _) hn))
  | reset hf hrow hlt hr =>
      apply (hload _).append ((Leads.poll hf).append (Leads.of_plain plain_resetCursor hr))
  | upToDate hf hrow hn =>
      apply (hload _).append ((Leads.poll hf).append (Leads.of_plain (plain_log _ _ _) hn))
  | harvest hf hrow hlt hh =>
      apply (hload _).append ((Leads.poll hf).append (leads_harvest hh))

end Reconciliation

/-! ### Shipping by operations -/

namespace Formatting

variable {job : String} {g : Governor} {cache cache' : HostnameCache} {entries : List LogEntry}
  {t : Transcript}

theorem leads_group {streams streams' : List LogStream}
    (h : (group job entries cache streams).Yields t (streams', cache')) :
  Leads ⟨g, cache⟩ t ⟨g, cache'⟩
  := by
  induction entries generalizing cache streams t with
  | nil =>
      obtain ⟨rfl, ho⟩ := yields_pure.mp h
      obtain ⟨-, rfl⟩ := Prod.mk.inj ho
      exact ⟨[], .nil⟩
  | cons e entries ih =>
      rw [group] at h
      split at h
      · next malformed _ =>
        obtain ⟨n, u, t', rfl, hn, hr⟩ := yields_bind.mp h
        have hplain : Plain (noteMalformed e malformed) :=
          (plain_log _ _ _).bind fun _ => plain_record _
        apply (Leads.of_plain hplain hn).append (ih hr)
      · obtain ⟨n, x, t', rfl, hn, hr⟩ := yields_bind.mp h
        obtain ⟨n', u, t'', rfl, hn', hr⟩ := yields_bind.mp hr
        have hplain : Plain (noteProcessed e x.1 (labels job e x.1)) := plain_record _
        apply (Leads.hostname hn).append
        apply (Leads.of_plain hplain hn').append (ih hr)

theorem leads_format {request : PushRequest}
    (h : (format job cache entries).Yields t (request, cache')) :
  Leads ⟨g, cache⟩ t ⟨g, cache'⟩
  := by
  obtain ⟨t₁, x, t₂, rfl, hg, hr⟩ := yields_bind.mp h
  obtain ⟨rfl, ho⟩ := yields_pure.mp hr
  obtain ⟨-, rfl⟩ := Prod.mk.inj ho
  rw [List.append_nil]
  apply leads_group hg

end Formatting

namespace Shipping

variable {job : String} {total sent : Nat} {g : Governor} {cache cache' : HostnameCache}
  {batch : List LogEntry} {t : Transcript}

theorem leads_deliver {o : Except Failure Unit}
    (h : (deliver job cache batch).Yields t (o, cache')) :
  Leads ⟨g, cache⟩ t ⟨g, cache'⟩
  := by
  cases sent_of_yields h with
  | nothing hn he => apply Formatting.leads_format hn
  | pushed hn he => apply (Formatting.leads_format hn).append (Leads.call _)

theorem HandedOver.leads {batches : List (List LogEntry)} {o : List Handover × HostnameCache}
    (h : HandedOver job total batches cache sent t o) :
  Leads ⟨g, cache⟩ t ⟨g, o.2⟩
  := by
  induction h with
  | nil => exact ⟨[], .nil⟩
  | @accepted batch _ _ _ _ sent _ _ _ _ hd hn hr ih =>
      have hplain : Plain (noteDelivered (sent + 1) total batch) :=
        (plain_record _).bind fun _ => plain_log _ _ _
      apply ((leads_deliver hd).append (Leads.of_plain hplain hn)).append ih
  | @refused _ _ _ _ sent _ _ e hd hn =>
      have hplain : Plain (noteRefused (sent + 1) total e) :=
        (plain_record _).bind fun _ => plain_log _ _ _
      apply (leads_deliver hd).append (Leads.of_plain hplain hn)

theorem leads_account {limits : Limits} {entries : List LogEntry} {hs : List Handover}
    {r : Except Failure ShipReport}
    (h : (account limits job cache entries).Yields t (r, hs, cache')) :
  Leads ⟨g, cache⟩ t ⟨g, cache'⟩
  := by
  obtain ⟨t₁, t₂, rfl, -, hover, hrec⟩ := recorded_of_yields_account h
  apply hover.leads.append
  cases hrec with
  | nothing hnone => exact ⟨[], .nil⟩
  | written hsome => apply Leads.call _

end Shipping

/-! ### Cycles and runs of the job by operations -/

namespace Pipeline

variable {p : Pipeline} {m m' : Memory} {t : Transcript} {a : Account}

/-- Every cycle proceeds by operations. -/
theorem exists_proceeds (h : (p.account m).Yields t a) :
  ∃ ops, Proceeds m ops t a.memory
  := by
  change Leads m t a.memory
  cases accounted_of_yields h with
  | settled hr ho => apply (Reconciliation.reconciled_of_yields hr).leads
  | shipped hr hship =>
      apply (Reconciliation.reconciled_of_yields hr).leads.append (Shipping.leads_account hship)

theorem leads_cycle {o : Except Failure CycleReport} (h : (p.cycle m).Yields t (o, m')) :
  Leads m t m'
  := by
  obtain ⟨r, rfl, rfl, -, rfl⟩ := exists_round h
  apply exists_proceeds r.yields

end Pipeline

namespace Job

variable {j : Job} {m m' : Memory} {t : Transcript} {rounds : Nat}

theorem leads_onlyLines (h : OnlyLines t) :
  Leads m t m
  := by
  use t.map .call
  apply Proceeds.of_plain
  intro x hx
  obtain ⟨l, hl⟩ := h x hx
  rw [hl]
  trivial

/-- Every run of the job after its start proceeds by operations. -/
theorem exists_proceeds {o : End} (h : (j.cycles rounds m).Yields t (o, m')) :
  ∃ ops, Proceeds m ops t m'
  := by
  change Leads m t m'
  have hpause : ∀ m b, Leads m [⟨.pause, b⟩] m := fun m b => Leads.call _
  generalize hx : (o, m') = x at h
  have hran := ran_of_yields h
  clear h
  induction hran with
  | spent =>
      cases hx
      exact ⟨[], .nil⟩
  | failed hc hn =>
      cases hx
      apply (Pipeline.leads_cycle hc).append (leads_onlyLines hn)
  | cancelled hc ho hn hn' =>
      cases hx
      apply Leads.append _ (leads_onlyLines hn')
      apply Leads.append _ (hpause _ _)
      apply (Pipeline.leads_cycle hc).append (leads_onlyLines hn)
  | further hc ho hn hr ih =>
      apply Leads.append _ (ih hx)
      apply Leads.append _ (hpause _ _)
      apply (Pipeline.leads_cycle hc).append (leads_onlyLines hn)

end Job

end LogCourier
