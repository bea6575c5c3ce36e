import LogCourier.Proofs.Room

/-!
# Rehearsals

The rounds of a pipeline in a scripted world (`Pipeline.rehearse`), for modest limits: then no
cycle aborts. The cursor of such a world reads back (`readsBack_transcript`), and if its source
answers from the log alone, then its pages are those of a log that grows as the script tells
(`pages_transcript`). Without cues nothing fails, and the log stays as it is (`isCalm_hold`).
-/

namespace LogCourier

open Dialogue Work
open Rehearsal (World SourceCue)

variable {α : Type}

/-! ### The cursor of a scripted world -/

/-- In a scripted world only an attempt to write the cursor that succeeds changes it. -/
theorem cursor_answer (q : Call) (w : World) :
  (World.answer q w).2.cursor = persisted w.cursor [⟨q, (World.answer q w).1⟩]
  := by
  cases q with
  | fetch r =>
      change (w.fetch r).2.cursor = w.cursor
      rw [World.fetch]
      split
      · rfl
      · split <;> rfl
  | store c =>
      change (w.store c).2.cursor = settle w.cursor (c, (w.store c).1)
      rw [World.store]
      split <;> rfl
  | pause =>
      change (if w.cancelled then w else { w with time := w.time + w.interval }).cursor = w.cursor
      split <;> rfl
  | push r => rfl
  | lookup ip => rfl
  | load => rfl
  | clock => rfl
  | note n => rfl

/-- The cursor of a scripted world is what is persisted. -/
theorem persisted_transcript (d : Work α) (w : World) :
  persisted w.cursor (d.transcript World.answer w) = (w.hold d).2.cursor
  := by
  induction d generalizing w with
  | done a => rfl
  | ask q next ih =>
      rw [transcript, ← List.singleton_append, persisted_append, ← cursor_answer, ih]
      rfl
  | abort => rfl

/-- A scripted world reads back its cursor. -/
theorem readsBack_transcript (d : Work α) (w : World) :
  ReadsBack w.cursor (d.transcript World.answer w)
  := by
  induction d generalizing w with
  | done a => trivial
  | ask q next ih =>
      rw [transcript, ReadsBack, ← cursor_answer]
      constructor
      · intro d hd
        cases hd
        rfl
      · apply ih
  | abort => trivial

/-! ### The log of a scripted world -/

namespace Rehearsal

/-- The log after a cue of the source. -/
def SourceCue.grown : SourceCue → List LogEntry → List LogEntry
  | .grow entries, log => entries ++ log
  | _, log => log

/-- The log when the source answers the request number `i`, counted from 0. -/
def World.logAt (w : World) (i : Nat) : List LogEntry :=
  (w.source.take (i + 1)).foldl (fun log cue => cue.grown log) w.log

/-- The source answers from the log or with errors, but never with other pages. -/
def World.IsFaithful (w : World) : Prop :=
  ∀ entries, .page entries ∉ w.source

end Rehearsal

/-- A cue puts entries in front of the log. -/
theorem suffix_grown (cue : SourceCue) (log : List LogEntry) :
  log <:+ cue.grown log
  := by
  cases cue with
  | grow entries => apply List.suffix_append
  | fail e => apply List.suffix_rfl
  | page entries => apply List.suffix_rfl
  | plain => apply List.suffix_rfl

theorem suffix_foldl_grown (cues : List SourceCue) (log : List LogEntry) :
  log <:+ cues.foldl (fun log cue => cue.grown log) log
  := by
  induction cues generalizing log with
  | nil => apply List.suffix_rfl
  | cons cue cues ih => apply (suffix_grown cue log).trans (ih _)

/-- The log of a scripted world is a growing log if it descends when the script is through. -/
theorem growingLog_logAt {w : World}
    (h : Descending (w.source.foldl (fun log cue => cue.grown log) w.log)) :
  GrowingLog w.logAt
  := by
  constructor
  · intro i
    apply h.sublist
    rw [← List.take_append_drop (i + 1) w.source, List.foldl_append]
    apply (suffix_foldl_grown _ _).sublist
  · intro i
    rw [World.logAt, World.logAt, List.take_add_one (i := i + 1), List.foldl_append]
    apply suffix_foldl_grown

/-- A request to a faithful source gets a page of the log, or an error. -/
theorem fetch_faithful {w : World} (h : w.IsFaithful) (r : PageRequest) :
  (∀ page, (w.fetch r).1 = .ok page → page.entries = (World.page (w.logAt 0) r).entries)
    ∧ (w.fetch r).2.IsFaithful ∧ ∀ i, (w.fetch r).2.logAt i = w.logAt (i + 1)
  := by
  obtain ⟨log, source, sink, hosts, cursor, failure, time, interval, requests, cancelAt, cancelled,
    record⟩ := w
  cases source with
  | nil =>
      refine ⟨?_, h, fun i => rfl⟩
      intro page hpage
      cases hpage
      rfl
  | cons cue source =>
      have hrest : ∀ entries, .page entries ∉ source :=
        fun entries hmem => h entries (List.mem_cons_of_mem cue hmem)
      cases cue with
      | page entries => exact absurd List.mem_cons_self (h entries)
      | fail e => exact ⟨nofun, hrest, fun i => rfl⟩
      | grow entries =>
          refine ⟨?_, hrest, fun i => rfl⟩
          intro page hpage
          cases hpage
          rfl
      | plain =>
          refine ⟨?_, hrest, fun i => rfl⟩
          intro page hpage
          cases hpage
          rfl

/-- Only requests to the source go on with the script of the source. -/
theorem source_answer {q : Call} (h : q.kind ≠ .fetch) (w : World) :
  (World.answer q w).2.source = w.source ∧ (World.answer q w).2.log = w.log
  := by
  cases q with
  | fetch r => exact absurd rfl h
  | store c =>
      change (w.store c).2.source = w.source ∧ (w.store c).2.log = w.log
      rw [World.store]
      split <;> exact ⟨rfl, rfl⟩
  | pause =>
      rw [World.answer]
      split <;> exact ⟨rfl, rfl⟩
  | push r => exact ⟨rfl, rfl⟩
  | lookup ip => exact ⟨rfl, rfl⟩
  | load => exact ⟨rfl, rfl⟩
  | clock => exact ⟨rfl, rfl⟩
  | note n => exact ⟨rfl, rfl⟩

/-- The pages of a faithful source are those of its log. -/
theorem pages_transcript (d : Work α) {w : World} (h : w.IsFaithful) :
  Pages w.logAt (d.transcript World.answer w)
  := by
  induction d generalizing w with
  | done a => nofun
  | ask q next ih =>
      rw [transcript]
      intro i s page hi
      by_cases hq : q.kind = .fetch
      · cases q <;> try contradiction
        next r =>
        obtain ⟨hpage, hfaithful, hlog⟩ := fetch_faithful h r
        cases i with
        | zero =>
            obtain ⟨rfl, hx⟩ := Prod.mk.inj (Option.some.inj hi)
            apply hpage page hx
        | succ i =>
            rw [← hlog]
            apply ih _ hfaithful i s page hi
      · obtain ⟨hsource, hlog⟩ := source_answer hq w
        have hfaithful : (World.answer q w).2.IsFaithful := by
          rw [World.IsFaithful, hsource]
          apply h
        rw [fetches_cons_of_ne hq] at hi
        have hpage := ih _ hfaithful i s page hi
        rw [World.logAt, hsource, hlog] at hpage
        apply hpage
  | abort => nofun

/-! ### Worlds without cues -/

namespace Rehearsal

/-- Nothing is scripted: the source answers from the log, and nothing fails. -/
structure World.IsCalm (w : World) : Prop where
  source : w.source = []
  sink : w.sink = []
  storeFailure : w.storeFailure = none

end Rehearsal

/-- A world without cues stays without cues, and keeps its log. -/
theorem isCalm_answer {w : World} (h : w.IsCalm) (q : Call) :
  (World.answer q w).2.IsCalm ∧ (World.answer q w).2.log = w.log
  := by
  obtain ⟨log, source, sink, hosts, cursor, failure, time, interval, requests, cancelAt, cancelled,
    record⟩ := w
  obtain ⟨rfl, rfl, rfl⟩ := h
  cases q with
  | pause =>
      rw [World.answer]
      split <;> exact ⟨⟨rfl, rfl, rfl⟩, rfl⟩
  | fetch r => exact ⟨⟨rfl, rfl, rfl⟩, rfl⟩
  | push r => exact ⟨⟨rfl, rfl, rfl⟩, rfl⟩
  | store c => exact ⟨⟨rfl, rfl, rfl⟩, rfl⟩
  | lookup ip => exact ⟨⟨rfl, rfl, rfl⟩, rfl⟩
  | load => exact ⟨⟨rfl, rfl, rfl⟩, rfl⟩
  | clock => exact ⟨⟨rfl, rfl, rfl⟩, rfl⟩
  | note n => exact ⟨⟨rfl, rfl, rfl⟩, rfl⟩

/-- A world without cues answers without failure. -/
theorem smooth_answer {w : World} (h : w.IsCalm) (q : Call) :
  Smooth [⟨q, (World.answer q w).1⟩]
  := by
  by_cases hq : q.kind ∈ [.lookup, .load, .clock, .note, .pause]
  · apply smooth_of_within
    exact within_cons.mpr ⟨hq, List.forall_mem_nil _⟩
  · obtain ⟨log, source, sink, hosts, cursor, failure, time, interval, requests, cancelAt,
      cancelled, record⟩ := w
    obtain ⟨rfl, rfl, rfl⟩ := h
    cases q with
    | fetch r =>
        exact ⟨List.forall_mem_singleton.mpr ⟨_, rfl⟩, List.forall_mem_nil _, List.forall_mem_nil _⟩
    | push r =>
        exact ⟨List.forall_mem_nil _, List.forall_mem_singleton.mpr rfl, List.forall_mem_nil _⟩
    | store c =>
        exact ⟨List.forall_mem_nil _, List.forall_mem_nil _, List.forall_mem_singleton.mpr rfl⟩
    | lookup ip => exact absurd (by simp [Call.kind]) hq
    | load => exact absurd (by simp [Call.kind]) hq
    | clock => exact absurd (by simp [Call.kind]) hq
    | note n => exact absurd (by simp [Call.kind]) hq
    | pause => exact absurd (by simp [Call.kind]) hq

/-- Work in a world without cues goes without failure, and the log is kept. -/
theorem isCalm_hold {w : World} (h : w.IsCalm) (d : Work α) :
  (w.hold d).2.IsCalm ∧ (w.hold d).2.log = w.log ∧ Smooth (d.transcript World.answer w)
  := by
  induction d generalizing w with
  | done a => exact ⟨h, rfl, smooth_nil⟩
  | ask q next ih =>
      obtain ⟨hcalm, hlog⟩ := isCalm_answer h q
      obtain ⟨hcalm', hlog', hsmooth'⟩ := ih (World.answer q w).1 hcalm
      rw [transcript, ← List.singleton_append]
      exact ⟨hcalm', hlog'.trans hlog, smooth_append.mpr ⟨smooth_answer h q, hsmooth'⟩⟩
  | abort => exact ⟨h, rfl, smooth_nil⟩

/-- The pages of a world without cues are those of its log, which stays as it is. -/
theorem pages_of_isCalm {w : World} (h : w.IsCalm) (d : Work α) :
  Pages (fun _ => w.log) (d.transcript World.answer w)
  := by
  have hlog : w.logAt = fun _ => w.log := by
    funext i
    rw [World.logAt, h.source, List.take_nil, List.foldl_nil]
  rw [← hlog]
  apply pages_transcript
  rw [World.IsFaithful, h.source]
  nofun

/-- Work in a world without cues comes to its end over a log that stays as it is, and nothing
fails. -/
theorem exists_ends_of_isCalm {w : World} (h : w.IsCalm) (d : Work α) :
  ∃ t o, d.Ends t o ∧ ReadsBack w.cursor t ∧ Pages (fun _ => w.log) t ∧ Smooth t
  := ⟨_, _, ends_transcript _ d w, readsBack_transcript d w, pages_of_isCalm h d,
    (isCalm_hold h d).2.2⟩

/-! ### Rounds in a scripted world -/

namespace Pipeline

variable {p : Pipeline} (hp : p.limits.IsModest)

/-- The round of a pipeline in a scripted world. -/
def Round.rehearse (m : Memory) (w : World) : Round p where
  memory := m
  transcript := (p.account m).transcript World.answer w
  account := (total_account hp).result World.answer w
  yields := (total_account hp).yields_result World.answer w

/-- Rounds of a pipeline in a scripted world, one after the other. -/
def rehearse : Nat → Memory → World → List (Round p)
  | 0, _, _ => []
  | n + 1, m, w =>
    let r := Round.rehearse hp m w
    r :: rehearse n r.account.memory (w.hold (p.account m)).2

@[simp]
theorem length_rehearse (n : Nat) (m : Memory) (w : World) :
  (rehearse hp n m w).length = n
  := by
  induction n generalizing m w with
  | zero => rfl
  | succ n ih => rw [rehearse, List.length_cons, ih]

/-- Rounds in a scripted world read back its cursor. -/
theorem readsBack_rehearse (n : Nat) (m : Memory) (w : World) :
  ReadsBack w.cursor (transcripts (rehearse hp n m w))
  := by
  induction n generalizing m w with
  | zero => trivial
  | succ n ih =>
      rw [rehearse, transcripts_cons, readsBack_append]
      constructor
      · apply readsBack_transcript
      · rw [Round.rehearse, persisted_transcript]
        apply ih

/-- Rounds in a scripted world are those of one program. -/
theorem continues_rehearse (n : Nat) (m : Memory) (w : World) :
  Continues m (rehearse hp n m w)
  := by
  induction n generalizing m w with
  | zero => trivial
  | succ n ih => exact ⟨rfl, ih _ _⟩

/-- Rounds in a world without cues go without failure over a log that stays as it is. -/
theorem rehearse_of_isCalm (n : Nat) (m : Memory) {w : World} (h : w.IsCalm) :
  (∀ r ∈ rehearse hp n m w, Pages (fun _ => w.log) r.transcript)
    ∧ Smooth (transcripts (rehearse hp n m w))
  := by
  induction n generalizing m w with
  | zero => exact ⟨List.forall_mem_nil _, smooth_nil⟩
  | succ n ih =>
      obtain ⟨hcalm, hlog, hsmooth⟩ := isCalm_hold h (p.account m)
      obtain ⟨hpages, hrest⟩ := ih (Round.rehearse hp m w).account.memory hcalm
      rw [hlog] at hpages
      rw [rehearse, transcripts_cons]
      refine ⟨List.forall_mem_cons.mpr ⟨?_, hpages⟩, smooth_append.mpr ⟨hsmooth, hrest⟩⟩
      apply pages_of_isCalm h

/-! ### Samples -/

/-- A pipeline with pages of 3 entries and sub-batches of 2. -/
def sample : Pipeline :=
  ⟨.new 3 10 2, "dns"⟩

theorem isModest_sample :
  sample.limits.IsModest
  := by decide

/-- An entry with a row and a readable time. -/
def sampleEntry (row : UInt64) : LogEntry where
  row := row
  timestamp := "2024-01-01T00:00:00Z"
  clientIp := ""
  protocol := ""
  responseType := ""
  rcode := ""
  qname := ""
  qtype := ""
  qclass := ""
  answer := none

/-- A world with a cursor, and a log with the given rows. -/
def sampleWorld (cursor : UInt64) (rows : List UInt64) : World :=
  { World.new ⟨cursor⟩ with log := rows.map sampleEntry }

end Pipeline

end LogCourier
