import LogCourier.Pipeline.Call
import LogCourier.Proofs.Transcript

/-!
# Traffic with the outside world

What a transcript of the pipeline's work shows of the outside world: the pages that were
asked for (`fetches`; `asked` and `received` are its two sides), the requests handed to the log
store (`pushes`), and the attempts to write the cursor (`writes`), each with its outcome.

A write that succeeds replaces the persisted cursor and a write that fails keeps it; so
`persisted c t` is the cursor persisted after `t` if it was `c` before. `ReadsBack c t`
says of the store of the cursor that it hands out what is persisted.

Work that makes calls of some kinds only (`Work.Uses`) leaves no other traces.
-/

namespace LogCourier

/-- The kinds of calls; to abort counts as one of them. -/
inductive Call.Kind
  | abort
  | fetch
  | push
  | lookup
  | load
  | store
  | clock
  | note
  | pause
  deriving DecidableEq

/-- The kind of a call. -/
def Call.kind : Call → Call.Kind
  | fetch _ => .fetch
  | push _ => .push
  | lookup _ => .lookup
  | load => .load
  | store _ => .store
  | clock => .clock
  | note _ => .note
  | pause => .pause

namespace Work

open Dialogue

/-- A call with its answer. -/
abbrev Exchange := Dialogue.Exchange Call.Answer

/-- The calls of a part of the work, in order, with their answers. -/
abbrev Transcript := Dialogue.Transcript Call.Answer

variable {α β : Type} {ks : List Call.Kind} {t t₁ t₂ : Transcript} {c : Cursor}

/-! ### Kinds of calls -/

/-- The work makes calls of the given kinds only. -/
abbrev Uses (ks : List Call.Kind) (w : Work α) : Prop :=
  w.Confined (fun call => call.kind ∈ ks) (.abort ∈ ks)

/-- A transcript has calls of the given kinds only. -/
def Within (ks : List Call.Kind) (t : Transcript) : Prop :=
  ∀ x ∈ t, x.1.kind ∈ ks

theorem Uses.mono {ks' : List Call.Kind} {w : Work α} (h : Uses ks w)
    (hks : ks ⊆ ks' := by decide) :
  Uses ks' w
  := Confined.mono h (fun _ hq => hks hq) (fun ha => hks ha)

/-- Work that does not abort among what it does never aborts. -/
theorem Uses.total {w : Work α} (h : Uses ks w) (hks : Call.Kind.abort ∉ ks := by decide) :
  w.Total
  := Confined.total (Confined.mono h (fun _ hq => hq) hks)

theorem Uses.within {w : Work α} {a : α} (hw : Uses ks w) (h : w.Yields t a) :
  Within ks t
  := h.of_confined hw

theorem Within.mono {ks' : List Call.Kind} (h : Within ks t)
    (hks : ks ⊆ ks' := by decide) :
  Within ks' t
  := fun x hx => hks (h x hx)

theorem within_cons {x : Exchange} :
  Within ks (x :: t) ↔ x.1.kind ∈ ks ∧ Within ks t
  := List.forall_mem_cons

theorem within_append :
  Within ks (t₁ ++ t₂) ↔ Within ks t₁ ∧ Within ks t₂
  := List.forall_mem_append

/-- No call is to abort. -/
theorem Within.of_abort (h : Within (.abort :: ks) t) :
  Within ks t
  := by
  intro x hx
  rcases List.mem_cons.mp (h x hx) with hkind | hkind
  · obtain ⟨q, a⟩ := x
    cases q <;> cases hkind
  · apply hkind

theorem uses_log (level : LogLevel) (message : String) (fields : List (String × FieldValue)) :
  Uses [.note] (log level message fields)
  := confined_question.mpr (List.mem_singleton.mpr rfl)

theorem uses_record (e : MetricEvent) :
  Uses [.note] (record e)
  := confined_question.mpr (List.mem_singleton.mpr rfl)

/-- A view of the calls of one kind shows nothing of a transcript with other kinds only. -/
theorem filterMap_of_within {view : Exchange → Option β} {k : Call.Kind}
    (hview : ∀ x, x.1.kind ≠ k → view x = none) (ht : Within ks t) (hk : k ∉ ks) :
  t.filterMap view = []
  := by
  apply List.filterMap_eq_nil_iff.mpr
  intro x hx
  apply hview
  intro hkind
  apply hk
  rw [← hkind]
  apply ht x hx

/-! ### Fetches, pushes and writes -/

/-- The fetch in an exchange, if it is one. -/
def fetch? : Exchange → Option (PageRequest × Except SourceError QueryLogPage)
  | ⟨.fetch r, outcome⟩ => some (r, outcome)
  | _ => none

/-- The pages that were asked for, with what came of it. -/
def fetches (t : Transcript) : List (PageRequest × Except SourceError QueryLogPage) :=
  t.filterMap fetch?

/-- The pages that were asked for. -/
def asked (t : Transcript) : List PageRequest :=
  (fetches t).map Prod.fst

/-- The pages that were got. -/
def received (t : Transcript) : List QueryLogPage :=
  (fetches t).filterMap fun x => x.2.toOption

/-- The push in an exchange, if it is one. -/
def push? : Exchange → Option (PushRequest × Except Failure Unit)
  | ⟨.push r, outcome⟩ => some (r, outcome)
  | _ => none

/-- The requests to the log store, with what came of them. -/
def pushes (t : Transcript) : List (PushRequest × Except Failure Unit) :=
  t.filterMap push?

/-- The attempt to write the cursor in an exchange, if it is one. -/
def write? : Exchange → Option (Cursor × Except Failure Unit)
  | ⟨.store c, outcome⟩ => some (c, outcome)
  | _ => none

/-- The attempts to write the cursor, with what came of them. -/
def writes (t : Transcript) : List (Cursor × Except Failure Unit) :=
  t.filterMap write?

theorem fetches_cons (x : Exchange) :
  fetches (x :: t) = (fetch? x).toList ++ fetches t
  := by
  cases h : fetch? x with
  | none => exact List.filterMap_cons_none h
  | some y => exact List.filterMap_cons_some h

theorem fetches_cons_of_ne {x : Exchange} (h : x.1.kind ≠ .fetch) :
  fetches (x :: t) = fetches t
  := by
  apply List.filterMap_cons_none
  obtain ⟨q, y⟩ := x
  cases q <;> first | rfl | exact absurd rfl h

@[simp]
theorem fetches_append :
  fetches (t₁ ++ t₂) = fetches t₁ ++ fetches t₂
  := List.filterMap_append

theorem asked_append :
  asked (t₁ ++ t₂) = asked t₁ ++ asked t₂
  := by
  rw [asked, fetches_append, List.map_append]
  rfl

theorem received_append :
  received (t₁ ++ t₂) = received t₁ ++ received t₂
  := by
  rw [received, fetches_append, List.filterMap_append]
  rfl

theorem pushes_cons (x : Exchange) :
  pushes (x :: t) = (push? x).toList ++ pushes t
  := by
  cases h : push? x with
  | none => exact List.filterMap_cons_none h
  | some y => exact List.filterMap_cons_some h

@[simp]
theorem pushes_append :
  pushes (t₁ ++ t₂) = pushes t₁ ++ pushes t₂
  := List.filterMap_append

theorem writes_cons (x : Exchange) :
  writes (x :: t) = (write? x).toList ++ writes t
  := by
  cases h : write? x with
  | none => exact List.filterMap_cons_none h
  | some y => exact List.filterMap_cons_some h

@[simp]
theorem writes_append :
  writes (t₁ ++ t₂) = writes t₁ ++ writes t₂
  := List.filterMap_append

theorem fetches_of_within (ht : Within ks t) (hk : Call.Kind.fetch ∉ ks := by decide) :
  fetches t = []
  := by
  apply filterMap_of_within _ ht hk
  rintro ⟨q, x⟩ hq
  cases q <;> first | rfl | exact absurd rfl hq

theorem asked_of_within (ht : Within ks t) (hk : Call.Kind.fetch ∉ ks := by decide) :
  asked t = []
  := by
  rw [asked, fetches_of_within ht hk]
  rfl

theorem pushes_of_within (ht : Within ks t) (hk : Call.Kind.push ∉ ks := by decide) :
  pushes t = []
  := by
  apply filterMap_of_within _ ht hk
  rintro ⟨q, x⟩ hq
  cases q <;> first | rfl | exact absurd rfl hq

theorem writes_of_within (ht : Within ks t) (hk : Call.Kind.store ∉ ks := by decide) :
  writes t = []
  := by
  apply filterMap_of_within _ ht hk
  rintro ⟨q, x⟩ hq
  cases q <;> first | rfl | exact absurd rfl hq

/-! ### Transcripts without failures -/

/-- Every fetch gets a page. -/
def Answered (t : Transcript) : Prop :=
  ∀ x ∈ fetches t, ∃ page, x.2 = .ok page

/-- Nothing fails: every fetch gets a page, every push is accepted, and every attempt to write
the cursor succeeds. -/
structure Smooth (t : Transcript) : Prop where
  answered : Answered t
  accepted : ∀ x ∈ pushes t, x.2 = .ok ()
  written : ∀ x ∈ writes t, x.2 = .ok ()

theorem answered_append :
  Answered (t₁ ++ t₂) ↔ Answered t₁ ∧ Answered t₂
  := by
  rw [Answered, fetches_append]
  apply List.forall_mem_append

/-- If every fetch gets a page, then as many pages are got as are asked for. -/
theorem length_received (h : Answered t) :
  (received t).length = (asked t).length
  := by
  rw [received, asked, List.length_map]
  unfold Answered at h
  generalize fetches t = l at h
  induction l with
  | nil => rfl
  | cons x l ih =>
      obtain ⟨⟨page, hpage⟩, h⟩ := List.forall_mem_cons.mp h
      rw [List.filterMap_cons_some (by rw [hpage]; rfl), List.length_cons, ih h]
      rfl

theorem answered_cons_of_ne {x : Exchange} (h : x.1.kind ≠ .fetch) :
  Answered (x :: t) ↔ Answered t
  := by
  rw [Answered, fetches_cons_of_ne h]
  rfl

theorem answered_of_within (ht : Within ks t) (hk : Call.Kind.fetch ∉ ks := by decide) :
  Answered t
  := by
  rw [Answered, fetches_of_within ht hk]
  apply List.forall_mem_nil

theorem smooth_append :
  Smooth (t₁ ++ t₂) ↔ Smooth t₁ ∧ Smooth t₂
  := by
  constructor
  · rintro ⟨ha, hp, hw⟩
    rw [pushes_append, List.forall_mem_append] at hp
    rw [writes_append, List.forall_mem_append] at hw
    obtain ⟨ha₁, ha₂⟩ := answered_append.mp ha
    exact ⟨⟨ha₁, hp.1, hw.1⟩, ⟨ha₂, hp.2, hw.2⟩⟩
  · rintro ⟨⟨ha₁, hp₁, hw₁⟩, ⟨ha₂, hp₂, hw₂⟩⟩
    refine ⟨answered_append.mpr ⟨ha₁, ha₂⟩, ?_, ?_⟩
    · rw [pushes_append]
      exact List.forall_mem_append.mpr ⟨hp₁, hp₂⟩
    · rw [writes_append]
      exact List.forall_mem_append.mpr ⟨hw₁, hw₂⟩

/-- Without fetches, pushes and attempts to write the cursor nothing fails. -/
theorem smooth_of_within (ht : Within [.lookup, .load, .clock, .note, .pause] t) :
  Smooth t
  := by
  constructor
  · apply answered_of_within ht
  · rw [pushes_of_within ht]
    apply List.forall_mem_nil
  · rw [writes_of_within ht]
    apply List.forall_mem_nil

theorem smooth_nil :
  Smooth []
  := smooth_of_within (List.forall_mem_nil _)

/-! ### The persisted cursor -/

/-- The persisted cursor after an attempt to write it. -/
def settle (c : Cursor) : Cursor × Except Failure Unit → Cursor
  | (d, .ok ()) => d
  | (_, .error _) => c

/-- The persisted cursor after a transcript. -/
def persisted (c : Cursor) (t : Transcript) : Cursor :=
  (writes t).foldl settle c

/-- Every reading of the cursor gets what is persisted at that time, if `c` was persisted
at first. -/
def ReadsBack : Cursor → Transcript → Prop
  | _, [] => True
  | c, x :: t => (∀ d, x = ⟨.load, d⟩ → d = c) ∧ ReadsBack (persisted c [x]) t

@[simp]
theorem persisted_append :
  persisted c (t₁ ++ t₂) = persisted (persisted c t₁) t₂
  := by
  simp only [persisted, writes_append, List.foldl_append]

theorem persisted_of_writes_eq_nil (h : writes t = []) :
  persisted c t = c
  := by
  rw [persisted, h]
  rfl

/-- After a transcript with one attempt to write the cursor, it is the one that was to be
written or the one before. -/
theorem persisted_of_writes_singleton {d : Cursor} {x : Except Failure Unit}
    (h : writes t = [(d, x)]) :
  persisted c t = settle c (d, x)
  := by
  rw [persisted, h]
  rfl

/-- Attempts that fail keep the cursor. -/
theorem persisted_of_failed (h : ∀ w ∈ writes t, w.2 ≠ .ok ()) :
  persisted c t = c
  := by
  rw [persisted]
  apply List.foldlRecOn (motive := (· = c)) (writes t) settle rfl
  rintro d rfl ⟨e, x⟩ hw
  cases x with
  | error failure => rfl
  | ok u => exact absurd rfl (h _ hw)

theorem readsBack_append :
  ReadsBack c (t₁ ++ t₂) ↔ ReadsBack c t₁ ∧ ReadsBack (persisted c t₁) t₂
  := by
  induction t₁ generalizing c with
  | nil => simp [ReadsBack, persisted, writes]
  | cons x t ih =>
      rw [← List.singleton_append, List.append_assoc, persisted_append]
      simp only [List.singleton_append, ReadsBack, ih, and_assoc]

end Work

end LogCourier
