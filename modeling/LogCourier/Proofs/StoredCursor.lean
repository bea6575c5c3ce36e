import LogCourier.Proofs.CursorHistory
import LogCourier.Proofs.Errands
import LogCourier.Proofs.Notes
import LogCourier.Proofs.Secrecy

/-!
# A pipeline that keeps its cursor in a file

The calls of the pipeline on the store of the cursor are answered by a file in a tree that nobody
else changes (`CursorFile.Served`). Then the history of the file is told by these calls: what can be
read from it is the cursor that is persisted, and every reading of the pipeline gets it
(`CursorFile.Served.readsBack`).

The metrics are told the events of the pipeline, and of each store that succeeds the row of the
cursor (`Work.told`). Every run of the pipeline's work on devices is of this kind
(`Wiring.served_of_yields`).
-/

namespace LogCourier

open Dialogue (Yields yields_bind yields_pure yields_question yields_question_bind Confined event?
  events events_append)

/-! ### Calls on the store of the cursor -/

namespace Work

variable {t t' : Transcript}

/-- A call on the store of the cursor, with its answer. -/
inductive CursorCall
  | load (cursor : Cursor)
  | store (cursor : Cursor) (outcome : Except Failure Unit)
  deriving DecidableEq

/-- The call on the store of the cursor in an exchange, if it is one. -/
def cursorCall? : Exchange → Option CursorCall
  | ⟨.load, c⟩ => some (.load c)
  | ⟨.store c, r⟩ => some (.store c r)
  | _ => none

/-- The calls on the store of the cursor. -/
def cursorCalls (t : Transcript) : List CursorCall :=
  t.filterMap cursorCall?

/-- What the metrics are told in an exchange: an event of the pipeline, or one of the store of the
cursor. -/
def told? : Exchange → Option MetricEvent
  | ⟨.note (.metric e), _⟩ => some e
  | ⟨.store c, .ok ()⟩ => some (.lastRowUpdated c.row)
  | _ => none

/-- What the metrics are told. -/
def told (t : Transcript) : List MetricEvent :=
  t.filterMap told?

@[simp]
theorem cursorCalls_append :
  cursorCalls (t ++ t') = cursorCalls t ++ cursorCalls t'
  := List.filterMap_append

@[simp]
theorem told_append :
  told (t ++ t') = told t ++ told t'
  := List.filterMap_append

theorem cursorCalls_cons (x : Exchange) :
  cursorCalls (x :: t) = (cursorCall? x).toList ++ cursorCalls t
  := by
  cases h : cursorCall? x with
  | none => exact List.filterMap_cons_none h
  | some y => exact List.filterMap_cons_some h

theorem told_cons (x : Exchange) :
  told (x :: t) = (told? x).toList ++ told t
  := by
  cases h : told? x with
  | none => exact List.filterMap_cons_none h
  | some y => exact List.filterMap_cons_some h

/-- Without calls on the store of the cursor the metrics are told the events of the pipeline. -/
theorem told_of_within {ks : List Call.Kind} (ht : Within ks t)
    (hk : Call.Kind.load ∉ ks ∧ Call.Kind.store ∉ ks := by decide) :
  cursorCalls t = [] ∧ told t = events t
  := by
  have hkind : ∀ x ∈ t, cursorCall? x = none ∧ told? x = event? x := by
    rintro ⟨q, x⟩ hx
    have hq := ht _ hx
    cases q with
    | load => exact absurd hq hk.1
    | store c => exact absurd hq hk.2
    | note n => cases n <;> exact ⟨rfl, rfl⟩
    | _ => exact ⟨rfl, rfl⟩
  constructor
  · exact List.filterMap_eq_nil_iff.mpr fun x hx => (hkind x hx).1
  · exact List.filterMap_congr fun x hx => (hkind x hx).2

end Work

open Work (CursorCall cursorCalls told)

/-! ### A file that answers them -/

namespace CursorFile

variable {path : String} {t t' t'' t₀ : FileTree} {cs cs' : List CursorCall} {last : Option Cursor}

/-- The calls on the store of the cursor are answered by the file of the path, and in the meantime
one tree becomes the other. -/
inductive Served (path : String) : FileTree → List CursorCall → FileTree → Prop
  | nil {t : FileTree} : Served path t [] t
  | load {t t' t'' : FileTree} {c : Cursor} {s : DeviceWork.Transcript} {cs : List CursorCall}
      (h : (load path).Yields s c) (hs : t.Evolves s t') (hrest : Served path t' cs t'') :
      Served path t (.load c :: cs) t''
  | store {t t' t'' : FileTree} {c : Cursor} {r : Except Failure Unit} {s : DeviceWork.Transcript}
      {cs : List CursorCall} (h : (store path c).Yields s r) (hs : t.Evolves s t')
      (hrest : Served path t' cs t'') : Served path t (.store c r :: cs) t''

namespace Served

theorem append (h : Served path t cs t') (h' : Served path t' cs' t'') :
  Served path t (cs ++ cs') t''
  := by
  induction h with
  | nil => apply h'
  | load h hs _ ih => exact .load h hs (ih h')
  | store h hs _ ih => exact .store h hs (ih h')

theorem split (h : Served path t (cs ++ cs') t'') :
  ∃ t', Served path t cs t' ∧ Served path t' cs' t''
  := by
  induction cs generalizing t with
  | nil => exact ⟨t, .nil, h⟩
  | cons c cs ih =>
      cases h with
      | load h hs hrest =>
          obtain ⟨t', hfirst, hrest⟩ := ih hrest
          exact ⟨t', .load h hs hfirst, hrest⟩
      | store h hs hrest =>
          obtain ⟨t', hfirst, hrest⟩ := ih hrest
          exact ⟨t', .store h hs hfirst, hrest⟩

end Served

/-- A store changes what is held as its outcome tells, and goes on with the history. -/
theorem held_of_store {c : Cursor} {r : Except Failure Unit} {s : DeviceWork.Transcript}
    (h : (store path c).Yields s r) (hs : t.Evolves s t') (hhistory : History path t₀ last t)
    (ht₀ : t₀.IsTree) (hsteady : t₀.Steady path) :
  (∃ last', History path t₀ last' t') ∧ t'.held path = Work.settle (t.held path) (c, r)
  := by
  have hiff := yields_store h
  have hheld := (hhistory.leaves ht₀).held_of_steady hsteady
  cases r with
  | ok _ =>
      have hhistory' := History.renamed hhistory h.begins hs (hiff.mp rfl)
      use ⟨_, hhistory'⟩
      exact (hhistory'.leaves ht₀).held_of_steady hsteady
  | error e =>
      have hhistory' := History.unrenamed hhistory h.begins hs (mt hiff.mpr nofun)
      use ⟨_, hhistory'⟩
      exact ((hhistory'.leaves ht₀).held_of_steady hsteady).trans hheld.symm

/-- A file that nobody else changes keeps what is persisted: this can be read in the end, and every
reading in between gets what is persisted then. -/
theorem Served.readsBack {s : Work.Transcript} (h : Served path t (cursorCalls s) t')
    (hhistory : History path t₀ last t) (ht₀ : t₀.IsTree) (hsteady : t₀.Steady path) :
  (∃ last', History path t₀ last' t') ∧ t'.held path = Work.persisted (t.held path) s
    ∧ Work.ReadsBack (t.held path) s
  := by
  induction s generalizing t last with
  | nil =>
      cases h
      exact ⟨⟨last, hhistory⟩, rfl, trivial⟩
  | cons x s ih =>
      rw [Work.cursorCalls_cons] at h
      have hcons : ∀ c, Work.persisted c (x :: s) = Work.persisted (Work.persisted c [x]) s := by
        intro c
        rw [← Work.persisted_append]
        rfl
      rw [hcons, Work.ReadsBack]
      obtain ⟨q, y⟩ := x
      cases q with
      | load =>
          cases h with
          | load hload hs hrest =>
              obtain rfl := eq_of_load hload.begins hs
              obtain ⟨hhistory', hheld, hreads⟩ := ih hrest hhistory
              refine ⟨hhistory', hheld, ?_, hreads⟩
              rintro d ⟨⟩
              apply held_of_load hload hs
      | store c =>
          cases h with
          | store hstore hs hrest =>
              obtain ⟨⟨last', hhistory'⟩, hsettled⟩ := held_of_store hstore hs hhistory ht₀ hsteady
              have hpersisted : Work.persisted (t.held path) [⟨.store c, y⟩]
                  = Work.settle (t.held path) (c, y) := rfl
              obtain ⟨hlast, hheld, hreads⟩ := ih hrest hhistory'
              rw [hsettled] at hheld hreads
              rw [hpersisted]
              refine ⟨hlast, hheld, ?_, hreads⟩
              rintro d ⟨⟩
      | _ =>
          obtain ⟨hhistory', hheld, hreads⟩ := ih h hhistory
          refine ⟨hhistory', hheld, ?_, hreads⟩
          rintro d ⟨⟩

end CursorFile

/-! ### The work on devices -/

namespace DeviceWork

variable {s s' : Transcript} {α : Type}

/-- Work without events tells the metrics nothing. -/
theorem Uses.events_eq_nil {ks : List Device.Kind} {d : DeviceWork α} {a : α} (hd : Uses ks d)
    (h : d.Yields s a) (hks : Device.Kind.event ∉ ks := by decide) :
  events s = []
  := by
  apply List.filterMap_eq_nil_iff.mpr
  rintro ⟨q, x⟩ hx
  have hq := h.of_confined hd.confined _ hx
  cases q with
  | note n =>
      cases n with
      | log l => rfl
      | metric e => exact absurd hq hks
  | _ => rfl

/-- Work that asks for no changes of files makes none. -/
theorem Uses.tree_eq {ks : List Device.Kind} {d : DeviceWork α} {a : α} {t t' : FileTree}
    (hd : Uses ks d) (h : d.Yields s a) (hs : t.Evolves s t')
    (hks : Device.Kind.change ∉ ks := by decide) :
  t' = t
  := by
  apply hs.eq_of_changesFiles
  rintro ⟨q, x⟩ hx
  have hq := h.of_confined hd.confined _ hx
  cases q <;> first | rfl | exact absurd hq hks

end DeviceWork

/-! ### The file under the work on devices -/

namespace CursorFile

variable {path : String} {c : Cursor} {s : DeviceWork.Transcript}

/-- A store that succeeds records the row of the cursor, one that fails records nothing. -/
theorem events_store {r : Except Failure Unit} (h : (store path c).Yields s r) :
  events s = (Work.told? ⟨.store c, r⟩).toList
  := by
  rw [store] at h
  obtain ⟨s₁, r₁, s', rfl, h₁, hs'⟩ := yields_bind.mp h
  rw [events_append, (uses_prepare path).events_eq_nil h₁, List.nil_append]
  cases r₁ with
  | error e =>
      obtain ⟨rfl, rfl⟩ := yields_pure.mp hs'
      rfl
  | ok _ =>
      obtain ⟨s₂, r₂, s₃, rfl, h₂, h₃⟩ := yields_bind.mp hs'
      rw [events_append, (uses_replace path c).events_eq_nil h₂, List.nil_append]
      cases r₂ with
      | error e =>
          obtain ⟨rfl, rfl⟩ := yields_pure.mp h₃
          rfl
      | ok _ =>
          obtain ⟨_, s₄, rfl, h₄⟩ := yields_question_bind.mp h₃
          obtain ⟨_, s₅, rfl, h₅⟩ := yields_question_bind.mp h₄
          obtain ⟨rfl, rfl⟩ := yields_pure.mp h₅
          rfl

end CursorFile

namespace Wiring

variable {w : Wiring} {α : Type}

/-- What a call does to the tree, and what it tells the metrics. -/
theorem served_of_answer {c : Call} {x : c.Answer} {s : DeviceWork.Transcript} {t t' : FileTree}
    (h : (w.answer c).Yields s x) (hs : t.Evolves s t') :
  CursorFile.Served w.stateFile t (Work.cursorCall? ⟨c, x⟩).toList t'
    ∧ events s = (Work.told? ⟨c, x⟩).toList
  := by
  have hsilent {ks : List Device.Kind} (hc : DeviceWork.Uses ks (w.answer c))
      (hevent : Device.Kind.event ∉ ks) (hchange : Device.Kind.change ∉ ks) :
      CursorFile.Served w.stateFile t [] t' ∧ events s = [] := by
    obtain rfl := hc.tree_eq h hs hchange
    exact ⟨.nil, hc.events_eq_nil h hevent⟩
  cases c with
  | fetch r => exact hsilent SourceAdapter.uses_fetch (by decide) (by decide)
  | push r => exact hsilent SinkAdapter.uses_push (by decide) (by decide)
  | lookup ip => exact hsilent (w.uses_answer_lookup ip) (by decide) (by decide)
  | load => exact ⟨.load h hs .nil, (CursorFile.uses_load _).events_eq_nil h⟩
  | store c => exact ⟨.store h hs .nil, CursorFile.events_store h⟩
  | clock => exact hsilent (.question (.head [])) (by decide) (by decide)
  | note n =>
      obtain rfl := yields_question.mp h
      obtain rfl : t' = t := hs.eq_of_changesFiles (List.forall_mem_singleton.mpr rfl)
      cases n <;> exact ⟨.nil, rfl⟩
  | pause => exact hsilent uses_pause (by decide) (by decide)

/-- Work that is wired to devices keeps the cursor in the file of the state, and records what the
metrics are told. -/
theorem served_of_yields {d : Work α} {s : DeviceWork.Transcript} {a : α} {t t' : FileTree}
    (h : (w.wire d).Yields s a) (hs : t.Evolves s t') :
  ∃ u, d.Yields u a ∧ CursorFile.Served w.stateFile t (cursorCalls u) t'
    ∧ events s = told u
  := by
  induction d generalizing s t with
  | done b =>
      rw [wire_done] at h
      cases h
      cases hs
      exact ⟨[], .done _, .nil, rfl⟩
  | ask q next ih =>
      rw [wire_ask] at h
      obtain ⟨s₁, x, s₂, rfl, hfirst, hrest⟩ := yields_bind.mp h
      obtain ⟨t₁, hs₁, hs₂⟩ := FileTree.evolves_append.mp hs
      obtain ⟨hserved, htold⟩ := served_of_answer hfirst hs₁
      obtain ⟨u, hu, hserved', htold'⟩ := ih x hrest hs₂
      refine ⟨⟨q, x⟩ :: u, .ask x hu, ?_, ?_⟩
      · rw [Work.cursorCalls_cons]
        apply hserved.append hserved'
      · rw [events_append, htold, htold', Work.told_cons]
  | abort => cases h

end Wiring

end LogCourier
