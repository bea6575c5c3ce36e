import LogCourier.Device
import LogCourier.Pipeline.Call
import LogCourier.Proofs.Transcript

/-!
# What is noted

The pipeline takes notes, and so does the work on devices. Of a transcript of either the notes
(`notes`) and the events among them (`events`) are told in the same way, by what its questions
are (`Noting`).
-/

namespace LogCourier

/-- The event that a note records, if it records one. -/
def Note.event? : Note → Option MetricEvent
  | .log _ => none
  | .metric e => some e

/-- Questions some of which are notes. -/
class Noting (Q : Type) where
  /-- The note that is taken, if the question is one. -/
  note? : Q → Option Note

instance : Noting Call where
  note?
    | .note n => some n
    | _ => none

instance : Noting Device where
  note?
    | .note n => some n
    | _ => none

namespace Dialogue

variable {Q : Type} {A : Q → Type}

/-- What is picked out first of a composite and what is picked out then. -/
theorem filterMap_of_bind {β : Type} {f : Exchange A → Option β} {d d' : Dialogue Q A Unit}
    {t : Transcript A} {xs ys : List β} (h : (d >>= fun _ => d').Yields t ())
    (hd : ∀ {t}, d.Yields t () → t.filterMap f = xs)
    (hd' : ∀ {t}, d'.Yields t () → t.filterMap f = ys) :
  t.filterMap f = xs ++ ys
  := by
  obtain ⟨t₁, u, t₂, rfl, h₁, h₂⟩ := yields_bind.mp h
  rw [List.filterMap_append, hd h₁, hd' h₂]

variable [Noting Q] {x : Exchange A} {t t₁ t₂ : Transcript A}

/-- The note in an exchange, if it is one. -/
def note? (x : Exchange A) : Option Note :=
  Noting.note? x.1

/-- What was noted, in order. -/
def notes (t : Transcript A) : List Note :=
  t.filterMap note?

/-- The event in an exchange, if it is one. -/
def event? (x : Exchange A) : Option MetricEvent :=
  (note? x).bind Note.event?

/-- The events that were recorded, in order. -/
def events (t : Transcript A) : List MetricEvent :=
  t.filterMap event?

@[simp]
theorem notes_append :
  notes (t₁ ++ t₂) = notes t₁ ++ notes t₂
  := List.filterMap_append

@[simp]
theorem events_append :
  events (t₁ ++ t₂) = events t₁ ++ events t₂
  := List.filterMap_append

theorem events_cons :
  events (x :: t) = (event? x).toList ++ events t
  := by
  cases h : event? x with
  | none => exact List.filterMap_cons_none h
  | some e => exact List.filterMap_cons_some h

end Dialogue

end LogCourier
