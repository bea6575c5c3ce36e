import LogCourier.Device
import LogCourier.Proofs.Files
import LogCourier.Proofs.Transcript

/-!
# Work on files that fails or is cut off

Work on devices changes a tree of files. An operation that succeeds does what it does to the tree;
one that fails may have been carried out in part (`FileTree.Answers`). A failure can also stand for
a crash: then the work is cut off there (`Dialogue.Begins`), and what follows is never asked.

* `FileTree.Evolves t s t'`: along the exchanges `s` with devices the tree `t` becomes `t'`.
-/

namespace LogCourier

namespace Dialogue

variable {Q : Type} {A : Q → Type} {α β : Type} {q : Q} {d : Dialogue Q A α}
  {f : α → Dialogue Q A β} {t : Transcript A} {a : α}

/-- Held along the transcript, the dialogue gets so far: it goes on from there, or is cut off. -/
inductive Begins : Dialogue Q A α → Transcript A → Prop
  | stop (d : Dialogue Q A α) : Begins d []
  | ask {q : Q} {next : A q → Dialogue Q A α} {t : Transcript A} (x : A q)
      (h : Begins (next x) t) : Begins (.ask q next) (⟨q, x⟩ :: t)

theorem Yields.begins (h : Yields d t a) :
  Begins d t
  := by
  induction h with
  | done a => apply Begins.stop
  | ask x h ih => apply Begins.ask x ih

theorem begins_pure :
  Begins (pure a : Dialogue Q A α) t ↔ t = []
  := by
  constructor
  · intro h
    cases h
    rfl
  · rintro rfl
    apply Begins.stop

/-- A composite gets so far as its first part does, or further in its second part. -/
theorem begins_bind :
  Begins (d >>= f) t ↔ Begins d t ∨ ∃ t₁ a t₂, t = t₁ ++ t₂ ∧ Yields d t₁ a ∧ Begins (f a) t₂
  := by
  change Begins (d.bind f) t ↔ _
  induction d generalizing t with
  | done a =>
      constructor
      · intro h
        exact .inr ⟨[], a, t, rfl, .done a, h⟩
      · rintro (h | ⟨t₁, a', t₂, rfl, h₁, h₂⟩)
        · cases h
          apply Begins.stop
        · cases h₁
          apply h₂
  | ask q next ih =>
      constructor
      · intro h
        cases h with
        | stop => exact .inl (.stop _)
        | ask x h =>
            rcases (ih x).mp h with h | ⟨t₁, a, t₂, rfl, h₁, h₂⟩
            · exact .inl (.ask x h)
            · exact .inr ⟨⟨q, x⟩ :: t₁, a, t₂, rfl, .ask x h₁, h₂⟩
      · rintro (h | ⟨t₁, a, t₂, rfl, h₁, h₂⟩)
        · cases h with
          | stop => apply Begins.stop
          | ask x h => exact .ask x ((ih x).mpr (.inl h))
        · cases h₁ with
          | ask x h₁ => exact .ask x ((ih x).mpr (.inr ⟨_, a, t₂, rfl, h₁, h₂⟩))
  | abort =>
      constructor
      · intro h
        cases h
        exact .inl (.stop _)
      · rintro (h | ⟨t₁, a, t₂, rfl, h₁, h₂⟩)
        · cases h
          apply Begins.stop
        · cases h₁

/-- A question is asked first, or nothing. -/
theorem begins_question_bind {f : A q → Dialogue Q A β} :
  Begins (question q >>= f) t ↔ t = [] ∨ ∃ x t', t = ⟨q, x⟩ :: t' ∧ Begins (f x) t'
  := by
  constructor
  · intro h
    cases h with
    | stop => exact .inl rfl
    | ask x h => exact .inr ⟨x, _, rfl, h⟩
  · rintro (rfl | ⟨x, t', rfl, h⟩)
    · apply Begins.stop
    · exact .ask x h

/-- Where every question can be answered a dialogue that never aborts can be held to its end. -/
theorem exists_yields (hA : ∀ q, Nonempty (A q)) (hd : Total d) :
  ∃ t a, Yields d t a
  := by
  induction d with
  | done a => exact ⟨[], a, .done a⟩
  | ask q next ih =>
      obtain ⟨x⟩ := hA q
      obtain ⟨t, a, h⟩ := ih x fun t ht => hd _ (.ask x ht)
      exact ⟨⟨q, x⟩ :: t, a, .ask x h⟩
  | abort => exact absurd .abort (hd [])

theorem Begins.of_confined {P : Q → Prop} (h : Begins d t) (hd : Confined P d) :
  ∀ x ∈ t, P x.1
  := by
  induction h with
  | stop d => exact List.forall_mem_nil _
  | ask x h ih => exact List.forall_mem_cons.mpr ⟨hd.1, ih (hd.2 x)⟩

end Dialogue

/-! ### Files behind devices -/

/-- Whether a question is about files. -/
def Device.isAboutFiles : Device → Bool
  | readFile _ | makeDirectories _ | writeFile .. | rename .. => true
  | _ => false

/-- Whether a question asks for a change of files. -/
def Device.changesFiles : Device → Bool
  | makeDirectories _ | writeFile .. | rename .. => true
  | _ => false

theorem Device.changesFiles_of_isAboutFiles (d : Device) (h : d.isAboutFiles = false) :
  d.changesFiles = false
  := by
  cases d <;> first | rfl | cases h

/-- Every question to a device can be answered. -/
theorem Device.nonempty_answer (d : Device) :
  Nonempty d.Answer
  := by
  cases d with
  | http request => exact ⟨.none (.unsent .other request.url)⟩
  | datagram => exact ⟨.silence⟩
  | chance => exact ⟨0⟩
  | readFile | makeDirectories | writeFile | rename => exact ⟨.error ⟨true, ""⟩⟩
  | clock => exact ⟨0⟩
  | note => exact ⟨()⟩
  | listen => exact ⟨false⟩
  | pause => exact ⟨none⟩

namespace FileTree

open Dialogue (Exchange)

variable {t t' t'' : FileTree} {x : Exchange Device.Answer} {s s' : List (Exchange Device.Answer)}

/-- An answer that devices may give, and what becomes of the files. What succeeds is what the tree
says. A file that is there can be read. Making directories may fail when some of them are made;
writing may fail at once, or when any part of the content is written; renaming fails without any
effect. -/
inductive Answers (t : FileTree) : Exchange Device.Answer → FileTree → Prop
  | read {path : String} {content : List UInt8} (h : t.readFile path = .ok content) :
      Answers t ⟨.readFile path, .ok content⟩ t
  | unread {path : String} (e : FileError) (h : ∀ content, t.readFile path ≠ .ok content) :
      Answers t ⟨.readFile path, .error e⟩ t
  | made {path : String} {t' : FileTree} (h : t.makeDirectories path = (t', .ok ())) :
      Answers t ⟨.makeDirectories path, .ok ()⟩ t'
  | makingFailed {path : String} {t' : FileTree} (e : FileError)
      (h : t.Touches (fun _ => False) t') (htree : t'.IsTree) :
      Answers t ⟨.makeDirectories path, .error e⟩ t'
  | written {path : String} {content : List UInt8} {t' : FileTree}
      (h : t.writeFile path content = .ok t') : Answers t ⟨.writeFile path content, .ok ()⟩ t'
  | unwritten (path : String) (content : List UInt8) (e : FileError) :
      Answers t ⟨.writeFile path content, .error e⟩ t
  | writingFailed {path : String} {content : List UInt8} {t' : FileTree} (n : Nat) (e : FileError)
      (h : t.writeFile path (content.take n) = .ok t') :
      Answers t ⟨.writeFile path content, .error e⟩ t'
  | renamed {source target : String} {t' : FileTree} (h : t.rename source target = .ok t') :
      Answers t ⟨.rename source target, .ok ()⟩ t'
  | unrenamed (source target : String) (e : FileError) :
      Answers t ⟨.rename source target, .error e⟩ t
  | other {d : Device} (x : d.Answer) (h : d.isAboutFiles = false) : Answers t ⟨d, x⟩ t

/-- Along the exchanges with devices one tree becomes the other. -/
inductive Evolves : FileTree → List (Exchange Device.Answer) → FileTree → Prop
  | nil (t : FileTree) : Evolves t [] t
  | cons {t t' t'' : FileTree} {x : Exchange Device.Answer} {s : List (Exchange Device.Answer)}
      (hx : t.Answers x t') (hs : Evolves t' s t'') : Evolves t (x :: s) t''

theorem evolves_nil :
  t.Evolves [] t' ↔ t' = t
  := by
  constructor
  · intro h
    cases h
    rfl
  · rintro rfl
    apply Evolves.nil

theorem evolves_cons :
  t.Evolves (x :: s) t'' ↔ ∃ t', t.Answers x t' ∧ t'.Evolves s t''
  := by
  constructor
  · intro h
    cases h with
    | cons hx hs => exact ⟨_, hx, hs⟩
  · rintro ⟨t', hx, hs⟩
    exact .cons hx hs

theorem evolves_append :
  t.Evolves (s ++ s') t'' ↔ ∃ t', t.Evolves s t' ∧ t'.Evolves s' t''
  := by
  induction s generalizing t with
  | nil => simp only [List.nil_append, evolves_nil, exists_eq_left]
  | cons x s ih =>
      simp only [List.cons_append, evolves_cons, ih]
      constructor
      · rintro ⟨t₁, hx, t₂, hs, hs'⟩
        exact ⟨t₂, ⟨t₁, hx, hs⟩, hs'⟩
      · rintro ⟨t₂, ⟨t₁, hx, hs⟩, hs'⟩
        exact ⟨t₁, hx, t₂, hs, hs'⟩

/-- Nothing changes without a question that asks for it. -/
theorem Answers.eq_of_changesFiles (h : t.Answers x t') (hx : x.1.changesFiles = false) :
  t' = t
  := by
  cases h <;> first | rfl | cases hx

theorem Evolves.eq_of_changesFiles (h : t.Evolves s t') (hs : ∀ x ∈ s, x.1.changesFiles = false) :
  t' = t
  := by
  induction h with
  | nil t => rfl
  | cons hx _ ih =>
      obtain ⟨hchange, hrest⟩ := List.forall_mem_cons.mp hs
      rw [ih hrest, hx.eq_of_changesFiles hchange]

/-- Exchanges without a word about files may come about in any tree. -/
theorem evolves_of_isAboutFiles (t : FileTree) (hs : ∀ x ∈ s, x.1.isAboutFiles = false) :
  t.Evolves s t
  := by
  induction s with
  | nil => apply Evolves.nil
  | cons x s ih =>
      obtain ⟨hx, hrest⟩ := List.forall_mem_cons.mp hs
      exact .cons (.other x.2 hx) (ih hrest)

end FileTree

end LogCourier
