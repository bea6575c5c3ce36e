import Mathlib.Tactic.Common

/-!
# Lookups in lists of pairs, and computations that may fail

The value that a list of pairs has for a key, when there is one more pair in front
(`lookup_cons_eq_ite`) and when the pairs of some keys are left out (`lookup_filter`). A
computation in two parts comes to an end without an error if both parts do (`bind_eq_ok_iff`).
-/

namespace LogCourier

variable {α β : Type} [BEq α] [LawfulBEq α] [DecidableEq α]

theorem lookup_cons_eq_ite (a : α) (p : α × β) (l : List (α × β)) :
  (p :: l).lookup a = if a = p.1 then some p.2 else l.lookup a
  := by
  rw [List.lookup_cons]
  by_cases h : a = p.1
  · rw [if_pos h, beq_iff_eq.mpr h]
  · rw [if_neg h, beq_eq_false_iff_ne.mpr h]

theorem lookup_filter (f : α → Bool) (a : α) (l : List (α × β)) :
  (l.filter fun x => f x.1).lookup a = if f a then l.lookup a else none
  := by
  induction l with
  | nil => rw [List.filter_nil, List.lookup_nil, ite_self]
  | cons x l ih =>
      rw [List.filter_cons, lookup_cons_eq_ite]
      by_cases ha : a = x.1
      · rw [if_pos ha, ← ha]
        split
        · rw [lookup_cons_eq_ite, if_pos ha]
        · next hf => rw [ih, if_neg hf]
      · rw [if_neg ha]
        split
        · rw [lookup_cons_eq_ite, if_neg ha, ih]
        · apply ih

theorem bind_eq_ok_iff {ε γ δ : Type} {x : Except ε γ} {f : γ → Except ε δ} {b : δ} :
  (x >>= f) = .ok b ↔ ∃ a, x = .ok a ∧ f a = .ok b
  := by
  constructor
  · intro h
    cases x with
    | error e => cases h
    | ok a => exact ⟨a, rfl, h⟩
  · rintro ⟨a, rfl, h⟩
    exact h

end LogCourier
