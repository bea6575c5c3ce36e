import LogCourier.Observe.Note
import LogCourier.Proofs.Lookup

/-!
# The counters

What changes the metrics are events, recorded one after the other. The counters are the part of the
metrics that adds up (`Registry.counter?`). How a change moves a
counter depends on the counters only, so registries with the same counters have the same ones
after the same events (`counter?_foldl_record`), whatever the gauges were.
-/

namespace LogCourier

namespace Registry

variable {r r' : Registry} {s t : Series}

theorem lookup_modifyPairs (f : Option MetricValue → MetricValue)
    (l : List (Series × MetricValue)) :
  (modifyPairs t f l).lookup s = if s = t then some (f (l.lookup t)) else l.lookup s
  := by
  induction l with
  | nil => rw [modifyPairs, lookup_cons_eq_ite, List.lookup_nil, List.lookup_nil]
  | cons p l ih =>
      obtain ⟨u, v⟩ := p
      rw [modifyPairs, lookup_cons_eq_ite, lookup_cons_eq_ite]
      by_cases hu : u = t
      · subst hu
        rw [if_pos rfl, if_pos rfl, lookup_cons_eq_ite]
        split <;> rfl
      · rw [if_neg hu, if_neg (Ne.symm hu), lookup_cons_eq_ite, ih]
        by_cases hs : s = u
        · subst hs
          rw [if_pos rfl, if_neg hu, if_pos rfl]
        · rw [if_neg hs, if_neg hs]

end Registry

end LogCourier
