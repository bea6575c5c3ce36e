import LogCourier.Proofs.Governing

/-!
# The governor over any history

A governor may be told of any successes and failures, also once its circuit is open. What it makes
of them is read off the whole history (`Governor.Follows`): it keeps the number of failures in a
row up to multiples of 2³², and its circuit is open if and only if somewhere along the history a
refusal of the credentials met the threshold (`Governor.Opens`).

Short of 2³² failures in a row this is the circuit breaker that one expects
(`Governor.circuit_law`). Beyond that the count that is kept starts over while the one that is told
stays at the largest word, so that now and then a source that only fails passes for a healthy one
(`Governor.recalls_iff`).
-/

namespace LogCourier

namespace Fed

variable {g g' : Governor} {os os' : List SourceOutcome} {x : SourceOutcome}

/-- Outcomes are seen one part after the other. -/
theorem split (h : Fed g (os ++ os') g') :
  ∃ k, Fed g os k ∧ Fed k os' g'
  := by
  induction os generalizing g with
  | nil => exact ⟨g, .nil, h⟩
  | cons x os ih =>
      cases h with
      | success time h =>
          obtain ⟨k, hk, hrest⟩ := ih h
          exact ⟨k, .success time hk, hrest⟩
      | failure h =>
          obtain ⟨k, hk, hrest⟩ := ih h
          exact ⟨k, .failure hk, hrest⟩

/-- Every governor can be fed with any outcomes. -/
theorem exists_fed (g : Governor) (os : List SourceOutcome) :
  ∃ g', Fed g os g'
  := by
  induction os generalizing g with
  | nil => exact ⟨g, .nil⟩
  | cons x os ih =>
      cases x with
      | ok page =>
          obtain ⟨g', h⟩ := ih (g.success 0)
          exact ⟨g', .success 0 h⟩
      | error e =>
          obtain ⟨g', h⟩ := ih (g.failure e).2
          exact ⟨g', .failure h⟩

/-- Nothing closes an open circuit. -/
theorem terminated_mono (h : Fed g os g') (hg : g.terminated = true) :
  g'.terminated = true
  := by
  induction h with
  | nil => apply hg
  | success time h ih => apply ih hg
  | @failure g g' e os h ih =>
      apply ih
      rw [Governor.failure, hg]
      rfl

end Fed

namespace Governor

variable {g k : Governor} {e : SourceError} {threshold : UInt32} {os front : List SourceOutcome}

/-! ### Counting failures -/

/-- What a verdict tells of `n` failures in a row, if `n` is not 0. -/
def told (n : Nat) : Nat :=
  if n % UInt32.size = 0 then UInt32.size - 1 else n % UInt32.size

theorem told_of_lt {n : Nat} (hpos : n ≠ 0) (h : n < UInt32.size) :
  told n = n
  := by
  rw [told, Nat.mod_eq_of_lt h, if_neg hpos]

/-- What is told is what is kept unless the count has just started over. -/
theorem told_eq_mod_iff {n : Nat} :
  told n = n % UInt32.size ↔ n % UInt32.size ≠ 0
  := by
  rw [told]
  split
  · next hzero =>
    rw [hzero]
    decide
  · next hne => exact iff_of_true rfl hne

/-- The count that is told runs ahead of the one that is kept. -/
theorem toNat_countAfter {m : UInt32} {n : Nat} (h : m.toNat = n % UInt32.size) :
  (countAfter m).toNat = told (n + 1)
  := by
  have hlast : (0xffffffff : UInt32).toNat = UInt32.size - 1 := rfl
  rw [countAfter, told]
  split
  · next heq =>
    subst heq
    rw [hlast] at h ⊢
    rw [if_pos]
    simp only [UInt32.size] at h ⊢
    omega
  · next hne =>
    have hlt : m.toNat ≠ UInt32.size - 1 := by
      rw [← hlast]
      exact fun heq => hne (UInt32.toNat.inj heq)
    have hm := m.toNat_lt
    rw [UInt32.toNat_add, UInt32.toNat_one, if_neg]
    all_goals
      simp only [UInt32.size] at h hlt ⊢
      omega

theorem toNat_max_one (n : UInt32) :
  (max n 1).toNat = max 1 n.toNat
  := by
  change (if n ≤ 1 then 1 else n).toNat = _
  split
  · next h =>
    rw [UInt32.le_iff_toNat_le] at h
    exact (Nat.max_eq_left h).symm
  · next h =>
    rw [UInt32.le_iff_toNat_le, Nat.not_le] at h
    exact (Nat.max_eq_right (Nat.le_of_lt h)).symm

/-! ### What a history makes of the governor -/

/-- Somewhere along the outcomes a refusal of the credentials meets the threshold. -/
def Opens (threshold : UInt32) (os : List SourceOutcome) : Prop :=
  ∃ front e, front ++ [.error e] <+: os ∧ e.isAuthentication = true
    ∧ max 1 threshold.toNat ≤ told (failuresInARow (front ++ [.error e]))

theorem not_opens_nil :
  ¬ Opens threshold []
  := by
  rintro ⟨front, e, hfront, -⟩
  cases List.append_eq_nil_iff.mp (List.prefix_nil.mp hfront) with
  | intro _ h => cases h

theorem opens_concat_ok {page : QueryLogPage} :
  Opens threshold (os ++ [.ok page]) ↔ Opens threshold os
  := by
  constructor
  · rintro ⟨front, e, hfront, h⟩
    rcases List.prefix_concat_iff.mp hfront with heq | hfront
    · cases (List.append_inj_right' heq rfl)
    · exact ⟨front, e, hfront, h⟩
  · rintro ⟨front, e, hfront, h⟩
    exact ⟨front, e, hfront.trans (List.prefix_append _ _), h⟩

theorem opens_concat_error :
  Opens threshold (os ++ [.error e])
    ↔ Opens threshold os ∨ e.isAuthentication = true
      ∧ max 1 threshold.toNat ≤ told (failuresInARow (os ++ [.error e]))
  := by
  constructor
  · rintro ⟨front, e', hfront, h⟩
    rcases List.prefix_concat_iff.mp hfront with heq | hfront
    · cases (List.append_inj_right' heq rfl)
      cases (List.append_inj_left' heq rfl)
      exact .inr h
    · exact .inl ⟨front, e', hfront, h⟩
  · rintro (⟨front, e', hfront, h⟩ | h)
    · exact ⟨front, e', hfront.trans (List.prefix_append _ _), h⟩
    · exact ⟨os, e, List.prefix_rfl, h⟩

/-- A governor with the threshold after the outcomes: its count is that of the failures in a row, up
to multiples of 2³², and its circuit is open if they open it. -/
structure Follows (threshold : UInt32) (os : List SourceOutcome) (g : Governor) : Prop where
  threshold_eq : g.threshold = max threshold 1
  failures : g.failures.toNat = failuresInARow os % UInt32.size
  terminated : g.terminated = true ↔ Opens threshold os

namespace Follows

theorem countAfter (h : g.Follows threshold os) :
  (Governor.countAfter g.failures).toNat = told (failuresInARow (os ++ [.error e]))
  := by
  rw [failuresInARow_concat]
  exact toNat_countAfter h.failures

/-- The health, if the count that is kept passes for the number of failures. -/
theorem health (h : g.Follows threshold os) :
  g.health = if g.terminated then .terminated
    else if failuresInARow os % UInt32.size = 0 then .healthy else .degraded g.failures
  := by
  have hzero : g.failures = 0 ↔ failuresInARow os % UInt32.size = 0 := by
    rw [← UInt32.toNat_inj, h.failures]
    rfl
  simp only [Governor.health, hzero]

theorem success {page : QueryLogPage} (h : g.Follows threshold os) (time : Nat) :
  (g.success time).Follows threshold (os ++ [.ok page])
  where
  threshold_eq := h.threshold_eq
  failures := by
    rw [failuresInARow_concat]
    rfl
  terminated := h.terminated.trans opens_concat_ok.symm

theorem failure (h : g.Follows threshold os) :
  (g.failure e).2.Follows threshold (os ++ [.error e])
  where
  threshold_eq := by rw [threshold_failure, h.threshold_eq]
  failures := by
    rw [failures_failure, UInt32.toNat_add, h.failures, failuresInARow_concat]
    exact Nat.mod_add_mod _ _ _
  terminated := by
    rw [terminated_failure_iff, opens_concat_error, h.terminated, h.threshold_eq,
      UInt32.le_iff_toNat_le, toNat_max_one, h.countAfter]

end Follows

/-- A governor that is fed with outcomes follows them. -/
theorem follows_of_fed (h : Fed (.new threshold) os g) :
  g.Follows threshold os
  := by
  induction os using List.reverseRecOn generalizing g with
  | nil =>
      cases h
      exact ⟨rfl, rfl, iff_of_false Bool.false_ne_true not_opens_nil⟩
  | append_singleton os x ih =>
      obtain ⟨k, hk, hlast⟩ := h.split
      cases hlast with
      | success time hnil =>
          cases hnil
          apply (ih hk).success
      | failure hnil =>
          cases hnil
          apply (ih hk).failure

/-- Without a refusal of the credentials no circuit is opened. -/
theorem not_opens (h : ∀ e, .error e ∈ os → e.isAuthentication = false) :
  ¬ Opens threshold os
  := by
  rintro ⟨front, e, hfront, hauth, -⟩
  have hmem : .error e ∈ os := hfront.mem (List.mem_append_right _ List.mem_cons_self)
  cases (h e hmem).symm.trans hauth

/-- Short of 2³² failures in a row, what is told is their number. -/
theorem told_of_fewInARow (hfew : FewInARow os) (hfront : front ++ [.error e] <+: os) :
  told (failuresInARow (front ++ [.error e])) = failuresInARow (front ++ [.error e])
  := by
  apply told_of_lt
  · rw [failuresInARow_concat]
    apply Nat.succ_ne_zero
  · apply hfew _ hfront

/-- The circuit breaker, told of any successes and failures of which fewer than 2³² come in a row.
Its circuit is open if and only if somewhere a refusal of the credentials came with at least as many
failures in a row as the threshold, which counts as 1 if it is 0. Every failure gets the verdict to
end if the circuit is open right after it, and the verdict to try again otherwise, with the number
of failures in a row. Nothing closes an open circuit. The health is read off the circuit and the
number of failures in a row, and without a refusal of the credentials the circuit stays closed. -/
theorem circuit_law (h : Fed (.new threshold) os g) (hfew : FewInARow os) :
  (g.terminated = true ↔ ∃ front e, front ++ [.error e] <+: os ∧ e.isAuthentication = true
      ∧ max 1 threshold.toNat ≤ failuresInARow (front ++ [.error e]))
    ∧ (∀ front e k, front ++ [.error e] <+: os → Fed (.new threshold) front k →
      ∃ n : UInt32, n.toNat = failuresInARow (front ++ [.error e])
        ∧ (k.failure e).1 = if (k.failure e).2.terminated then .trip n else .retry n)
    ∧ (∀ os' g', Fed g os' g' → g.terminated = true → g'.terminated = true)
    ∧ g.failures.toNat = failuresInARow os
    ∧ g.health = (if g.terminated then .terminated
      else if failuresInARow os = 0 then .healthy else .degraded g.failures)
    ∧ ((∀ e, .error e ∈ os → e.isAuthentication = false) → g.terminated = false)
  := by
  have hfollows := follows_of_fed h
  have hcount : g.failures.toNat = failuresInARow os := by
    rw [hfollows.failures, Nat.mod_eq_of_lt (hfew os List.prefix_rfl)]
  refine ⟨?_, ?_, ?_, hcount, ?_, ?_⟩
  · rw [hfollows.terminated, Opens]
    apply exists₂_congr
    intro front e
    apply and_congr_right
    intro hfront
    rw [told_of_fewInARow hfew hfront]
  · intro front e k hfront hk
    use countAfter k.failures
    rw [(follows_of_fed hk).countAfter, told_of_fewInARow hfew hfront]
    exact ⟨rfl, verdict_eq⟩
  · intro os' g' hrest hg
    apply hrest.terminated_mono hg
  · rw [hfollows.health, Nat.mod_eq_of_lt (hfew os List.prefix_rfl)]
  · intro hnone
    rw [← Bool.not_eq_true, hfollows.terminated]
    apply not_opens hnone

/-- The first refusal of the credentials comes too early, the second one opens the circuit, and the
success after it does not close it. -/
theorem circuit_law_of_two_refusals :
  let refused : SourceOutcome := .error ⟨.authentication, "no"⟩
  let os := [refused, .ok .empty, .error ⟨.network, "down"⟩, refused, .ok .empty]
  ∃ g, Fed (.new 2) os g ∧ FewInARow os ∧ g.terminated = true ∧ g.failures = 0
    ∧ g.health = .terminated
  := by
  intro refused os
  obtain ⟨g, hg⟩ := Fed.exists_fed (.new 2) os
  have hfew : FewInARow os := fewInARow_of_length_lt (by decide)
  obtain ⟨hopen, -, -, hcount, hhealth, -⟩ := circuit_law hg hfew
  have hterminated : g.terminated = true :=
    hopen.mpr ⟨[refused, .ok .empty, .error ⟨.network, "down"⟩], ⟨.authentication, "no"⟩,
      ⟨[.ok .empty], rfl⟩, rfl, by decide⟩
  rw [hterminated] at hhealth
  exact ⟨g, hg, hfew, hterminated, UInt32.toNat.inj hcount, hhealth⟩

/-! ### Beyond the largest word -/

/-- After `n` failures in a row the governor has not lost their number: it keeps it, up to the
largest word, its verdict tells the same, and unless its circuit is open it passes for degraded. -/
structure Recalls (n : Nat) (v : Verdict) (g : Governor) : Prop where
  kept : g.failures.toNat = min n (UInt32.size - 1)
  told : v.failures = g.failures
  health : g.terminated = false → g.health = .degraded g.failures

theorem failuresInARow_replicate (n : Nat) :
  failuresInARow (List.replicate n (.error e)) = n
  := by
  induction n with
  | zero => rfl
  | succ n ih =>
      rw [List.replicate_succ', failuresInARow_concat, ih]
      rfl

/-- The count that is kept is the number of failures up to the largest word as long as it has not
started over, and when it is about to. -/
theorem mod_eq_min_iff {n : Nat} :
  n % UInt32.size = min n (UInt32.size - 1)
    ↔ n < UInt32.size ∨ n % UInt32.size = UInt32.size - 1
  := by
  simp only [UInt32.size]
  omega

/-- After any history that ends with a failure the governor keeps the number of failures in a row
up to multiples of 2³², and tells the same unless the count has just started over, and then it tells
the largest word. So the number is not lost if and only if it is less than 2³² or the count is about
to start over, and a source whose failures come to a multiple of 2³² passes for healthy unless the
circuit is open. -/
theorem recalls_iff (h : Fed (.new threshold) os g) (e : SourceError) :
  let n := failuresInARow (os ++ [.error e])
  let v := (g.failure e).1
  let g' := (g.failure e).2
  g'.failures.toNat = n % UInt32.size
    ∧ v.failures.toNat = (if n % UInt32.size = 0 then UInt32.size - 1 else n % UInt32.size)
    ∧ (g'.failures.toNat = min n (UInt32.size - 1)
      ↔ n < UInt32.size ∨ n % UInt32.size = UInt32.size - 1)
    ∧ (v.failures = g'.failures ↔ n % UInt32.size ≠ 0)
    ∧ (g'.terminated = false →
      g'.health = if n % UInt32.size = 0 then .healthy else .degraded g'.failures)
    ∧ (Recalls n v g' ↔ n < UInt32.size ∨ n % UInt32.size = UInt32.size - 1)
  := by
  intro n v g'
  have hfollows : g'.Follows threshold (os ++ [.error e]) := (follows_of_fed h).failure
  have hkept : g'.failures.toNat = n % UInt32.size := hfollows.failures
  have htold : v.failures.toNat = Governor.told n := by
    rw [verdict_failures, (follows_of_fed h).countAfter]
  have hsame : v.failures = g'.failures ↔ n % UInt32.size ≠ 0 := by
    rw [← UInt32.toNat_inj, hkept, htold, told_eq_mod_iff]
  have hhealth : g'.terminated = false →
      g'.health = if n % UInt32.size = 0 then .healthy else .degraded g'.failures := by
    intro hclosed
    rw [hfollows.health, hclosed]
    rfl
  refine ⟨hkept, htold, by rw [hkept, mod_eq_min_iff], hsame, hhealth, ?_⟩
  constructor
  · intro hrecalls
    rw [← mod_eq_min_iff, ← hkept, hrecalls.kept]
  · intro hn
    have hpos : n ≠ 0 := by
      apply ne_of_eq_of_ne (failuresInARow_concat os (.error e))
      apply Nat.succ_ne_zero
    have hne : n % UInt32.size ≠ 0 := by
      simp only [UInt32.size] at hn ⊢
      omega
    constructor
    · rw [hkept, mod_eq_min_iff.mpr hn]
    · exact hsame.mpr hne
    · intro hclosed
      rw [hhealth hclosed, if_neg hne]

/-- Two failures of the network are kept, told, and seen. -/
theorem recalls_iff_of_two_failures :
  let down : SourceError := ⟨.network, "down"⟩
  ∃ g, Fed (.new 3) [.error down] g ∧ (g.failure down).2.failures.toNat = 2
    ∧ Recalls 2 (g.failure down).1 (g.failure down).2
  := by
  intro down
  obtain ⟨g, hg⟩ := Fed.exists_fed (.new 3) [.error down]
  obtain ⟨hkept, -, -, -, -, hrecalls⟩ := recalls_iff hg down
  exact ⟨g, hg, hkept, hrecalls.mpr (.inl (by decide))⟩

/-- The network fails 2³² times in a row: the verdict tells the largest word, but the count that is
kept is 0, and the source passes for healthy. -/
theorem healthy_after_failures :
  let down : SourceError := ⟨.network, "down"⟩
  let os : List SourceOutcome := List.replicate (UInt32.size - 1) (.error down)
  ∃ g, Fed (.new 3) os g ∧ failuresInARow (os ++ [.error down]) = UInt32.size
    ∧ (g.failure down).1 = .retry 0xffffffff ∧ (g.failure down).2.failures = 0
    ∧ (g.failure down).2.health = .healthy
    ∧ ¬ Recalls UInt32.size (g.failure down).1 (g.failure down).2
  := by
  intro down os
  obtain ⟨g, hg⟩ := Fed.exists_fed (.new 3) os
  have hcount : failuresInARow (os ++ [.error down]) = UInt32.size := by
    rw [failuresInARow_concat, failuresInARow_replicate]
    rfl
  have hfollows := (follows_of_fed hg).failure (e := down)
  have hzero : (g.failure down).2.failures = 0 := by
    apply UInt32.toNat.inj
    rw [hfollows.failures, hcount]
    rfl
  have hclosed : (g.failure down).2.terminated = false := by
    rw [← Bool.not_eq_true, hfollows.terminated]
    apply not_opens
    intro e he
    rcases List.mem_append.mp he with he | he
    · cases List.eq_of_mem_replicate he
      rfl
    · cases List.mem_singleton.mp he
      rfl
  have htold : countAfter g.failures = 0xffffffff := by
    apply UInt32.toNat.inj
    rw [(follows_of_fed hg).countAfter (e := down), hcount]
    rfl
  have hverdict : (g.failure down).1 = .retry 0xffffffff := by
    rw [verdict_eq, hclosed, htold]
    rfl
  refine ⟨g, hg, hcount, hverdict, hzero, ?_, ?_⟩
  · rw [hfollows.health, hclosed, hcount]
    rfl
  · intro hrecalls
    have hsame := hrecalls.told
    rw [hverdict, hzero] at hsame
    cases hsame

end Governor

end LogCourier
