import LogCourier.Number
import Mathlib.Algebra.Order.Field.Basic
import Mathlib.Algebra.Order.Field.Power
import Mathlib.Algebra.Order.Group.Abs
import Mathlib.Data.Nat.Log
import Mathlib.Data.Rat.Cast.Order
import Mathlib.Tactic.Linarith
import Mathlib.Tactic.Positivity
import Mathlib.Tactic.Ring

/-!
# The double nearest to a number

A double has a mantissa below 2⁵³. `Double.ofNat n` is as near to `n` as any other double, and
where another one is as near its mantissa is even (`Double.isNearest_ofNat`). Up to 2⁵³ it is `n`
itself (`Double.value_ofNat`). The exponents of doubles are not bounded here, so there are more
doubles to compare with, not fewer.
-/

namespace LogCourier

namespace Double

/-- The number that a double stands for. -/
def value (x : Double) : ℚ :=
  x.mantissa * 2 ^ x.exponent

/-- No double is nearer to the number, and another one is as near only if this one is even. -/
structure IsNearest (x : Double) (q : ℚ) : Prop where
  short : x.mantissa < 2 ^ 53
  le : ∀ y : Double, y.mantissa < 2 ^ 53 → |x.value - q| ≤ |y.value - q|
  even : ∀ y : Double, y.mantissa < 2 ^ 53 → y.value ≠ x.value →
    |y.value - q| = |x.value - q| → 2 ∣ x.mantissa

/-! ### Rounding to a multiple -/

/-- The rounded quotient is one of the two around the quotient; in the middle it is even. -/
theorem roundDiv_cases (n d : Nat) :
  (2 * (n % d) < d ∧ roundDiv n d = n / d) ∨ (d < 2 * (n % d) ∧ roundDiv n d = n / d + 1)
    ∨ (2 * (n % d) = d ∧ 2 ∣ roundDiv n d ∧ (roundDiv n d = n / d ∨ roundDiv n d = n / d + 1))
  := by
  rw [roundDiv]
  split
  · next h => exact .inl ⟨h, rfl⟩
  · split
    · next h => exact .inr (.inl ⟨h, rfl⟩)
    · right
      right
      split <;> omega

/-- No multiple of the divisor is nearer than the rounded one, and another one is as near only if
the rounded one is even. -/
theorem natAbs_roundDiv (n k : Nat) {d : Nat} (hd : 0 < d) :
  (((roundDiv n d * d : Nat) : ℤ) - n).natAbs ≤ (((k * d : Nat) : ℤ) - n).natAbs
    ∧ (k ≠ roundDiv n d →
      (((k * d : Nat) : ℤ) - n).natAbs = (((roundDiv n d * d : Nat) : ℤ) - n).natAbs →
      2 ∣ roundDiv n d)
  := by
  have hn : n / d * d + n % d = n := Nat.div_add_mod' n d
  have hr : n % d < d := Nat.mod_lt n hd
  have hnext : (n / d + 1) * d = n / d * d + d := Nat.succ_mul _ _
  -- the other multiples are no nearer than those around the quotient
  have hbelow : k < n / d → (k + 1) * d ≤ n / d * d := fun h => Nat.mul_le_mul_right d h
  have habove : n / d + 1 < k → (n / d + 1 + 1) * d ≤ k * d := fun h => Nat.mul_le_mul_right d h
  rw [Nat.succ_mul] at hbelow
  rw [Nat.succ_mul, hnext] at habove
  have hk : k < n / d ∨ k = n / d ∨ k = n / d + 1 ∨ n / d + 1 < k := by omega
  rcases roundDiv_cases n d with ⟨h, heq⟩ | ⟨h, heq⟩ | ⟨h, heven, heq | heq⟩
  · rw [heq]
    rcases hk with hk | rfl | rfl | hk <;> omega
  · rw [heq]
    rcases hk with hk | rfl | rfl | hk <;> omega
  · rw [heq] at heven ⊢
    rcases hk with hk | rfl | rfl | hk <;> omega
  · rw [heq] at heven ⊢
    rcases hk with hk | rfl | rfl | hk <;> omega

/-! ### How a natural number is rounded -/

theorem magnitude_one {n : Nat} (hn : n ≠ 0) :
  magnitude n 1 = Nat.log2 n + 1
  := by
  have hle : 2 ^ Nat.log2 n ≤ n := Nat.log2_self_le hn
  have hone : Nat.log2 1 = 0 := by decide
  rw [magnitude, hone]
  rw [if_neg, Nat.cast_zero, sub_zero]
  rw [Nat.cast_zero, sub_zero, if_neg (by omega)]
  change ¬ n < 1 * 2 ^ Nat.log2 n
  omega

theorem mul_two_pow_lt {n : Nat} (h : Nat.log2 n < 52) :
  n * 2 ^ (52 - Nat.log2 n) < 2 ^ 53
  := by
  have hpow : (2 : Nat) ^ (Nat.log2 n + 1) * 2 ^ (52 - Nat.log2 n) = 2 ^ 53 := by
    rw [← Nat.pow_add]
    congr 1
    omega
  rw [← hpow]
  exact Nat.mul_lt_mul_of_pos_right Nat.lt_log2_self (Nat.two_pow_pos _)

/-- A number of at most 53 binary digits gets zeros behind it. -/
theorem ofNat_of_log2_lt {n : Nat} (hn : n ≠ 0) (h : Nat.log2 n < 52) :
  ofNat n = ⟨n * 2 ^ (52 - Nat.log2 n), -((52 - Nat.log2 n : Nat) : ℤ)⟩
  := by
  have hexponent : (Nat.log2 n + 1 - 53 : ℤ) = -((52 - Nat.log2 n : Nat) : ℤ) := by omega
  have habs : (-((52 - Nat.log2 n : Nat) : ℤ)).natAbs = 52 - Nat.log2 n := by omega
  have hround : ∀ k, roundDiv k 1 = k := by
    intro k
    rw [roundDiv, Nat.mod_one, Nat.div_one]
    rfl
  have hnormal : ¬ (Nat.log2 n + 1 : ℤ) < -1021 := by omega
  have hneg : -((52 - Nat.log2 n : Nat) : ℤ) < 0 := by omega
  have hshort : n * 2 ^ (52 - Nat.log2 n) ≠ 2 ^ 53 := (mul_two_pow_lt h).ne
  rw [ofNat, ratio, if_neg (by omega), magnitude_one hn, hexponent]
  simp only [if_neg hnormal, if_pos hneg, habs, hround, Nat.pow_eq, if_neg hshort]

/-- A number of more binary digits is rounded to 53 of them. -/
theorem ofNat_of_le_log2 {n : Nat} (h : 52 ≤ Nat.log2 n) :
  ofNat n = if roundDiv n (2 ^ (Nat.log2 n - 52)) = 2 ^ 53
    then ⟨2 ^ 52, ((Nat.log2 n - 52 : Nat) : ℤ) + 1⟩
    else ⟨roundDiv n (2 ^ (Nat.log2 n - 52)), ((Nat.log2 n - 52 : Nat) : ℤ)⟩
  := by
  have hn : n ≠ 0 := by
    rintro rfl
    exact absurd h (by decide)
  have hexponent : (Nat.log2 n + 1 - 53 : ℤ) = ((Nat.log2 n - 52 : Nat) : ℤ) := by omega
  have hnormal : ¬ (Nat.log2 n + 1 : ℤ) < -1021 := by omega
  have hnonneg : ¬ ((Nat.log2 n - 52 : Nat) : ℤ) < 0 := by omega
  rw [ofNat, ratio, if_neg (by omega), magnitude_one hn, hexponent]
  simp only [if_neg hnormal, if_neg hnonneg, Int.natAbs_natCast, Nat.pow_eq, Nat.one_mul]

/-! ### The nearest double -/

theorem isNearest_of_value_eq {x : Double} {q : ℚ} (hshort : x.mantissa < 2 ^ 53)
    (hvalue : x.value = q) :
  x.IsNearest q
  := by
  have hzero : |x.value - q| = 0 := by rw [hvalue, sub_self, abs_zero]
  constructor
  · exact hshort
  · intro y _
    rw [hzero]
    apply abs_nonneg
  · intro y _ hne hsame
    rw [hzero, abs_eq_zero, sub_eq_zero] at hsame
    exact absurd (hsame.trans hvalue.symm) hne

/-- The distance of a multiple from a number. -/
theorem abs_mul_sub (k d n : Nat) :
  |(k * d : ℚ) - n| = (((k * d : Nat) : ℤ) - n).natAbs
  := by
  rw [Nat.cast_natAbs, Int.cast_abs]
  push_cast
  rfl

/-- A double is a multiple of the power of two, or lies below the doubles that are. -/
theorem multiple_or_le {y : Double} (hy : y.mantissa < 2 ^ 53) (e : Nat) :
  (∃ k : Nat, y.value = k * (2 ^ e : Nat)) ∨ y.value ≤ (2 ^ 52 : Nat) * (2 ^ e : Nat)
  := by
  by_cases h : (e : ℤ) ≤ y.exponent
  · left
    obtain ⟨i, hi⟩ := Int.le.dest h
    use y.mantissa * 2 ^ i
    rw [value, ← hi, zpow_add₀ two_ne_zero, zpow_natCast, zpow_natCast]
    push_cast
    ring
  · right
    have hmantissa : (y.mantissa : ℚ) ≤ 2 ^ 53 := by exact_mod_cast hy.le
    have hexponent : (2 : ℚ) ^ y.exponent ≤ 2 ^ ((e : ℤ) - 1) :=
      zpow_le_zpow_right₀ one_le_two (by omega)
    have hpow : (2 : ℚ) ^ 53 * 2 ^ ((e : ℤ) - 1) = (2 ^ 52 : Nat) * (2 ^ e : Nat) := by
      rw [zpow_sub₀ two_ne_zero, zpow_natCast, zpow_one]
      push_cast
      ring
    rw [value, ← hpow]
    exact mul_le_mul hmantissa hexponent (by positivity) (by positivity)

/-- Below a number one gets further from it by going down. -/
theorem further_below {a b c : ℚ} (hab : a ≤ b) (hbc : b ≤ c) :
  |b - c| ≤ |a - c| ∧ (|a - c| = |b - c| → a = b)
  := by
  rw [abs_of_nonpos (sub_nonpos.mpr hbc), abs_of_nonpos (sub_nonpos.mpr (hab.trans hbc))]
  constructor
  · linarith
  · intro hsame
    linarith

/-- A multiple of a power of two with at least 2⁵² and at most 2⁵³ times this power is nearest if it
is the nearest multiple. -/
theorem isNearest_of_value_eq_roundDiv {x : Double} {n e : Nat} (hshort : x.mantissa < 2 ^ 53)
    (hvalue : x.value = roundDiv n (2 ^ e) * (2 ^ e : Nat))
    (heven : 2 ∣ roundDiv n (2 ^ e) → 2 ∣ x.mantissa) (hn : 2 ^ 52 * 2 ^ e ≤ n) :
  x.IsNearest n
  := by
  have hd : 0 < 2 ^ e := Nat.two_pow_pos e
  have hmultiple : ∀ k : Nat, |x.value - n| ≤ |((k : ℚ) * (2 ^ e : Nat)) - n| := by
    intro k
    rw [hvalue, abs_mul_sub, abs_mul_sub]
    exact_mod_cast (natAbs_roundDiv n k hd).1
  have htie : ∀ k : Nat, (k : ℚ) * (2 ^ e : Nat) ≠ x.value →
      |((k : ℚ) * (2 ^ e : Nat)) - n| = |x.value - n| → 2 ∣ x.mantissa := by
    intro k hne hsame
    rw [hvalue, abs_mul_sub, abs_mul_sub] at hsame
    apply heven
    apply (natAbs_roundDiv n k hd).2
    · rintro rfl
      exact hne hvalue.symm
    · exact_mod_cast hsame
  have hlow : (2 ^ 52 : Nat) * (2 ^ e : Nat) ≤ (n : ℚ) := by exact_mod_cast hn
  constructor
  · exact hshort
  · intro y hy
    rcases multiple_or_le hy e with ⟨k, hk⟩ | hle
    · rw [hk]
      apply hmultiple
    · exact (hmultiple (2 ^ 52)).trans (further_below hle hlow).1
  · intro y hy hne hsame
    rcases multiple_or_le hy e with ⟨k, hk⟩ | hle
    · rw [hk] at hne hsame
      exact htie k hne hsame
    · -- below the multiples only the least of them can be as near
      obtain ⟨hfurther, heq⟩ := further_below hle hlow
      have hleast : y.value = (2 ^ 52 : Nat) * (2 ^ e : Nat) := by
        apply heq
        apply le_antisymm _ hfurther
        rw [hsame]
        apply hmultiple
      rw [hleast] at hne hsame
      exact htie (2 ^ 52) hne hsame

/-- The rounded quotient of a number of many binary digits has 53 of them, or is 2⁵³. -/
theorem roundDiv_le {n : Nat} (h : 52 ≤ Nat.log2 n) :
  2 ^ 52 * 2 ^ (Nat.log2 n - 52) ≤ n ∧ roundDiv n (2 ^ (Nat.log2 n - 52)) ≤ 2 ^ 53
  := by
  have hn : n ≠ 0 := by
    rintro rfl
    exact absurd h (by decide)
  have hlow : 2 ^ 52 * 2 ^ (Nat.log2 n - 52) = 2 ^ Nat.log2 n := by
    rw [← Nat.pow_add]
    congr 1
    omega
  have hhigh : 2 ^ 53 * 2 ^ (Nat.log2 n - 52) = 2 ^ (Nat.log2 n + 1) := by
    rw [← Nat.pow_add]
    congr 1
    omega
  have hquotient : n / 2 ^ (Nat.log2 n - 52) < 2 ^ 53 := by
    rw [Nat.div_lt_iff_lt_mul (Nat.two_pow_pos _), hhigh]
    apply Nat.lt_log2_self
  constructor
  · rw [hlow]
    apply Nat.log2_self_le hn
  · rcases roundDiv_cases n (2 ^ (Nat.log2 n - 52)) with ⟨-, heq⟩ | ⟨-, heq⟩ | ⟨-, -, heq | heq⟩ <;>
      omega

/-- The double that is made of a natural number is the nearest one. -/
theorem isNearest_ofNat (n : Nat) :
  (ofNat n).IsNearest n
  := by
  by_cases hn : n = 0
  · rw [hn]
    apply isNearest_of_value_eq (by decide)
    rw [value]
    simp [ofNat, ratio]
  · by_cases hlog : Nat.log2 n < 52
    · rw [ofNat_of_log2_lt hn hlog]
      apply isNearest_of_value_eq (mul_two_pow_lt hlog)
      rw [value, zpow_neg, zpow_natCast, Nat.cast_mul, Nat.cast_pow, Nat.cast_ofNat, mul_assoc,
        mul_inv_cancel₀ (pow_ne_zero _ two_ne_zero), mul_one]
    · obtain ⟨hle, hround⟩ := roundDiv_le (Nat.le_of_not_lt hlog)
      rw [ofNat_of_le_log2 (Nat.le_of_not_lt hlog)]
      split
      · next hfull =>
        -- the rounded quotient takes one more binary digit, which is a zero
        have hshort : 2 ^ 52 < 2 ^ 53 := by decide
        have heven : 2 ∣ 2 ^ 52 := by decide
        apply isNearest_of_value_eq_roundDiv hshort _ (fun _ => heven) hle
        rw [value, hfull, zpow_add₀ two_ne_zero, zpow_natCast, zpow_one]
        push_cast
        ring
      · next hne =>
        have hlt := lt_of_le_of_ne hround hne
        apply isNearest_of_value_eq_roundDiv hlt _ id hle
        rw [value, zpow_natCast, Nat.cast_pow, Nat.cast_ofNat]

/-- A number up to 2⁵³ is a double. -/
theorem value_ofNat {n : Nat} (h : n ≤ 2 ^ 53) :
  (ofNat n).value = n
  := by
  obtain ⟨y, hshort, hvalue⟩ : ∃ y : Double, y.mantissa < 2 ^ 53 ∧ y.value = n := by
    rcases h.lt_or_eq with hlt | rfl
    · refine ⟨⟨n, 0⟩, hlt, ?_⟩
      rw [value, zpow_zero, mul_one]
    · refine ⟨⟨2 ^ 52, 1⟩, by decide, ?_⟩
      rw [value]
      norm_num
  have hle := (isNearest_ofNat n).le y hshort
  rw [hvalue, sub_self, abs_zero] at hle
  exact sub_eq_zero.mp (abs_eq_zero.mp (le_antisymm hle (abs_nonneg _)))

end Double

end LogCourier
