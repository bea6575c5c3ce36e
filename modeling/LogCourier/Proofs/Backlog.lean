import LogCourier.Proofs.GrowingLog
import LogCourier.Proofs.Reconciliation
import Mathlib.Algebra.Order.Floor.Div

/-!
# The numbers of a backlog

A backlog is sized in machine words: the rows pending are a difference of two rows, the pages that
hold them a quotient that is rounded up and narrowed to 32 bits, and the rows that these pages hold
a product of two numbers of 32 bits. No word is too short for what it is to hold
(`toNat_pagesHolding`, `toUInt64_pagesToFetch`, `toNat_capacity`, `toNat_first`), so that the
pages to fetch and the rows out of reach are the exact numbers (`toNat_pages`, `toNat_beyond`).
-/

namespace LogCourier

namespace Reconciliation

variable {limits : Limits} {c : Cursor} {row pending : UInt64} {size : UInt32} {n : Nat}

/-! ### Words -/

/-- A quotient rounded up is one more than the quotient if the division leaves a rest. -/
theorem ceilDiv_eq_ite {d : Nat} (hd : 0 < d) :
  n ⌈/⌉ d = if 0 < n % d then n / d + 1 else n / d
  := by
  have hn := Nat.div_add_mod n d
  have hrest := Nat.mod_lt n hd
  rw [Nat.ceilDiv_eq_add_pred_div]
  generalize n / d = q at hn ⊢
  generalize n % d = r at hn hrest ⊢
  subst hn
  rw [Nat.add_assoc, Nat.add_sub_assoc (by omega), Nat.mul_add_div hd]
  split
  · have hsum : r + d - 1 = d + (r - 1) := by omega
    rw [hsum, Nat.add_div_left _ hd, Nat.div_eq_of_lt (by omega)]
  · rw [Nat.div_eq_of_lt (by omega), Nat.add_zero]

/-- The pages that hold the pending rows are counted by a quotient rounded up. The one that is
added for a rest fits in the word: with a rest the quotient is less than the number of rows. -/
theorem toNat_pagesHolding (hsize : 0 < size.toNat) :
  (pagesHolding pending size).toNat = pending.toNat ⌈/⌉ size.toNat
  := by
  have hword : (max size 1).toUInt64.toNat = size.toNat := by
    rw [UInt32.toNat_toUInt64, UInt32.toNat_max]
    apply Nat.max_eq_left hsize
  have hrest : 0 < pending % (max size 1).toUInt64 ↔ 0 < pending.toNat % size.toNat := by
    rw [UInt64.lt_iff_toNat_lt, UInt64.toNat_mod, hword, UInt64.toNat_zero]
  have hquotient : (pending / (max size 1).toUInt64).toNat = pending.toNat / size.toNat := by
    rw [UInt64.toNat_div, hword]
  rw [pagesHolding, ceilDiv_eq_ite hsize]
  by_cases h : 0 < pending.toNat % size.toNat
  · have hle : pending.toNat / size.toNat ≤ size.toNat * (pending.toNat / size.toNat) :=
      Nat.le_mul_of_pos_left _ hsize
    have hlt := pending.toNat_lt
    have hpending := Nat.div_add_mod pending.toNat size.toNat
    rw [if_pos (hrest.mpr h), if_pos h, UInt64.toNat_add, hquotient, UInt64.toNat_one]
    apply Nat.mod_eq_of_lt
    omega
  · rw [if_neg (mt hrest.mp h), if_neg h, hquotient]

/-- What is narrowed to 32 bits is no more than the cap, which has no more. -/
theorem toUInt64_pagesToFetch (pending : UInt64) (size cap : UInt32) :
  (pagesToFetch pending size cap).toUInt64 = min (pagesHolding pending size) cap.toUInt64
  := by
  rw [pagesToFetch, UInt64.toUInt64_toUInt32]
  apply UInt64.mod_eq_of_lt
  rw [UInt64.lt_iff_toNat_lt, UInt64.toNat_min, UInt32.toNat_toUInt64]
  apply Nat.lt_of_le_of_lt (Nat.min_le_right _ _) cap.toNat_lt

/-- The product of two words fits in one of twice the length. -/
theorem toNat_capacity (pages size : UInt32) :
  (capacity pages size).toNat = pages.toNat * size.toNat
  := by
  rw [capacity, UInt64.toNat_mul, UInt32.toNat_toUInt64, UInt32.toNat_toUInt64]
  apply Nat.mod_eq_of_lt
  apply Nat.mul_lt_mul'' pages.toNat_lt size.toNat_lt

theorem toNat_unharvested (pages size : UInt32) :
  (unharvested pending pages size).toNat = pending.toNat - pages.toNat * size.toNat
  := by
  rw [unharvested, ← toNat_capacity]
  split
  · next h => exact UInt64.toNat_sub_of_le _ _ (UInt64.le_of_lt h)
  · next h =>
    rw [UInt64.toNat_zero]
    symm
    apply Nat.sub_eq_zero_of_le
    exact UInt64.le_iff_toNat_le.mp (UInt64.not_lt.mp h)

/-! ### Numbers -/

/-- The pages that are fetched at most for a number of pending rows: as many as hold the rows,
but no more than allowed. -/
def pageBudget (limits : Limits) (pending : Nat) : Nat :=
  min (pending ⌈/⌉ limits.pageSize.toNat) limits.pageCap.toNat

theorem toNat_pagesToFetch :
  (pagesToFetch pending limits.pageSize limits.pageCap).toNat = pageBudget limits pending.toNat
  := by
  rw [← UInt32.toNat_toUInt64, toUInt64_pagesToFetch, UInt64.toNat_min, UInt32.toNat_toUInt64,
    toNat_pagesHolding (pageSize_pos limits), pageBudget]

theorem isLeast_ceilDiv {d : Nat} (hd : 0 < d) :
  IsLeast {p | n ≤ p * d} (n ⌈/⌉ d)
  := by
  simp only [Nat.mul_comm _ d]
  apply (gc_mul_ceilDiv hd).isLeast_l

theorem pageBudget_pos (hn : 0 < n) :
  0 < pageBudget limits n
  := by
  apply Nat.lt_min.mpr
  constructor
  · apply Nat.pos_of_ne_zero
    intro hzero
    have hle := (ceilDiv_le_iff_le_mul (pageSize_pos limits)).mp (Nat.le_of_eq hzero)
    omega
  · exact UInt32.le_iff_toNat_le.mp limits.one_le_pageCap

/-- What the pages fetched do not hold is what all allowed pages do not hold. -/
theorem sub_pageBudget_mul :
  n - pageBudget limits n * limits.pageSize.toNat
    = n - limits.pageSize.toNat * limits.pageCap.toNat
  := by
  rcases Nat.le_total (n ⌈/⌉ limits.pageSize.toNat) limits.pageCap.toNat with h | h
  · rw [pageBudget, Nat.min_eq_left h, Nat.sub_eq_zero_of_le, Nat.sub_eq_zero_of_le]
    · exact (ceilDiv_le_iff_le_mul (pageSize_pos limits)).mp h
    · exact (isLeast_ceilDiv (pageSize_pos limits)).1
  · rw [pageBudget, Nat.min_eq_right h, Nat.mul_comm]

/-- The rows pending are a difference that is not negative. -/
theorem toNat_pending (h : c.row < row) :
  (row - c.row).toNat = row.toNat - c.row.toNat
  := UInt64.toNat_sub_of_le _ _ (UInt64.le_of_lt h)

/-- A cursor with a row beyond it is not at the end of the word. -/
theorem toNat_first (h : c.row < row) :
  (c.row + 1).toNat = c.row.toNat + 1
  := by
  have hlt := UInt64.lt_iff_toNat_lt.mp h
  have hrow := row.toNat_lt
  rw [UInt64.toNat_add, UInt64.toNat_one]
  apply Nat.mod_eq_of_lt
  omega

/-- The rows out of reach are those that the allowed pages do not hold. -/
theorem toNat_beyond (h : c.row < row) :
  (unharvested (row - c.row) (pages limits c row) limits.pageSize).toNat
    = row.toNat - c.row.toNat - limits.pageSize.toNat * limits.pageCap.toNat
  := by
  rw [toNat_unharvested, pages, toNat_pagesToFetch, sub_pageBudget_mul, toNat_pending h]

theorem toNat_pages (h : c.row < row) :
  (pages limits c row).toNat = pageBudget limits (row.toNat - c.row.toNat)
  := by
  rw [pages, toNat_pagesToFetch, toNat_pending h]

end Reconciliation

end LogCourier
