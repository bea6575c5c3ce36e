/-!
# Limits of a cycle

How much one cycle fetches and pushes at a time.
-/

namespace LogCourier

/-- The limits of one cycle: entries asked for per page, pages fetched, and entries per
push. Each of them is at least 1. -/
structure Limits where
  pageSize : UInt32
  pageCap : UInt32
  subBatchSize : UInt64
  one_le_pageSize : 1 ≤ pageSize
  one_le_pageCap : 1 ≤ pageCap
  one_le_subBatchSize : 1 ≤ subBatchSize

namespace Limits

/-- Pages fetched in a cycle unless configured otherwise. -/
def defaultPageCap : UInt32 := 10

/-- Entries per push unless configured otherwise. -/
def defaultSubBatchSize : UInt64 := 100

/-- The larger of a number and 1 is at least 1. -/
theorem one_le_max_one32 (n : UInt32) : 1 ≤ max n 1 := by
  change 1 ≤ if n ≤ 1 then 1 else n
  split
  · exact UInt32.le_refl 1
  · exact UInt32.le_of_lt (UInt32.not_le.1 ‹_›)

/-- The larger of a number and 1 is at least 1. -/
theorem one_le_max_one64 (n : UInt64) : 1 ≤ max n 1 := by
  change 1 ≤ if n ≤ 1 then 1 else n
  split
  · exact UInt64.le_refl 1
  · exact UInt64.le_of_lt (UInt64.not_le.1 ‹_›)

/-- The limits with the given numbers, each of them raised to 1 if it is 0. -/
def new (pageSize pageCap : UInt32) (subBatchSize : UInt64) : Limits where
  pageSize := max pageSize 1
  pageCap := max pageCap 1
  subBatchSize := max subBatchSize 1
  one_le_pageSize := one_le_max_one32 pageSize
  one_le_pageCap := one_le_max_one32 pageCap
  one_le_subBatchSize := one_le_max_one64 subBatchSize

end Limits

end LogCourier
