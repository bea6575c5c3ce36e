import LogCourier.Cursor
import LogCourier.QueryLog.Entry
import Mathlib.Data.List.Infix

/-!
# Entries in the order of their rows

A list of entries is ascending if every row is greater than the ones before it, and
descending if every row is less than the ones before it. The entries of a list beyond a
cursor are `above c l`; in a descending list they come first, so taking and dropping
entries commutes with passing to them (`above_take`, `above_drop`).
-/

namespace LogCourier

/-- The rows grow along the list. -/
def Ascending (l : List LogEntry) : Prop :=
  l.Pairwise fun a b => a.row < b.row

/-- The rows fall along the list. -/
def Descending (l : List LogEntry) : Prop :=
  l.Pairwise fun a b => b.row < a.row

instance (l : List LogEntry) : Decidable (Ascending l) :=
  inferInstanceAs (Decidable (l.Pairwise fun a b => a.row < b.row))

instance (l : List LogEntry) : Decidable (Descending l) :=
  inferInstanceAs (Decidable (l.Pairwise fun a b => b.row < a.row))

/-- The entries beyond a cursor. -/
def above (c : Cursor) (l : List LogEntry) : List LogEntry :=
  l.filter fun e => c.isBehind e.row

variable {c : Cursor} {e : LogEntry} {l l₁ l₂ : List LogEntry}

theorem Cursor.isBehind_iff {row : UInt64} :
  c.isBehind row = true ↔ c.row < row
  := decide_eq_true_iff

theorem descending_reverse :
  Descending l.reverse ↔ Ascending l
  := List.pairwise_reverse

theorem Descending.sublist (h : Descending l₂) (hl : l₁.Sublist l₂) :
  Descending l₁
  := List.Pairwise.sublist hl h

/-- The first entry of a descending list has the greatest row. -/
theorem Descending.row_le_head (h : Descending (e :: l)) :
  ∀ a ∈ e :: l, a.row ≤ e.row
  := by
  intro a ha
  rcases List.mem_cons.mp ha with rfl | ha
  · apply UInt64.le_refl
  · apply UInt64.le_of_lt
    apply (List.pairwise_cons.mp h).1 a ha

/-- The first entry of an ascending list has the least row. -/
theorem Ascending.head_le (h : Ascending (e :: l)) :
  ∀ a ∈ e :: l, e.row ≤ a.row
  := by
  intro a ha
  rcases List.mem_cons.mp ha with rfl | ha
  · apply UInt64.le_refl
  · apply UInt64.le_of_lt
    apply (List.pairwise_cons.mp h).1 a ha

/-- A descending list with rows beyond `lo` and up to `hi` has at most as many entries as
there are such rows. -/
theorem Descending.length_le {lo hi : UInt64} (h : Descending l)
    (hlo : ∀ a ∈ l, lo < a.row) (hhi : ∀ a ∈ l, a.row ≤ hi) :
  l.length ≤ hi.toNat - lo.toNat
  := by
  induction l generalizing hi with
  | nil => apply Nat.zero_le
  | cons e l ih =>
      obtain ⟨he, hl⟩ := List.pairwise_cons.mp h
      have hle := UInt64.le_iff_toNat_le.mp (hhi e List.mem_cons_self)
      have hlt := UInt64.lt_iff_toNat_lt.mp (hlo e List.mem_cons_self)
      have hrest : l.length ≤ e.row.toNat - 1 - lo.toNat := by
        have hpred : (e.row - 1).toNat = e.row.toNat - 1 := by
          apply UInt64.toNat_sub_of_le
          apply UInt64.le_iff_toNat_le.mpr
          change 1 ≤ e.row.toNat
          omega
        rw [← hpred]
        apply ih hl (fun a ha => hlo a (List.mem_cons_of_mem e ha))
        intro a ha
        have halt := UInt64.lt_iff_toNat_lt.mp (he a ha)
        apply UInt64.le_iff_toNat_le.mpr
        omega
      rw [List.length_cons]
      omega

/-- A prefix of an ascending list that ends with `e` holds every entry of the list with a
row up to that of `e`. -/
theorem Ascending.mem_of_isPrefix {p : List LogEntry} {a : LogEntry} (h : Ascending l)
    (hp : p <+: l) (he : p.getLast? = some e) (ha : a ∈ l) (hle : a.row ≤ e.row) :
  a ∈ p
  := by
  obtain ⟨rest, rfl⟩ := hp
  rcases List.mem_append.mp ha with hap | har
  · apply hap
  · obtain ⟨-, -, hcross⟩ := List.pairwise_append.mp h
    have hlt := hcross e (List.mem_of_getLast? he) a har
    exact absurd hle (UInt64.not_le.mpr hlt)

/-- Among the first `n` entries of a descending list are all entries not older than one of these. -/
theorem Descending.mem_take {n : Nat} {a : LogEntry} (h : Descending l) (ha : a ∈ l.take n)
    (he : e ∈ l) (hle : a.row ≤ e.row) :
  e ∈ l.take n
  := by
  rw [← List.take_append_drop n l] at h he
  rcases List.mem_append.mp he with hfirst | hlater
  · apply hfirst
  · have hlt := (List.pairwise_append.mp h).2.2 a ha e hlater
    exact absurd hle (UInt64.not_le.mpr hlt)

/-! ### Entries beyond a cursor -/

theorem mem_above :
  e ∈ above c l ↔ e ∈ l ∧ c.row < e.row
  := by
  rw [above, List.mem_filter, Cursor.isBehind_iff]

theorem above_append :
  above c (l₁ ++ l₂) = above c l₁ ++ above c l₂
  := List.filter_append l₁ l₂

theorem above_sublist :
  (above c l).Sublist l
  := List.filter_sublist

theorem above_eq_self (h : ∀ a ∈ l, c.row < a.row) :
  above c l = l
  := by
  apply List.filter_eq_self.mpr
  intro a ha
  apply Cursor.isBehind_iff.mpr (h a ha)

theorem Descending.above (h : Descending l) (c : Cursor) :
  Descending (above c l)
  := h.sublist above_sublist

/-- In a descending list nothing beyond the cursor follows an entry that is not. -/
theorem above_eq_nil_of_cons (h : Descending (e :: l)) (he : ¬ c.row < e.row) :
  above c l = []
  := by
  apply List.filter_eq_nil_iff.mpr
  intro a ha hb
  apply he
  apply UInt64.lt_trans (Cursor.isBehind_iff.mp hb)
  apply (List.pairwise_cons.mp h).1 a ha

theorem above_cons_of_lt (he : c.row < e.row) :
  above c (e :: l) = e :: above c l
  := List.filter_cons_of_pos (Cursor.isBehind_iff.mpr he)

theorem above_cons_of_not_lt (he : ¬ c.row < e.row) :
  above c (e :: l) = above c l
  := List.filter_cons_of_neg (mt Cursor.isBehind_iff.mp he)

theorem above_take (h : Descending l) (n : Nat) :
  above c (l.take n) = (above c l).take n
  := by
  induction l generalizing n with
  | nil => simp [above]
  | cons e l ih =>
      cases n with
      | zero => rfl
      | succ n =>
          rw [List.take_succ_cons]
          by_cases he : c.row < e.row
          · rw [above_cons_of_lt he, above_cons_of_lt he, List.take_succ_cons,
              ih (List.pairwise_cons.mp h).2]
          · rw [above_cons_of_not_lt he, above_cons_of_not_lt he, ih (List.pairwise_cons.mp h).2,
              above_eq_nil_of_cons h he, List.take_nil, List.take_nil]

theorem above_drop (h : Descending l) (n : Nat) :
  above c (l.drop n) = (above c l).drop n
  := by
  induction l generalizing n with
  | nil => simp [above]
  | cons e l ih =>
      cases n with
      | zero => rfl
      | succ n =>
          rw [List.drop_succ_cons, ih (List.pairwise_cons.mp h).2]
          by_cases he : c.row < e.row
          · rw [above_cons_of_lt he, List.drop_succ_cons]
          · rw [above_cons_of_not_lt he, above_eq_nil_of_cons h he, List.drop_nil, List.drop_nil]

/-- In a descending list the entries beyond the cursor come first. -/
theorem above_isPrefix (h : Descending l) :
  above c l <+: l
  := by
  have htake : above c (l.take (above c l).length) = above c l := by
    rw [above_take h, List.take_length]
  have hall : above c (l.take (above c l).length) = l.take (above c l).length := by
    apply above_sublist.eq_of_length
    rw [htake, List.length_take, Nat.min_eq_left above_sublist.length_le]
  rw [← htake, hall]
  apply List.take_prefix

/-- If one of the first `n` entries of a descending list is not beyond the cursor, then at
most `n` entries are. -/
theorem length_above_le {n : Nat} (h : Descending l) (he : e ∈ l.take n) (hc : ¬ c.row < e.row) :
  (above c l).length ≤ n
  := by
  by_contra hlt
  apply hc
  have htake := List.take_prefix n l
  have hpre : l.take n <+: above c l := by
    apply List.prefix_of_prefix_length_le htake (above_isPrefix h)
    apply Nat.le_trans (List.length_take_le n l)
    omega
  apply (mem_above.mp (hpre.mem he)).2

end LogCourier
