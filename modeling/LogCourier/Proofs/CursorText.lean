import LogCourier.Cursor
import LogCourier.Proofs.Numerals
import LogCourier.Proofs.Trimming
import Mathlib.Tactic.Common

/-!
# The text of a cursor

A text names a cursor if and only if the core of it, without the blank characters at either end, is
the numeral of a row (`Cursor.parse?_eq_some_iff`). The text of a cursor is such a numeral, and so
the cursor is read back from it, whatever blank characters stand around it
(`Cursor.reads_numerals`).
-/

namespace LogCourier

namespace Cursor

theorem toList_text (c : Cursor) :
  c.text.toList = Decimal.digits c.row.toNat
  := String.toList_ofList

theorem isBlank_of_mem_digits {n : Nat} {c : Char} (h : c ∈ Decimal.digits n) :
  Text.isBlank c = false
  := Text.isBlank_of_isDigit (Nat.isDigit_of_mem_toDigits (by decide) (by decide) h)

variable {s : String} {c : Cursor}

/-- A text names a cursor if and only if its core is a numeral of the row. -/
theorem parse?_eq_some_iff :
  parse? s = some c ↔ ∃ core, Text.IsCore s.toList core ∧ Decimal.Spells core c.row.toNat
  := by
  have hread : (∃ core, Text.IsCore s.toList core ∧ Decimal.Spells core c.row.toNat)
      ↔ Decimal.readBelow UInt64.size (Text.trimChars s.toList) = .ok c.row.toNat := by
    rw [Decimal.readBelow_eq_ok_iff (by decide), and_iff_left c.row.toNat_lt_size]
    simp only [Text.isCore_iff, exists_eq_left]
  rw [hread, parse?]
  cases h : Decimal.readBelow UInt64.size (Text.trimChars s.toList) with
  | error fault => exact iff_of_false nofun nofun
  | ok n =>
      have hlt := ((Decimal.readBelow_eq_ok_iff (by decide)).mp h).2
      rw [Option.some.injEq, Except.ok.injEq]
      constructor
      · rintro rfl
        exact (UInt64.toNat_ofNat_of_lt' hlt).symm
      · rintro rfl
        rw [UInt64.ofNat_toNat]

/-- The row that a text names is a numeral's value below the limit. -/
theorem row_parse?_eq_some_iff {n : Nat} :
  (parse? s).map (fun c => c.row.toNat) = some n
    ↔ (∃ core, Text.IsCore s.toList core ∧ Decimal.Spells core n) ∧ n < UInt64.size
  := by
  simp only [Option.map_eq_some_iff, parse?_eq_some_iff]
  constructor
  · rintro ⟨c, hcore, rfl⟩
    exact ⟨hcore, c.row.toNat_lt_size⟩
  · rintro ⟨hcore, hn⟩
    have hrow : (UInt64.ofNat n).toNat = n := UInt64.toNat_ofNat_of_lt' hn
    exact ⟨⟨.ofNat n⟩, by rwa [hrow], hrow⟩

/-- A text names no cursor if and only if no numeral of a row is its core. -/
theorem parse?_eq_none_iff :
  parse? s = none
    ↔ ∀ core n, Text.IsCore s.toList core → Decimal.Spells core n → UInt64.size ≤ n
  := by
  constructor
  · intro hnone core n hcore hn
    by_contra! hlt
    have hsome := row_parse?_eq_some_iff.mpr ⟨⟨core, hcore, hn⟩, hlt⟩
    rw [hnone] at hsome
    cases hsome
  · intro hall
    cases hparse : parse? s with
    | none => rfl
    | some c =>
        obtain ⟨core, hcore, hn⟩ := parse?_eq_some_iff.mp hparse
        exact absurd (hall core _ hcore hn) (Nat.not_le_of_lt c.row.toNat_lt_size)

theorem spells_text (c : Cursor) :
  Decimal.Spells c.text.toList c.row.toNat
  := by
  rw [toList_text]
  apply Decimal.spells_digits

/-- A cursor is read from its text between blank characters. -/
theorem parse?_append_text_append (c : Cursor) (before after : String)
    (hbefore : ∀ x ∈ before.toList, Text.isBlank x = true)
    (hafter : ∀ x ∈ after.toList, Text.isBlank x = true) :
  parse? (before ++ c.text ++ after) = some c
  := by
  have hnone : ∀ x ∈ c.text.toList, Text.isBlank x = false := by
    intro x hx
    rw [toList_text] at hx
    apply isBlank_of_mem_digits hx
  apply parse?_eq_some_iff.mpr
  refine ⟨c.text.toList, ?_, spells_text c⟩
  rw [String.toList_append, String.toList_append]
  exact ⟨_, _, rfl, hbefore, hafter, fun x hx => hnone x (List.mem_of_mem_head? hx),
    fun x hx => hnone x (List.mem_of_mem_getLast? hx)⟩

/-- A cursor is read from its text. -/
theorem parse?_text (c : Cursor) :
  parse? c.text = some c
  := by
  have hread := parse?_append_text_append c "" "" nofun nofun
  rwa [String.append_empty, String.empty_append] at hread

theorem text_injective :
  Function.Injective text
  := by
  intro c c' h
  have hc := parse?_text c
  rw [h, parse?_text] at hc
  exact (Option.some.inj hc).symm

/-- **The text form of a cursor.** A text names the row `n` if and only if, without the blank
characters at either end, it is an optional plus sign and one or more digits with the value `n`, and
this is below 2⁶⁴; a text that is no such numeral names no row. So a cursor is read back from its
text between any blank characters, and no two cursors have the same text. -/
theorem reads_numerals :
  (∀ (s : String) (n : Nat), (parse? s).map (fun c => c.row.toNat) = some n
      ↔ (∃ core, Text.IsCore s.toList core ∧ Decimal.Spells core n) ∧ n < UInt64.size)
    ∧ (∀ s, parse? s = none ↔ ∀ core n, Text.IsCore s.toList core → Decimal.Spells core n →
      UInt64.size ≤ n)
    ∧ (∀ (c : Cursor) (before after : String), (∀ x ∈ before.toList, Text.isBlank x = true) →
      (∀ x ∈ after.toList, Text.isBlank x = true) → parse? (before ++ c.text ++ after) = some c)
    ∧ Function.Injective text
  := ⟨fun _ _ => row_parse?_eq_some_iff, fun _ => parse?_eq_none_iff, parse?_append_text_append,
    text_injective⟩

/-- The largest row is named between blank characters of several scripts, also with a sign and with
zeros in front; the number after it is none. -/
theorem reads_numerals_of_largest :
  let largest : Cursor := ⟨18446744073709551615⟩
  (∀ x ∈ "\u2003\t".toList, Text.isBlank x = true) ∧ (∀ x ∈ "\x85\n".toList, Text.isBlank x = true)
    ∧ parse? ("\u2003\t" ++ largest.text ++ "\x85\n") = some largest
    ∧ (parse? " +00018446744073709551615\n").map (fun c => c.row.toNat) = some 18446744073709551615
    ∧ parse? "18446744073709551616" = none
  := by
  intro largest
  have hbefore : ∀ x ∈ "\u2003\t".toList, Text.isBlank x = true :=
    List.all_eq_true.mp rfl
  have hafter : ∀ x ∈ "\x85\n".toList, Text.isBlank x = true :=
    List.all_eq_true.mp rfl
  obtain ⟨hnamed, -, hpadded, -⟩ := reads_numerals
  refine ⟨hbefore, hafter, hpadded largest _ _ hbefore hafter, ?_, ?_⟩
  · rw [hnamed]
    refine ⟨⟨"+00018446744073709551615".toList, ?_, ?_⟩, by decide⟩
    · exact Text.isCore_iff.mpr (by decide)
    · exact ⟨"00018446744073709551615".toList, .inr rfl, by decide, List.all_eq_true.mp rfl,
        by decide⟩
  · decide +kernel

end Cursor

end LogCourier
