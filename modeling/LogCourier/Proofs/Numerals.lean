import LogCourier.Text.Decimal
import Mathlib.Tactic.Common

/-!
# Numerals

Which texts name a number: a numeral is an optional plus sign and one or more digits
(`Decimal.Spells`). The reader of numbers below a limit accepts the numerals of such numbers and
nothing else (`Decimal.readBelow_eq_ok_iff`): leading zeros do no harm, and the limit is never
passed on the way to a number below it. Among the numerals are the digits that a number is written
with (`Decimal.spells_digits`).
-/

namespace LogCourier.Decimal

/-- The characters are an optional plus sign and one or more digits with the value `n`. -/
def Spells (cs : List Char) (n : Nat) : Prop :=
  ∃ ds, (cs = ds ∨ cs = '+' :: ds) ∧ ds ≠ [] ∧ (∀ c ∈ ds, c.isDigit = true)
    ∧ Nat.ofDigitChars 10 ds 0 = n

variable {limit m n : Nat} {c : Char} {cs : List Char}

theorem digitValue?_of_isDigit (h : c.isDigit = true) :
  digitValue? c = some (c.toNat - '0'.toNat)
  := if_pos (Char.isDigit_iff_toNat.mp h)

theorem digitValue?_of_not_isDigit (h : c.isDigit = false) :
  digitValue? c = none
  := by
  apply if_neg
  intro hdigit
  cases h.symm.trans (Char.isDigit_iff_toNat.mpr hdigit)

/-- More digits do not make a number smaller. -/
theorem le_ofDigitChars (cs : List Char) (m : Nat) :
  m ≤ Nat.ofDigitChars 10 cs m
  := by
  rw [Nat.ofDigitChars_eq_ofDigitChars_zero]
  have hpow : 1 * m ≤ 10 ^ cs.length * m := Nat.mul_le_mul_right m (Nat.one_le_pow _ 10 (by decide))
  omega

/-- Digits are read if and only if the number that they come to is below the limit. -/
theorem readDigits_eq_ok_iff (hm : m < limit) :
  readDigits limit m cs = .ok n
    ↔ (∀ c ∈ cs, c.isDigit = true) ∧ Nat.ofDigitChars 10 cs m = n ∧ n < limit
  := by
  induction cs generalizing m with
  | nil =>
      rw [readDigits, Except.ok.injEq, Nat.ofDigitChars_nil]
      constructor
      · rintro rfl
        exact ⟨List.forall_mem_nil _, rfl, hm⟩
      · rintro ⟨-, rfl, -⟩
        rfl
  | cons c cs ih =>
      rw [readDigits, Nat.ofDigitChars_cons, List.forall_mem_cons]
      cases hc : c.isDigit with
      | false =>
          rw [digitValue?_of_not_isDigit hc]
          simp
      | true =>
          rw [digitValue?_of_isDigit hc]
          dsimp only
          split
          · next hlt =>
            rw [ih hlt]
            simp
          · next hge =>
            have hle := le_ofDigitChars cs (10 * m + (c.toNat - '0'.toNat))
            constructor
            · nofun
            · rintro ⟨-, hn, hlt⟩
              omega

/-- The reader of numbers below a limit accepts their numerals and nothing else. -/
theorem readBelow_eq_ok_iff (hlimit : 0 < limit) :
  readBelow limit cs = .ok n ↔ Spells cs n ∧ n < limit
  := by
  have hplus : ('+').isDigit = false := rfl
  rw [readBelow.eq_def]
  split
  · constructor
    · nofun
    · rintro ⟨⟨ds, hcs | hcs, hne, -, -⟩, -⟩
      · exact absurd hcs.symm hne
      · cases hcs
  · constructor
    · nofun
    · rintro ⟨⟨ds, hcs | hcs, hne, hdigits, -⟩, -⟩
      · subst hcs
        cases hplus.symm.trans (hdigits _ List.mem_cons_self)
      · cases hcs
        exact absurd rfl hne
  · next ds hne =>
    rw [readDigits_eq_ok_iff hlimit]
    constructor
    · rintro ⟨hdigits, hn, hlt⟩
      exact ⟨⟨ds, .inr rfl, fun h => hne h, hdigits, hn⟩, hlt⟩
    · rintro ⟨⟨es, hcs | hcs, -, hdigits, hn⟩, hlt⟩
      · subst hcs
        cases hplus.symm.trans (hdigits _ List.mem_cons_self)
      · cases hcs
        exact ⟨hdigits, hn, hlt⟩
  · next ds hnil hplus' hsign =>
    rw [readDigits_eq_ok_iff hlimit]
    constructor
    · rintro ⟨hdigits, hn, hlt⟩
      exact ⟨⟨_, .inl rfl, fun h => hnil h, hdigits, hn⟩, hlt⟩
    · rintro ⟨⟨es, hcs | hcs, -, hdigits, hn⟩, hlt⟩
      · subst hcs
        exact ⟨hdigits, hn, hlt⟩
      · exact absurd hcs (hsign es)

/-- The digits of a number spell it. -/
theorem spells_digits (n : Nat) :
  Spells (digits n) n
  := ⟨digits n, .inl rfl, Nat.toDigits_ne_nil, fun _ => Nat.isDigit_of_mem_toDigits (by decide)
      (by decide), Nat.ofDigitChars_ten_toDigits⟩

end LogCourier.Decimal
