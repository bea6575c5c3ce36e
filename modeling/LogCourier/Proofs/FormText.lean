import LogCourier.Http.Message
import Mathlib.Tactic.Common

/-!
# Forms can be read back

The bytes of a text determine the text (`Utf8.bytes_injective`), and a form field can be read back
(`unescape_formField`): percent signs, plus signs and the characters that stand for themselves do
not get into each other's way. So a form determines its values, and the text of an address to
which a form was added determines the form (`Url.text_addQuery`).
-/

namespace LogCourier

namespace Utf8

theorem toNat_lt (c : Char) :
  c.toNat < 0x110000
  := by
  rcases c.valid with h | ⟨-, h⟩
  · exact Nat.lt_trans h (by decide)
  · exact h

/-- The bytes of a character are those of the library. -/
theorem encodeChar_eq (c : Char) :
  encodeChar c = String.utf8EncodeChar c
  := by
  have hc := toNat_lt c
  have hval : c.val.toNat = c.toNat := rfl
  rw [encodeChar, String.utf8EncodeChar]
  simp only [hval]
  generalize c.toNat = n at hc ⊢
  -- in each range of code points the two forms of the lead byte agree
  by_cases h₁ : n < 0x80
  · rw [if_pos h₁, if_pos (show n ≤ 127 by omega)]
  · rw [if_neg h₁, if_neg (show ¬ n ≤ 127 by omega)]
    have hlast : 0x80 + n % 0x40 = n % 64 + 128 := by omega
    by_cases h₂ : n < 0x800
    · have hlead : 0xc0 + n / 0x40 = n / 64 % 32 + 192 := by omega
      rw [if_pos h₂, if_pos (show n ≤ 2047 by omega), hlead, hlast]
    · rw [if_neg h₂, if_neg (show ¬ n ≤ 2047 by omega)]
      have hmiddle : 0x80 + n / 0x40 % 0x40 = n / 64 % 64 + 128 := by omega
      by_cases h₃ : n < 0x10000
      · have hlead : 0xe0 + n / 0x1000 = n / 4096 % 16 + 224 := by omega
        rw [if_pos h₃, if_pos (show n ≤ 65535 by omega), hlead, hmiddle, hlast]
      · have hlead : 0xf0 + n / 0x40000 = n / 262144 % 8 + 240 := by omega
        have hsecond : 0x80 + n / 0x1000 % 0x40 = n / 4096 % 64 + 128 := by omega
        rw [if_neg h₃, if_neg (show ¬ n ≤ 65535 by omega), hlead, hsecond, hmiddle, hlast]

theorem toByteArray_bytes (s : String) :
  (bytes s).toByteArray = s.toByteArray
  := by
  have hencode : encodeChar = String.utf8EncodeChar := funext encodeChar_eq
  rw [bytes, encode, hencode, ← String.utf8Encode_toList]
  rfl

/-- The bytes of a text determine it. -/
theorem bytes_injective {s t : String} (h : bytes s = bytes t) :
  s = t
  := by
  apply String.toByteArray_inj.mp
  rw [← toByteArray_bytes, h, toByteArray_bytes]

end Utf8

namespace Http

/-! ### Form fields -/

theorem hexValue?_hexDigit {n : Nat} (h : n < 16) :
  hexValue? (hexDigit n) = some n
  := by
  revert n
  decide

theorem unescape_percent (plus : Bool) (b : UInt8) (cs : List Char) :
  unescape plus (percent b ++ cs) = b :: unescape plus cs
  := by
  have hb := b.toNat_lt
  have hvalue : 16 * (b.toNat / 16) + b.toNat % 16 = b.toNat := by omega
  rw [percent, List.cons_append, List.cons_append, List.cons_append, List.nil_append, unescape,
    hexValue?_hexDigit (by omega), hexValue?_hexDigit (by omega)]
  simp only [hvalue, UInt8.ofNat_toNat]

/-- A character that is no percent sign and no plus sign stands for itself. -/
theorem unescape_cons {c : Char} (hc : c ≠ '%') (hc' : c ≠ '+') (cs : List Char) :
  unescape true (c :: cs) = Utf8.encodeChar c ++ unescape true cs
  := by
  rw [unescape]
  · rw [if_neg fun h => hc' h.1]
  · rintro a b rest rfl
    exact absurd rfl hc

/-- What a byte is written as in a form field. -/
inductive Written : UInt8 → List Char → Prop
  | space : Written 0x20 ['+']
  | literal {b : UInt8} {c : Char} (hc : c ≠ '%') (hc' : c ≠ '+') (hb : Utf8.encodeChar c = [b]) :
      Written b [c]
  | percent (b : UInt8) : Written b (percent b)

/-- The characters that are kept in a form field stand for themselves. -/
theorem literal_of_kept {n : Nat} (hn : n < 256)
    (hkept : (Char.ofNat n).isAlphanum ∨ Char.ofNat n = '*' ∨ Char.ofNat n = '-'
      ∨ Char.ofNat n = '.' ∨ Char.ofNat n = '_') :
  Char.ofNat n ≠ '%' ∧ Char.ofNat n ≠ '+' ∧ Utf8.encodeChar (Char.ofNat n) = [.ofNat n]
  := by
  revert n
  decide +kernel

theorem written_formByte (b : UInt8) :
  Written b (formByte b)
  := by
  rw [formByte]
  split
  · next h =>
    subst h
    apply Written.space
  · split
    · next h =>
      obtain ⟨hc, hc', hb⟩ := literal_of_kept b.toNat_lt h
      rw [UInt8.ofNat_toNat] at hb
      apply Written.literal hc hc' hb
    · apply Written.percent

/-- What a byte is written as can be read back, whatever follows. -/
theorem unescape_formByte (b : UInt8) (cs : List Char) :
  unescape true (formByte b ++ cs) = b :: unescape true cs
  := by
  have hb := written_formByte b
  generalize formByte b = w at hb ⊢
  cases hb with
  | space => rfl
  | literal hc hc' hb =>
      rw [List.singleton_append, unescape_cons hc hc', hb]
      rfl
  | percent => apply unescape_percent

/-- A form field can be read back, whatever follows. -/
theorem unescape_formField (s : String) (cs : List Char) :
  unescape true (formField s ++ cs) = Utf8.bytes s ++ unescape true cs
  := by
  rw [formField]
  induction Utf8.bytes s with
  | nil => rfl
  | cons b bs ih =>
      rw [List.flatMap_cons, List.append_assoc, unescape_formByte, ih, List.cons_append]

/-- A form field determines its text. -/
theorem formField_injective {s t : String} (h : formField s = formField t) :
  s = t
  := by
  apply Utf8.bytes_injective
  have hs := unescape_formField s []
  rw [h, unescape_formField] at hs
  exact (List.append_cancel_right hs).symm

/-! ### Forms -/

/-- A form determines its first value, if the rest of it is known. -/
theorem form_injective {name a b : String} {pairs : List (String × String)}
    (h : form ((name, a) :: pairs) = form ((name, b) :: pairs)) :
  a = b
  := by
  apply formField_injective
  cases pairs with
  | nil => simpa [form] using h
  | cons p pairs => simpa [form] using h

/-- The text of an address with a form added to it determines the form. -/
theorem Url.text_addQuery {u : Url} {ps qs : List (String × String)}
    (h : (u.addQuery ps).text = (u.addQuery qs).text) :
  form ps = form qs
  := by
  have htarget : (u.addQuery ps).target = (u.addQuery qs).target := by
    apply String.append_right_inj _ |>.mp h
  have hquery := List.append_cancel_left (String.ofList_injective htarget)
  simp only [addQuery, List.cons.injEq, true_and] at hquery
  split at hquery
  · apply List.cons.inj (List.append_cancel_left hquery) |>.2
  · apply hquery

/-- The wording of a request without a reply determines the text of its address. -/
theorem Fault.text_unsent {kind : FaultKind} {u v : Url}
    (h : (Fault.unsent kind u).detail = (Fault.unsent kind v).detail) :
  u.text = v.text
  := by
  simpa [unsent] using h

end Http

end LogCourier
