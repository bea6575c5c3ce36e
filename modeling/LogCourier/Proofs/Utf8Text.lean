import LogCourier.Proofs.FormText
import Mathlib.Tactic.IntervalCases

/-!
# Text through bytes

The glyphs of the bytes of some characters are the characters (`Utf8.glyphs_encode`), so every
text is read back from its bytes (`Utf8.decode?_bytes`).
-/

namespace LogCourier.Utf8

variable {m n : Nat} {bs : List UInt8}

/-! ### Lead bytes -/

theorem lead?_two (hlow : 2 ≤ m) (hhigh : m < 32) :
  lead? (.ofNat (0xc0 + m)) = some ⟨1, m, 0x80, 0xbf⟩
  := by
  interval_cases m <;> rfl

/-- The ranges after a lead byte leave out what has a shorter form and the surrogates. -/
theorem lead?_three (h : m < 16) :
  lead? (.ofNat (0xe0 + m))
    = some ⟨2, m, if m = 0 then 0xa0 else 0x80, if m = 13 then 0x9f else 0xbf⟩
  := by
  interval_cases m <;> rfl

theorem lead?_four (h : m < 5) :
  lead? (.ofNat (0xf0 + m))
    = some ⟨3, m, if m = 0 then 0x90 else 0x80, if m = 4 then 0x8f else 0xbf⟩
  := by
  interval_cases m <;> rfl

/-! ### Characters -/

theorem continuation_cons {count acc low high x : Nat} (hlow : low ≤ x) (hhigh : x ≤ high)
    (hx : x < 256) :
  continuation (count + 1) acc low high (.ofNat x :: bs)
    = ((continuation count (acc * 0x40 + x % 0x40) 0x80 0xbf bs).1,
        (continuation count (acc * 0x40 + x % 0x40) 0x80 0xbf bs).2 + 1)
  := by
  have hbyte : (UInt8.ofNat x).toNat = x := UInt8.toNat_ofNat_of_lt' hx
  rw [continuation, hbyte, if_pos ⟨hlow, hhigh⟩]

/-- A continuation byte after the first may be any. -/
theorem continuation_rest {count acc : Nat} (x : Nat) :
  continuation (count + 1) acc 0x80 0xbf (.ofNat (0x80 + x % 0x40) :: bs)
    = ((continuation count (acc * 0x40 + x % 0x40) 0x80 0xbf bs).1,
        (continuation count (acc * 0x40 + x % 0x40) 0x80 0xbf bs).2 + 1)
  := by
  have hshare : (0x80 + x % 0x40) % 0x40 = x % 0x40 := by omega
  rw [continuation_cons (by omega) (by omega) (by omega), hshare]

/-- A lead byte with its continuation bytes is one glyph. -/
theorem glyphs_of_lead {b : UInt8} {l : Lead} (hb : 0x80 ≤ b.toNat) (hl : lead? b = some l)
    (hpoint : continuation l.count l.share l.low l.high bs = (some n, l.count)) :
  glyphs (b :: bs) = some (Char.ofNat n) :: glyphs (bs.drop l.count)
  := by
  have hfirst : firstGlyph b bs = (some (Char.ofNat n), l.count) := by
    rw [firstGlyph, if_neg (Nat.not_lt_of_le hb), hl]
    dsimp only
    rw [hpoint]
    rfl
  rw [glyphs, hfirst]

/-- The bytes of a character are read as this character. -/
theorem glyphs_encodeChar (c : Char) (bs : List UInt8) :
  glyphs (encodeChar c ++ bs) = some c :: glyphs bs
  := by
  have hchar : Char.ofNat c.toNat = c := Char.ofNat_toNat c
  have hc := toNat_lt c
  have hsurrogate : c.toNat < 0xd800 ∨ 0xdfff < c.toNat := by
    rcases c.valid with h | ⟨h, -⟩
    · exact .inl h
    · exact .inr h
  have hlead : ∀ k, k < 256 → 0x80 ≤ k → 0x80 ≤ (UInt8.ofNat k).toNat := by
    intro k hk hle
    rwa [UInt8.toNat_ofNat_of_lt' hk]
  rw [encodeChar]
  generalize c.toNat = n at hchar hc hsurrogate ⊢
  split
  · next h₁ =>
    have hbyte : (UInt8.ofNat n).toNat = n := UInt8.toNat_ofNat_of_lt' (Nat.lt_trans h₁ (by decide))
    rw [List.singleton_append, glyphs, firstGlyph, hbyte, if_pos h₁, hchar]
    rfl
  · split
    · next h₁ h₂ =>
      have hvalue : n / 0x40 * 0x40 + n % 0x40 = n := by omega
      rw [List.cons_append, List.singleton_append]
      apply (glyphs_of_lead (n := n) (hlead _ (by omega) (by omega))
        (lead?_two (by omega) (by omega)) ?_).trans
      · rw [hchar]
        rfl
      · rw [continuation_rest, continuation, hvalue]
    · split
      · next h₁ h₂ h₃ =>
        have hshare : (0x80 + n / 0x40 % 0x40) % 0x40 = n / 0x40 % 0x40 := by omega
        have hvalue : (n / 0x1000 * 0x40 + n / 0x40 % 0x40) * 0x40 + n % 0x40 = n := by omega
        rw [List.cons_append, List.cons_append, List.singleton_append]
        apply (glyphs_of_lead (n := n) (hlead _ (by omega) (by omega))
          (lead?_three (by omega)) ?_).trans
        · rw [hchar]
          rfl
        · -- the second byte is in its range, for the character is no surrogate
          dsimp only
          rw [continuation_cons (by split <;> omega) (by split <;> omega) (by omega), hshare,
            continuation_rest, continuation, hvalue]
      · next h₁ h₂ h₃ =>
        have hshare : (0x80 + n / 0x1000 % 0x40) % 0x40 = n / 0x1000 % 0x40 := by omega
        have hvalue : ((n / 0x40000 * 0x40 + n / 0x1000 % 0x40) * 0x40 + n / 0x40 % 0x40) * 0x40
            + n % 0x40 = n := by omega
        rw [List.cons_append, List.cons_append, List.cons_append, List.singleton_append]
        apply (glyphs_of_lead (n := n) (hlead _ (by omega) (by omega))
          (lead?_four (by omega)) ?_).trans
        · rw [hchar]
          rfl
        · dsimp only
          rw [continuation_cons (by split <;> omega) (by split <;> omega) (by omega), hshare,
            continuation_rest, continuation_rest, continuation, hvalue]

/-- The glyphs of the bytes of some characters are the characters. -/
theorem glyphs_encode (cs : List Char) :
  glyphs (encode cs) = cs.map some
  := by
  induction cs with
  | nil =>
      rw [encode, List.flatMap_nil, glyphs]
      rfl
  | cons c cs ih => rw [encode, List.flatMap_cons, glyphs_encodeChar, ← encode, ih, List.map_cons]

theorem characters?_map_some (cs : List Char) :
  characters? (cs.map some) = some cs
  := by
  induction cs with
  | nil => rfl
  | cons c cs ih =>
      rw [characters?, List.map_cons, List.mapM_cons, ← characters?, ih]
      rfl

/-- Glyphs are characters if there is no mark among them. -/
theorem characters?_eq_some_iff {gs : List Glyph} {cs : List Char} :
  characters? gs = some cs ↔ gs = cs.map some
  := by
  constructor
  · intro h
    induction gs generalizing cs with
    | nil =>
        cases h
        rfl
    | cons g gs ih =>
        rw [characters?, List.mapM_cons, ← characters?] at h
        obtain ⟨c, hc, hgs⟩ := Option.bind_eq_some_iff.mp h
        obtain ⟨rest, hrest, hcs⟩ := Option.bind_eq_some_iff.mp hgs
        rw [← Option.some.inj hcs, List.map_cons, ← ih hrest, ← hc, id]
  · rintro rfl
    apply characters?_map_some

theorem text?_map_some (s : String) :
  text? (s.toList.map some) = some s
  := by
  rw [text?, characters?_map_some, Option.map_some, String.ofList_toList]

theorem text?_eq_some_iff {gs : List Glyph} {s : String} :
  text? gs = some s ↔ gs = s.toList.map some
  := by
  constructor
  · intro h
    obtain ⟨cs, hcs, rfl⟩ := Option.map_eq_some_iff.mp h
    rw [characters?_eq_some_iff.mp hcs, String.toList_ofList]
  · rintro rfl
    apply text?_map_some

/-- Every text is read back from its bytes. -/
theorem decode?_bytes (s : String) :
  decode? (bytes s) = some s
  := by
  rw [decode?, bytes, glyphs_encode, text?_map_some]

end LogCourier.Utf8
