/-!
# UTF-8

Bytes read as text. `glyphs` reads any bytes as a list of glyphs: a glyph is a character,
or the mark `none` of a maximal run of bytes that starts no character. `decode?` accepts
well-formed bytes only, and `decodeLossy` puts U+FFFD for every mark.
-/

namespace LogCourier.Utf8

/-- A character, or the mark of something that is not a character. -/
abbrev Glyph := Option Char

/-- The bytes of a character. -/
def encodeChar (c : Char) : List UInt8 :=
  let n := c.toNat
  if n < 0x80 then
    [.ofNat n]
  else if n < 0x800 then
    [.ofNat (0xc0 + n / 0x40), .ofNat (0x80 + n % 0x40)]
  else if n < 0x10000 then
    [.ofNat (0xe0 + n / 0x1000), .ofNat (0x80 + n / 0x40 % 0x40), .ofNat (0x80 + n % 0x40)]
  else
    [.ofNat (0xf0 + n / 0x40000), .ofNat (0x80 + n / 0x1000 % 0x40),
      .ofNat (0x80 + n / 0x40 % 0x40), .ofNat (0x80 + n % 0x40)]

/-- The bytes of a list of characters. -/
def encode (cs : List Char) : List UInt8 :=
  cs.flatMap encodeChar

/-- The bytes of a text. -/
def bytes (s : String) : List UInt8 :=
  encode s.toList

/-- What a lead byte asks for: the number of continuation bytes, its own share of the
code point, and the range of the first continuation byte. -/
structure Lead where
  count : Nat
  share : Nat
  low : Nat
  high : Nat

/-- The lead byte of a character of two or more bytes. The range of the byte after it
leaves out overlong forms, surrogates and code points above U+10FFFF. -/
def lead? (b : UInt8) : Option Lead :=
  let n := b.toNat
  if 0xc2 ≤ n ∧ n ≤ 0xdf then some ⟨1, n - 0xc0, 0x80, 0xbf⟩
  else if n = 0xe0 then some ⟨2, 0, 0xa0, 0xbf⟩
  else if n = 0xed then some ⟨2, 0xd, 0x80, 0x9f⟩
  else if 0xe1 ≤ n ∧ n ≤ 0xef then some ⟨2, n - 0xe0, 0x80, 0xbf⟩
  else if n = 0xf0 then some ⟨3, 0, 0x90, 0xbf⟩
  else if 0xf1 ≤ n ∧ n ≤ 0xf3 then some ⟨3, n - 0xf0, 0x80, 0xbf⟩
  else if n = 0xf4 then some ⟨3, 4, 0x80, 0x8f⟩
  else none

/-- Read `count` continuation bytes after the share `acc`, the first of them between
`low` and `high`. The result is the code point, or nothing if a byte is missing or is not
in its range, and the number of bytes that were in range. -/
def continuation : (count acc low high : Nat) → List UInt8 → Option Nat × Nat
  | 0, acc, _, _, _ => (some acc, 0)
  | _ + 1, _, _, _, [] => (none, 0)
  | count + 1, acc, low, high, b :: bs =>
    if low ≤ b.toNat ∧ b.toNat ≤ high then
      let (point, used) := continuation count (acc * 0x40 + b.toNat % 0x40) 0x80 0xbf bs
      (point, used + 1)
    else (none, 0)

/-- The first glyph of a list of bytes that starts with `b`, and the number of bytes
after `b` that belong to it. -/
def firstGlyph (b : UInt8) (bs : List UInt8) : Glyph × Nat :=
  if b.toNat < 0x80 then (some (Char.ofNat b.toNat), 0)
  else match lead? b with
    | none => (none, 0)
    | some l =>
      let (point, used) := continuation l.count l.share l.low l.high bs
      (point.map Char.ofNat, used)

/-- The glyphs of a list of bytes. -/
def glyphs : List UInt8 → List Glyph
  | [] => []
  | b :: bs =>
    let (g, used) := firstGlyph b bs
    g :: glyphs (bs.drop used)
termination_by bs => bs.length
decreasing_by simp only [List.length_cons, List.length_drop]; omega

/-- The characters of a list of glyphs, if all of them are characters. -/
def characters? (gs : List Glyph) : Option (List Char) :=
  gs.mapM id

/-- The text of a list of glyphs, if all of them are characters. -/
def text? (gs : List Glyph) : Option String :=
  (characters? gs).map String.ofList

/-- The text of well-formed bytes. -/
def decode? (bs : List UInt8) : Option String :=
  text? (glyphs bs)

/-- The text of any bytes, with U+FFFD for each maximal ill-formed run. -/
def decodeLossy (bs : List UInt8) : String :=
  String.ofList ((glyphs bs).map (·.getD '\uFFFD'))

end LogCourier.Utf8
