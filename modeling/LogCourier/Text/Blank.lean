/-!
# Blank characters

The characters with the Unicode property White_Space, and the trimming of a text:
`trim` removes blank characters from both ends, `dropTrailing` a given character from
the end.
-/

namespace LogCourier.Text

/-- Whether a character has the Unicode property White_Space. -/
def isBlank (c : Char) : Bool :=
  let n := c.toNat
  (9 ≤ n && n ≤ 13) || n == 0x20 || n == 0x85 || n == 0xa0 || n == 0x1680
    || (0x2000 ≤ n && n ≤ 0x200a) || n == 0x2028 || n == 0x2029 || n == 0x202f
    || n == 0x205f || n == 0x3000

/-- The list without the elements at its end that satisfy `p`. -/
def dropTrailingWhile {α : Type} (p : α → Bool) (l : List α) : List α :=
  (l.reverse.dropWhile p).reverse

/-- The characters without the blank ones at either end. -/
def trimChars (l : List Char) : List Char :=
  dropTrailingWhile isBlank (l.dropWhile isBlank)

/-- The text without the blank characters at either end. -/
def trim (s : String) : String :=
  String.ofList (trimChars s.toList)

/-- The text without the copies of `c` at its end. -/
def dropTrailing (c : Char) (s : String) : String :=
  String.ofList (dropTrailingWhile (· == c) s.toList)

/-- The text of the first `n` characters. -/
def takeChars (n : Nat) (s : String) : String :=
  String.ofList (s.toList.take n)

end LogCourier.Text
