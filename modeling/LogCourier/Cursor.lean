import LogCourier.Text.Blank
import LogCourier.Text.Decimal

/-!
# Cursors

The mark of how far the log has been carried: the number of the last row that was
delivered in full. `Cursor.parse?` reads its text form and `Cursor.text` writes it.
-/

namespace LogCourier

/-- The number of the last row that was delivered in full; 0 before the first one. -/
structure Cursor where
  row : UInt64
  deriving DecidableEq, Repr

namespace Cursor

/-- The mark before every row. -/
def zero : Cursor := ⟨0⟩

/-- Whether a row lies beyond the mark. -/
def isBehind (c : Cursor) (row : UInt64) : Bool :=
  c.row < row

/-- The decimal text of a mark. -/
def text (c : Cursor) : String :=
  Decimal.text c.row.toNat

/-- The mark that a text names: blank characters around an optional plus sign and decimal
digits, with a value below 2⁶⁴. -/
def parse? (s : String) : Option Cursor :=
  match Decimal.readBelow UInt64.size (Text.trimChars s.toList) with
  | .ok n => some ⟨.ofNat n⟩
  | .error _ => none

end Cursor

end LogCourier
