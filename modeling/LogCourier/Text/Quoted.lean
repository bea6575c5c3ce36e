import LogCourier.Text.Case
import LogCourier.Text.HiddenTable

/-!
# Quoted texts

A text between quotes as it is shown to a reader: a quote, a backslash and what could not be
seen are written as escapes.
-/

namespace LogCourier.Text

/-- A character of a quoted text. -/
def quotedChar (c : Char) : List Char :=
  match c with
  | '"' => ['\\', '"']
  | '\\' => ['\\', '\\']
  | '\n' => ['\\', 'n']
  | '\r' => ['\\', 'r']
  | '\t' => ['\\', 't']
  | '\x00' => ['\\', '0']
  | c =>
    if inRanges hiddenRanges c.toNat then
      ['\\', 'u', '\x7b'] ++ Nat.toDigits 16 c.toNat ++ ['\x7d']
    else [c]

/-- A text between quotes. -/
def quoted (s : String) : String :=
  String.ofList ('"' :: s.toList.flatMap quotedChar ++ ['"'])

end LogCourier.Text
