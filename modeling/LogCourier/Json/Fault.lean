import LogCourier.Text.Decimal
import LogCourier.Text.Utf8

/-!
# Ill-formed documents

Why some bytes are not a JSON document, and where: `Reason` names the cause, and a `Fault`
adds the place, counted in glyphs. The place after some bytes is written as a line and a
column of bytes.
-/

namespace LogCourier.Json

/-- Why a document is ill-formed. -/
inductive Reason
  | endInList
  | endInNumber
  | endInObject
  | endInText
  | endInValue
  | expectedColon
  | expectedCommaOrListEnd
  | expectedCommaOrObjectEnd
  | expectedWord
  | expectedValue
  | invalidEscape
  | invalidNumber
  | controlCharacter
  | keyNotText
  | loneSurrogate
  | missingSurrogate
  | numberTooLarge
  | trailingComma
  | trailingCharacters
  deriving DecidableEq, Repr

/-- The wording of a reason. -/
def Reason.message : Reason → String
  | endInList => "EOF while parsing a list"
  | endInNumber => "EOF while parsing a value"
  | endInObject => "EOF while parsing an object"
  | endInText => "EOF while parsing a string"
  | endInValue => "EOF while parsing a value"
  | expectedColon => "expected \x60:\x60"
  | expectedCommaOrListEnd => "expected \x60,\x60 or \x60]\x60"
  | expectedCommaOrObjectEnd => "expected \x60,\x60 or \x60\x7d\x60"
  | expectedWord => "expected ident"
  | expectedValue => "expected value"
  | invalidEscape => "invalid escape"
  | invalidNumber => "invalid number"
  | controlCharacter => "control character (\\u0000-\\u001F) found while parsing a string"
  | keyNotText => "key must be a string"
  | loneSurrogate => "lone leading surrogate in hex escape"
  | missingSurrogate => "unexpected end of hex escape"
  | numberTooLarge => "number out of range"
  | trailingComma => "trailing comma"
  | trailingCharacters => "trailing characters"

/-- An ill-formed document: the reason, and the number of glyphs before the one that
shows it, or the length of the document if its end does. -/
structure Fault where
  reason : Reason
  glyphs : Nat
  deriving DecidableEq, Repr

/-- The bytes before the glyph with the given index. -/
def bytesBefore : Nat → List UInt8 → List UInt8
  | 0, _ => []
  | _ + 1, [] => []
  | n + 1, b :: bs =>
    let (_, used) := Utf8.firstGlyph b bs
    b :: bs.take used ++ bytesBefore n (bs.drop used)

/-- The place after some bytes: the number of the line, and the bytes on it so far. -/
def place (before : List UInt8) : String :=
  let line := before.count 10 + 1
  let column := (before.reverse.takeWhile (· ≠ 10)).length
  "line " ++ Decimal.text line ++ " column " ++ Decimal.text column

end LogCourier.Json
