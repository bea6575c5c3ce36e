/-!
# Faults of a TOML document

Why a document cannot be read, with the place of what is wrong in it. `Fault.text` shows the
line that holds the place, with a mark below it, and says what is wrong.
-/

namespace LogCourier.Toml

/-- A stretch of a document, counted in bytes. -/
structure Span where
  start : Nat
  stop : Nat
  deriving DecidableEq, Repr

/-- The place before a stretch. -/
def Span.before (p : Span) : Span :=
  ⟨p.start, p.start⟩

/-- The place after a stretch. -/
def Span.after (p : Span) : Span :=
  ⟨p.stop, p.stop⟩

/-- A part of a document with its place. -/
structure Placed (α : Type) where
  span : Span
  item : α
  deriving DecidableEq, Repr

/-- What is wrong with a document. -/
inductive Reason
  | keyWithoutValue
  | keyWithoutName
  | keyOverLines
  | keyCharacter
  | keyMissing
  | keyAgain
  | extraEquals
  | extraComma
  | extraText
  | missingComma
  | missingTable
  | missingArray
  | missingInline
  | unclosedTable
  | unclosedTables (brackets : String)
  | unclosedArray
  | unclosedInline
  | unclosedString (delimiter : String)
  | stringCharacter
  | commentCharacter
  | loneReturn
  | escapeLetter
  | escapeTooShort
  | escapeNoCharacter
  | tooDeep
  | unquotedText
  | misplacedUnderscore
  | leadingZero
  | invalidBoolean (word : String)
  | invalidFloat
  | invalidMoment
  | notExtensible
  | tooLarge
  /-- A value of one kind stands where one of another kind is expected. -/
  | mismatch (found expected : String)
  /-- A number is outside of the range that is expected. -/
  | outOfRange (found expected : String)
  deriving DecidableEq, Repr

/-- The characters that an escape may start with. -/
def escapeLetters : String :=
  ", ".intercalate (["b", "e", "f", "n", "r", "\\", "\"", "x", "u", "U"].map fun letter =>
    "\x60" ++ letter ++ "\x60")

/-- The wording of what is wrong. -/
def Reason.message : Reason → String
  | keyWithoutValue => "key with no value, expected \x60=\x60"
  | keyWithoutName =>
    "unquoted keys cannot be empty, expected letters, numbers, \x60-\x60, \x60_\x60"
  | keyOverLines => "keys cannot be multi-line, expected basic string, literal string"
  | keyCharacter => "invalid unquoted key, expected letters, numbers, \x60-\x60, \x60_\x60"
  | keyMissing => "invalid key-value pair, expected key"
  | keyAgain => "duplicate key"
  | extraEquals => "extra \x60=\x60, expected nothing"
  | extraComma => "extra comma, expected nothing"
  | extraText => "unexpected key or value, expected newline, \x60#\x60"
  | missingComma => "missing comma, expected \x60,\x60"
  | missingTable => "missing table open, expected \x60[\x60"
  | missingArray => "missing array opening, expected \x60[\x60"
  | missingInline => "missing inline table opening, expected \x60\x7b\x60"
  | unclosedTable => "unclosed table, expected \x60]\x60"
  | unclosedTables brackets => "unclosed array table, expected \x60" ++ brackets ++ "\x60"
  | unclosedArray => "unclosed array, expected \x60]\x60"
  | unclosedInline => "unclosed inline table, expected \x60\x7d\x60"
  | unclosedString delimiter => "invalid string, expected \x60" ++ delimiter ++ "\x60"
  | stringCharacter => "invalid string, expected visible characters"
  | commentCharacter => "invalid comment character, expected printable characters"
  | loneReturn => "carriage return must be followed by newline, expected newline"
  | escapeLetter => "missing escaped value, expected " ++ escapeLetters
  | escapeTooShort => "too few unicode value digits, expected unicode hexadecimal value"
  | escapeNoCharacter => "invalid value, expected unicode hexadecimal value"
  | tooDeep => "cannot recurse further; max recursion depth met"
  | unquotedText => "string values must be quoted, expected literal string"
  | misplacedUnderscore => "\x60_\x60 may only go between digits, expected nothing"
  | leadingZero => "unexpected leading zero, expected nothing"
  | invalidBoolean word => "invalid boolean, expected \x60" ++ word ++ "\x60"
  | invalidFloat => "invalid floating-point number, expected digit"
  | invalidMoment => "invalid datetime"
  | notExtensible => "cannot extend value with a dotted key"
  | tooLarge => "integer number overflowed"
  | mismatch found expected => "invalid type: " ++ found ++ ", expected " ++ expected
  | outOfRange found expected => "invalid value: " ++ found ++ ", expected " ++ expected

/-- What is wrong with a document, and where. -/
structure Fault where
  span : Span
  reason : Reason
  deriving DecidableEq, Repr

/-- The part of a text before an offset in bytes. -/
def bytesBefore : (offset : Nat) → List Char → List Char
  | _, [] => []
  | 0, _ => []
  | offset, c :: cs => c :: bytesBefore (offset - c.utf8Size) cs

/-- The line and the column of an offset, both from zero on: the lines and the characters
of the last line that come before it. An offset at the end of a text that ends with a line
break belongs to the line that it ends. -/
def position (document : String) (offset : Nat) : Nat × Nat :=
  let inside := min offset (document.utf8ByteSize - 1)
  let before := bytesBefore inside document.toList
  let line := before.count '\n'
  let column := (before.reverse.takeWhile (· ≠ '\n')).length
  (line, column + (offset - inside))

/-- A fault as it is shown to the writer of the document. -/
def Fault.text (document : String) (f : Fault) : String :=
  let (line, column) := position document f.span.start
  let number := toString (line + 1)
  let content := ((document.splitOn "\n")[line]?).getD ""
  let marks := min (f.span.stop - f.span.start) (content.utf8ByteSize - column)
  let margin := "".pushn ' ' (number.length + 1) ++ "|"
  "TOML parse error at line " ++ number ++ ", column " ++ toString (column + 1) ++ "\n"
    ++ margin ++ "\n"
    ++ number ++ " | " ++ content ++ "\n"
    ++ margin ++ "".pushn ' ' (column + 1) ++ "".pushn '^' (max marks 1) ++ "\n"
    ++ f.reason.message ++ "\n"

end LogCourier.Toml
