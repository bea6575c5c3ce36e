import LogCourier.Json.Basic
import LogCourier.Json.Fault

/-!
# Lexemes

A document cut into its lexical units. The cutting is a machine that looks at one glyph at
a time: `Scanner.step` reads a glyph, `Scanner.finish` sees the end of the document, and
`lexemes` runs the machine over a whole document. White space between the units is
dropped; a unit that is broken, or that nothing starts, is itself a unit, after which the
machine stops.
-/

namespace LogCourier.Json

/-- A lexical unit of a document. -/
inductive Lexeme
  | openArray
  | closeArray
  | openObject
  | closeObject
  | comma
  | colon
  | null
  | bool (value : Bool)
  | natural (value : Nat)
  | numeral (spelling : List Char)
  | text (content : Text)
  /-- A glyph that starts no unit. -/
  | stray
  /-- The start of a unit that is not completed. -/
  | broken (fault : Fault)

/-- A lexical unit with the numbers of glyphs before it and up to its end. If it is a text,
or the start of one, `lone` is its first surrogate that has no partner. -/
structure Placed where
  start : Nat
  stop : Nat
  lexeme : Lexeme
  lone : Option Fault

/-- How far a number is read. -/
inductive NumberPart
  | sign
  | zero
  | whole
  | point
  | fraction
  | mark
  | markSign
  | exponent

/-- What a character does to a number. -/
inductive NumberStep
  | extend (part : NumberPart)
  | finish
  | refuse

/-- What a character does to a number that is read as far as `part`. -/
def NumberPart.step (part : NumberPart) (c : Char) : NumberStep :=
  match part with
  | sign => if c = '0' then .extend zero else if c.isDigit then .extend whole else .refuse
  | zero =>
    if c = '.' then .extend point
    else if c = 'e' ∨ c = 'E' then .extend mark
    else if c.isDigit then .refuse else .finish
  | whole =>
    if c = '.' then .extend point
    else if c = 'e' ∨ c = 'E' then .extend mark
    else if c.isDigit then .extend whole else .finish
  | point => if c.isDigit then .extend fraction else .refuse
  | fraction =>
    if c.isDigit then .extend fraction
    else if c = 'e' ∨ c = 'E' then .extend mark else .finish
  | mark =>
    if c = '+' ∨ c = '-' then .extend markSign
    else if c.isDigit then .extend exponent else .refuse
  | markSign => if c.isDigit then .extend exponent else .refuse
  | exponent => if c.isDigit then .extend exponent else .finish

/-- Whether a number may end after `part`. -/
def NumberPart.mayEnd : NumberPart → Bool
  | zero | whole | fraction | exponent => true
  | sign | point | mark | markSign => false

/-- What a glyph does to a number that is read as far as `part`. -/
def NumberPart.glyph (part : NumberPart) : Utf8.Glyph → NumberStep
  | some c => part.step c
  | none => if part.mayEnd then .finish else .refuse

/-- The unit of a number with the given spelling. -/
def numberLexeme (spelling : List Char) : Lexeme :=
  if spelling.all Char.isDigit then .natural (Nat.ofDigitChars 10 spelling 0)
  else .numeral spelling

/-- What the machine is in the middle of. -/
inductive Scanning
  | blank
  | word (rest : List Char) (lexeme : Lexeme)
  | number (part : NumberPart) (before : List Char)
  | text (before : Text)
  | escape (before : Text)
  /-- The hexadecimal digits of an escape, last first; `high` is a high surrogate that
  stands before it. -/
  | hex (before : Text) (high : Option Nat) (digits : Text)
  /-- After the escape of a high surrogate, which waits for its partner. -/
  | pair (before : Text) (high : Nat)
  | pairEscape (before : Text) (high : Nat)
  | stopped

/-- The machine: the number of glyphs read, where the unit in hand starts, what it is, its
first surrogate without a partner, and the units completed, last first. -/
structure Scanner where
  index : Nat
  start : Nat
  doing : Scanning
  lone : Option Fault
  done : List Placed

/-- The glyphs of a text so far, last first, after which a high surrogate that waits has
found no partner. -/
def settle (before : Text) (high : Option Nat) : Text :=
  if high.isSome then none :: before else before

namespace Scanner

/-- The machine before a document. -/
def initial : Scanner := ⟨0, 0, .blank, none, []⟩

/-- Complete the unit in hand, which ends before the glyph with the given index. -/
def emit (s : Scanner) (stop : Nat) (l : Lexeme) : Scanner :=
  { s with doing := .blank, done := ⟨s.start, stop, l, s.lone⟩ :: s.done }

/-- Complete the unit in hand with the current glyph. -/
def close (s : Scanner) (l : Lexeme) : Scanner :=
  s.emit (s.index + 1) l

/-- Stop at the current glyph, or at the end of the document. -/
def fail (s : Scanner) (reason : Reason) : Scanner :=
  { s.close (.broken ⟨reason, s.index⟩) with doing := .stopped }

/-- Stop at a glyph that starts no unit. -/
def strayed (s : Scanner) : Scanner :=
  { s.close .stray with doing := .stopped }

/-- Note a surrogate without a partner, unless there is one before it. -/
def blame (s : Scanner) (reason : Reason) : Scanner :=
  { s with lone := s.lone <|> some ⟨reason, s.index⟩ }

/-- The white space of JSON. -/
def isSpace (c : Char) : Bool :=
  c = ' ' ∨ c = '\n' ∨ c = '\t' ∨ c = '\r'

/-- Read a glyph between units. -/
def begin (s : Scanner) (g : Utf8.Glyph) : Scanner :=
  let s := { s with start := s.index, doing := .blank, lone := none }
  match g with
  | none => s.strayed
  | some c =>
    if isSpace c then s
    else if c = '[' then s.close .openArray
    else if c = ']' then s.close .closeArray
    else if c = '\x7b' then s.close .openObject
    else if c = '\x7d' then s.close .closeObject
    else if c = ',' then s.close .comma
    else if c = ':' then s.close .colon
    else if c = '"' then { s with doing := .text [] }
    else if c = 'n' then { s with doing := .word ['u', 'l', 'l'] .null }
    else if c = 't' then { s with doing := .word ['r', 'u', 'e'] (.bool true) }
    else if c = 'f' then { s with doing := .word ['a', 'l', 's', 'e'] (.bool false) }
    else if c = '-' then { s with doing := .number .sign [c] }
    else if c = '0' then { s with doing := .number .zero [c] }
    else if c.isDigit then { s with doing := .number .whole [c] }
    else s.strayed

/-- The value of a hexadecimal digit. -/
def hexDigit? (c : Char) : Option Nat :=
  if c.isDigit then some (c.toNat - 48)
  else if 97 ≤ c.toNat ∧ c.toNat ≤ 102 then some (c.toNat - 87)
  else if 65 ≤ c.toNat ∧ c.toNat ≤ 70 then some (c.toNat - 55)
  else none

/-- The number of some hexadecimal digits, last first. -/
def hexValue? : Text → Option Nat
  | [] => some 0
  | none :: _ => none
  | some c :: ds => do
    let d ← hexDigit? c
    let n ← hexValue? ds
    pure (16 * n + d)

/-- The character that a one-letter escape stands for. -/
def escaped? (c : Char) : Option Char :=
  if c = '"' ∨ c = '\\' ∨ c = '/' then some c
  else if c = 'b' then some '\x08'
  else if c = 'f' then some '\x0c'
  else if c = 'n' then some '\n'
  else if c = 'r' then some '\r'
  else if c = 't' then some '\t'
  else none

/-- Take a code unit of a text: a high surrogate waits for its partner, and a surrogate
without a partner becomes a mark. -/
def unit (s : Scanner) (before : Text) (high : Option Nat) (n : Nat) : Scanner :=
  let alone := if high.isSome then s.blame .loneSurrogate else s
  if 0xd800 ≤ n ∧ n < 0xdc00 then
    { alone with doing := .pair (settle before high) n }
  else if 0xdc00 ≤ n ∧ n < 0xe000 then
    match high with
    | some h =>
      let c := Char.ofNat (0x10000 + (h - 0xd800) * 0x400 + (n - 0xdc00))
      { s with doing := .text (some c :: before) }
    | none => { s.blame .loneSurrogate with doing := .text (none :: before) }
  else
    { alone with doing := .text (some (Char.ofNat n) :: settle before high) }

/-- Read a glyph inside a text. -/
def textGlyph (s : Scanner) (before : Text) (g : Utf8.Glyph) : Scanner :=
  if g = some '"' then s.close (.text before.reverse)
  else if g = some '\\' then { s with doing := .escape before }
  else match g with
    | some c =>
      if c.toNat < 0x20 then s.fail .controlCharacter
      else { s with doing := .text (some c :: before) }
    | none => { s with doing := .text (none :: before) }

/-- Read the letter of an escape. -/
def escapeGlyph (s : Scanner) (before : Text) (high : Option Nat) (g : Utf8.Glyph) : Scanner :=
  if g = some 'u' then { s with doing := .hex before high [] }
  else
    let s := if high.isSome then s.blame .missingSurrogate else s
    match g.bind escaped? with
    | none => s.fail .invalidEscape
    | some e => { s with doing := .text (some e :: settle before high) }

/-- What a glyph does to the machine, the count of glyphs apart. -/
def read (s : Scanner) (g : Utf8.Glyph) : Scanner :=
  match s.doing with
  | .blank => s.begin g
  | .word [] _ => s.fail .expectedWord
  | .word (e :: rest) l =>
    if g = some e then
      if rest.isEmpty then s.close l else { s with doing := .word rest l }
    else s.fail .expectedWord
  | .number part before =>
    match part.glyph g with
    | .extend next => { s with doing := .number next (g.toList ++ before) }
    | .finish => (s.emit s.index (numberLexeme before.reverse)).begin g
    | .refuse => s.fail .invalidNumber
  | .text before => s.textGlyph before g
  | .escape before => s.escapeGlyph before none g
  | .hex before high digits =>
    if digits.length < 3 then { s with doing := .hex before high (g :: digits) }
    else match hexValue? (g :: digits) with
      | some n => s.unit before high n
      | none => s.fail .invalidEscape
  | .pair before high =>
    if g = some '\\' then { s with doing := .pairEscape before high }
    else (s.blame .missingSurrogate).textGlyph (none :: before) g
  | .pairEscape before high => s.escapeGlyph before (some high) g
  | .stopped => s

/-- Read a glyph. -/
def step (s : Scanner) (g : Utf8.Glyph) : Scanner :=
  let t := s.read g
  { t with index := s.index + 1 }

/-- See the end of the document. -/
def finish (s : Scanner) : List Placed :=
  let t := match s.doing with
    | .blank | .stopped => s
    | .word .. => s.fail .endInValue
    | .number part before =>
      if part.mayEnd then s.emit s.index (numberLexeme before.reverse) else s.fail .endInNumber
    | .text .. | .escape .. | .hex .. | .pair .. | .pairEscape .. => s.fail .endInText
  t.done.reverse

end Scanner

/-- The lexical units of a document. -/
def lexemes (document : List Utf8.Glyph) : List Placed :=
  (document.foldl Scanner.step .initial).finish

end LogCourier.Json
