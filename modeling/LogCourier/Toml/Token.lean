import LogCourier.Toml.Fault

/-!
# Tokens of a TOML document

A document cut into tokens by a machine that looks at one character at a time. Runs of
blanks are tokens, since some places forbid them; comments are dropped. Strings are
decoded: their escapes are replaced, and a string of several lines loses the line break
after its opening quotes. A string with a fault keeps the first one, and the machine goes on
after it; what may stand nowhere is a token of its own.
-/

namespace LogCourier.Toml

/-- A token of a document. -/
inductive Token
  | dot
  | equals
  | comma
  | openBracket
  | closeBracket
  | openBrace
  | closeBrace
  | blank
  | newline
  /-- A run of characters that have no part in the structure. -/
  | word (chars : List Char)
  /-- A string; `multi` tells that its delimiters allow several lines. -/
  | text (multi : Bool) (content : List Char) (fault : Option Fault)
  /-- Something that may stand nowhere. -/
  | flaw (fault : Fault)
  deriving DecidableEq, Repr

/-- The two delimiters of strings. -/
inductive Quote
  | basic
  | literal
  deriving DecidableEq, Repr

/-- The character of a delimiter. -/
def Quote.char : Quote → Char
  | basic => '"'
  | literal => '\''

/-- What the machine is in the middle of; contents are kept last character first. -/
inductive Scanning
  | between
  | blank
  | word (before : List Char)
  | comment
  /-- After a carriage return, which a line feed has to follow. -/
  | carriageReturn
  /-- After one or two quotes that open a string. -/
  | opened (quote : Quote) (twice : Bool)
  /-- After three quotes that open a string; `half` tells of a carriage return. -/
  | fresh (quote : Quote) (half : Bool)
  | inside (quote : Quote) (multi : Bool) (before : List Char)
  | insideReturn (quote : Quote) (before : List Char)
  /-- After `count` quotes inside a string of several lines. -/
  | closing (quote : Quote) (before : List Char) (count : Nat)
  | escape (multi : Bool) (before : List Char)
  /-- After some of the `size` digits of an escape. -/
  | digits (multi : Bool) (before : List Char) (size left value : Nat)
  /-- After a backslash at the end of a line. -/
  | gap (before : List Char) (lineEnded : Bool)
  | gapReturn (before : List Char)

/-- The machine: where the next character and the token that is being read start, the first
fault of that token, and the tokens completed so far, last first. -/
structure Scanner where
  doing : Scanning
  here : Nat
  start : Nat
  fault : Option Fault
  done : List (Placed Token)

namespace Scanner

/-- Complete a token before an offset. -/
def emit (s : Scanner) (stop : Nat) (t : Token) : Scanner :=
  { s with doing := .between, fault := none, done := ⟨⟨s.start, stop⟩, t⟩ :: s.done }

/-- Be in the middle of something. -/
def doingNow (s : Scanner) (d : Scanning) : Scanner :=
  { s with doing := d }

/-- Find fault with an offset, if nothing was wrong before it. -/
def blame (s : Scanner) (offset : Nat) (reason : Reason) : Scanner :=
  { s with fault := s.fault.or (some ⟨⟨offset, offset⟩, reason⟩) }

/-- Complete something that may stand nowhere. -/
def emitFlaw (s : Scanner) (offset : Nat) (reason : Reason) : Scanner :=
  s.emit s.here (.flaw ⟨⟨offset, offset⟩, reason⟩)

/-- Whether a character may stand in a comment or in a string of one line. -/
def isPrintable (c : Char) : Bool :=
  c = '\t' ∨ (0x20 ≤ c.toNat ∧ c.toNat ≠ 0x7f)

/-- Read a character between tokens. -/
def begin (s : Scanner) (c : Char) : Scanner :=
  let s := { s with start := s.here, fault := none }
  let one := fun t => s.emit (s.here + 1) t
  match c with
  | '.' => one .dot
  | '=' => one .equals
  | ',' => one .comma
  | '[' => one .openBracket
  | ']' => one .closeBracket
  | '\x7b' => one .openBrace
  | '\x7d' => one .closeBrace
  | ' ' | '\t' => s.doingNow .blank
  | '\n' => one .newline
  | '\r' => s.doingNow .carriageReturn
  | '#' => s.doingNow .comment
  | '"' => s.doingNow (.opened .basic false)
  | '\'' => s.doingNow (.opened .literal false)
  | c => s.doingNow (.word [c])

/-- Whether a character ends a word. -/
def endsWord (c : Char) : Bool :=
  c ∈ ['.', '=', ',', '[', ']', '\x7b', '\x7d', ' ', '\t', '\n', '\r', '#', '"', '\'']

/-- Complete a string before an offset. -/
def emitText (s : Scanner) (stop : Nat) (multi : Bool) (before : List Char) : Scanner :=
  s.emit stop (.text multi before.reverse s.fault)

/-- Complete a string whose closing quotes are missing, before the character that is due. -/
def emitUnclosed (s : Scanner) (multi : Bool) (delimiter : String) : Scanner :=
  s.emit s.here (.text multi [] (some ⟨⟨s.here, s.here⟩, .unclosedString delimiter⟩))

/-- Read a character of a string. -/
def inString (s : Scanner) (quote : Quote) (multi : Bool) (before : List Char) (c : Char) :
  Scanner :=
  if c = quote.char then
    if multi then s.doingNow (.closing quote before 1) else s.emitText (s.here + 1) false before
  else if c = '\\' ∧ quote = .basic then s.doingNow (.escape multi before)
  else if isPrintable c then s.doingNow (.inside quote multi (c :: before))
  else if c = '\n' then
    if multi then s.doingNow (.inside quote multi (c :: before))
    else (s.emitUnclosed false (String.singleton quote.char)).begin c
  else if multi ∧ c = '\r' then s.doingNow (.insideReturn quote before)
  else (s.blame s.here .stringCharacter).doingNow (.inside quote multi before)

/-- The value of a hexadecimal digit. -/
def hexDigit? (c : Char) : Option Nat :=
  let n := c.toNat
  if 48 ≤ n ∧ n ≤ 57 then some (n - 48)
  else if 97 ≤ n ∧ n ≤ 102 then some (n - 87)
  else if 65 ≤ n ∧ n ≤ 70 then some (n - 55)
  else none

/-- Read the letter of an escape. -/
def inEscape (s : Scanner) (multi : Bool) (before : List Char) (c : Char) : Scanner :=
  let plain := fun e => s.doingNow (.inside .basic multi (e :: before))
  let bad := s.blame s.here .escapeLetter
  match c with
  | 'b' => plain '\x08'
  | 't' => plain '\t'
  | 'n' => plain '\n'
  | 'f' => plain '\x0c'
  | 'r' => plain '\r'
  | 'e' => plain '\x1b'
  | '"' => plain '"'
  | '\\' => plain '\\'
  | 'x' => s.doingNow (.digits multi before 2 2 0)
  | 'u' => s.doingNow (.digits multi before 4 4 0)
  | 'U' => s.doingNow (.digits multi before 8 8 0)
  | ' ' | '\t' =>
    if multi then s.doingNow (.gap before false) else bad.inString .basic multi before c
  | '\r' => if multi then s.doingNow (.gapReturn before) else bad.inString .basic multi before c
  | '\n' => if multi then s.doingNow (.gap before true) else bad.inString .basic multi before c
  | c => bad.inString .basic multi before c

/-- Read a digit of an escape. -/
def inDigits (s : Scanner) (multi : Bool) (before : List Char) (size left value : Nat)
  (c : Char) : Scanner :=
  match hexDigit? c with
  | none => (s.blame s.here .escapeTooShort).inString .basic multi before c
  | some d =>
    let n := 16 * value + d
    if 1 < left then s.doingNow (.digits multi before size (left - 1) n)
    else if n.isValidChar then s.doingNow (.inside .basic multi (Char.ofNat n :: before))
    else
      (s.blame (s.here + 1 - size) .escapeNoCharacter).doingNow (.inside .basic multi before)

/-- Complete a string of several lines after `count` quotes, of which the last three close
it. -/
def close (s : Scanner) (stop : Nat) (quote : Quote) (before : List Char) (count : Nat) :
  Scanner :=
  s.emitText stop true (List.replicate (count - 3) quote.char ++ before)

/-- Read a character, which does not move the machine on. -/
def read (s : Scanner) (c : Char) : Scanner :=
  match s.doing with
  | .between => s.begin c
  | .blank => if c = ' ' ∨ c = '\t' then s else (s.emit s.here .blank).begin c
  | .word before =>
    if endsWord c then (s.emit s.here (.word before.reverse)).begin c
    else s.doingNow (.word (c :: before))
  | .comment =>
    if c = '\n' ∨ c = '\r' then (s.doingNow .between).begin c
    else if isPrintable c then s
    else (s.emitFlaw s.here .commentCharacter).doingNow .comment
  | .carriageReturn =>
    if c = '\n' then s.emit (s.here + 1) .newline
    else ((s.emitFlaw s.here .loneReturn).emit s.here .newline).begin c
  | .opened quote false =>
    if c = quote.char then s.doingNow (.opened quote true) else s.inString quote false [] c
  | .opened quote true =>
    if c = quote.char then s.doingNow (.fresh quote false)
    else (s.emitText s.here false []).begin c
  | .fresh quote false =>
    if c = '\n' then s.doingNow (.inside quote true [])
    else if c = '\r' then s.doingNow (.fresh quote true)
    else s.inString quote true [] c
  | .fresh quote true =>
    if c = '\n' then s.doingNow (.inside quote true [])
    else (s.blame s.here .loneReturn).inString quote true [] c
  | .inside quote multi before => s.inString quote multi before c
  | .insideReturn quote before =>
    if c = '\n' then s.doingNow (.inside quote true ('\n' :: '\r' :: before))
    else (s.blame s.here .loneReturn).inString quote true before c
  | .closing quote before count =>
    if c = quote.char then
      if count = 4 then s.close (s.here + 1) quote before 5
      else s.doingNow (.closing quote before (count + 1))
    else if 3 ≤ count then (s.close s.here quote before count).begin c
    else s.inString quote true (List.replicate count quote.char ++ before) c
  | .escape multi before => s.inEscape multi before c
  | .digits multi before size left value => s.inDigits multi before size left value c
  | .gap before lineEnded =>
    if c = ' ' ∨ c = '\t' then s
    else if c = '\n' then s.doingNow (.gap before true)
    else if c = '\r' then s.doingNow (.gapReturn before)
    else if lineEnded then s.inString .basic true before c
    else (s.blame s.here .escapeLetter).inString .basic true before c
  | .gapReturn before =>
    if c = '\n' then s.doingNow (.gap before true)
    else (s.blame s.here .loneReturn).inString .basic true before c

/-- Read a character. -/
def step (s : Scanner) (c : Char) : Scanner :=
  let s := s.read c
  { s with here := s.here + c.utf8Size }

/-- Three quotes. -/
def triple (quote : Quote) : String :=
  "".pushn quote.char 3

/-- See the end of the document. -/
def finish (s : Scanner) : Scanner :=
  match s.doing with
  | .between | .comment => s
  | .blank => s.emit s.here .blank
  | .word before => s.emit s.here (.word before.reverse)
  | .carriageReturn => s.emitFlaw s.here .loneReturn
  | .opened _ true => s.emitText s.here false []
  | .opened quote false | .inside quote false _ =>
    s.emitUnclosed false (String.singleton quote.char)
  | .closing quote before count =>
    if 3 ≤ count then s.close s.here quote before count else s.emitUnclosed true (triple quote)
  | .escape false _ | .digits false .. => s.emitUnclosed false "\""
  | .fresh quote _ | .inside quote true _ | .insideReturn quote _ =>
    s.emitUnclosed true (triple quote)
  | .escape true _ | .digits true .. | .gap .. | .gapReturn _ =>
    s.emitUnclosed true (triple .basic)

end Scanner

/-- The tokens of a document; a byte order mark in front of it is dropped. -/
def tokens (document : String) : List (Placed Token) :=
  let (start, cs) := match document.toList with
    | '\uFEFF' :: rest => (3, rest)
    | cs => (0, cs)
  (cs.foldl Scanner.step ⟨.between, start, start, none, []⟩).finish.done.reverse

end LogCourier.Toml
