import LogCourier.Toml.Value

/-!
# Statements of a TOML document

The tokens of a document cut into statements: each is empty, a header of a table, a header
of one more table of an array, or a key with a value. What a statement consists of is read
here, and what is out of place in it is a fault; what it means is not asked yet, so a key or
a word that cannot be read is kept with its fault.
-/

namespace LogCourier.Toml

/-- A part of a dotted key: its name, or what is wrong with it. -/
structure Key where
  span : Span
  name : Except Fault String

/-- A dotted key. -/
abbrev Path := List Key

/-- A value as it is written. -/
inductive Written
  | scalar (value : Except Fault Value)
  | array (items : List (Span × Written))
  | inline (entries : List (Path × Span × Written))
  deriving Inhabited

/-- A statement of a document. -/
inductive Statement
  | empty
  | header (span : Span) (path : Path)
  | nextHeader (span : Span) (path : Path)
  | entry (path : Path) (span : Span) (value : Written)

/-! ### Keys -/

/-- A name of a key that is not there. -/
def Key.absent (p : Span) : Key :=
  ⟨p, .error ⟨p, .keyWithoutName⟩⟩

/-- Whether a character may stand in a key without quotes. -/
def isKeyCharacter (c : Char) : Bool :=
  c.isAlphanum ∨ c = '_' ∨ c = '-'

/-- The key that a word at a place is. -/
def Key.ofWord (p : Span) (cs : List Char) : Key :=
  match cs.dropWhile isKeyCharacter with
  | [] => ⟨p, .ok (String.ofList cs)⟩
  | _ :: _ =>
    let offset := p.start + (cs.takeWhile isKeyCharacter).length
    ⟨p, .error ⟨⟨offset, offset⟩, .keyCharacter⟩⟩

/-- The key that a token is. -/
def Key.of? (t : Placed Token) : Option Key :=
  match t.item with
  | .word cs => some (.ofWord t.span cs)
  | .text _ _ (some fault) => some ⟨t.span, .error fault⟩
  | .text false cs none => some ⟨t.span, .ok (String.ofList cs)⟩
  | .text true _ none => some ⟨t.span, .error ⟨t.span, .keyOverLines⟩⟩
  | _ => none

/-- Read the parts of a dotted key in front of some tokens; `due` is the place after a point
that a part has to follow. -/
def readPath : (due : Option Span) → List (Placed Token) → Path × List (Placed Token)
  | due, ⟨_, .blank⟩ :: ts => readPath due ts
  | none, ⟨p, .dot⟩ :: ts => readPath (some p.after) ts
  | none, ts => ([], ts)
  | some p, [] => ([.absent p], [])
  | some p, t :: ts =>
    match Key.of? t with
    | some k =>
      let (path, rest) := readPath none ts
      (k :: path, rest)
    | none => ([.absent p], t :: ts)

/-! ### Values -/

/-- A container that is still open while a value is read, with the place where it opens: an
array with its items, last first, or a table in braces, with its entries, last first, and
the key that waits for a value. -/
inductive Frame
  | array (opening : Span) (before : List (Span × Written))
  | inline (opening : Span) (before : List (Path × Span × Written)) (path : Path)

/-- What may come next while a value is read. -/
inductive Expecting
  /-- A value; on a new line if it is an item of an array. -/
  | value
  | item
  /-- A word is being read. -/
  | word (p : Span) (chars : List Char)
  /-- After a date and a blank, where a clock time may follow. -/
  | gap (p : Span) (chars : List Char)
  /-- A comma or the end of the innermost container. -/
  | separator
  /-- A key or the end of the innermost container. -/
  | key
  /-- The next part of a dotted key, after a point. -/
  | keyPart (after : Span) (before : Path)
  | equals (before : Path)
  | nothing (span : Span) (result : Written)

/-- A value read so far. -/
structure ValueReader where
  stack : List Frame
  expecting : Expecting

namespace ValueReader

/-- How deep containers may be nested. -/
def depthLimit : Nat := 80

/-- The fault of a token that is out of place. -/
def misplaced {α : Type} (t : Placed Token) (reason : Reason) : Except Fault α :=
  match t.item with
  | .flaw fault => .error fault
  | _ => .error ⟨t.span, reason⟩

/-- Open a container. -/
def enter (r : ValueReader) (t : Placed Token) (frame : Frame) (e : Expecting) :
  Except Fault ValueReader :=
  if r.stack.length < depthLimit then .ok ⟨frame :: r.stack, e⟩ else misplaced t .tooDeep

/-- Put a completed value into the innermost open container. -/
def complete (p : Span) (v : Written) : List Frame → ValueReader
  | [] => ⟨[], .nothing p v⟩
  | .array opening before :: stack => ⟨.array opening ((p, v) :: before) :: stack, .separator⟩
  | .inline opening before path :: stack =>
    ⟨.inline opening ((path, p, v) :: before) [] :: stack, .separator⟩

/-- Complete a word. -/
def completeWord (p : Span) (cs : List Char) (stack : List Frame) : ValueReader :=
  complete p (.scalar (scalar p cs)) stack

/-- Complete a value that is not there. -/
def completeAbsent (p : Span) (stack : List Frame) : ValueReader :=
  completeWord p [] stack

/-- Take a token after an item or an entry. -/
def separate (r : ValueReader) (t : Placed Token) : Except Fault ValueReader :=
  match t.item, r.stack with
  | .blank, _ | .newline, _ => .ok r
  | .comma, .array .. :: _ => .ok { r with expecting := .item }
  | .comma, .inline .. :: _ => .ok { r with expecting := .key }
  | .closeBracket, .array opening before :: stack =>
    .ok (complete ⟨opening.start, t.span.stop⟩ (.array before.reverse) stack)
  | .closeBrace, .inline opening before _ :: stack =>
    .ok (complete ⟨opening.start, t.span.stop⟩ (.inline before.reverse) stack)
  | .closeBracket, _ => misplaced t .missingArray
  | .closeBrace, _ => misplaced t .missingInline
  | .equals, _ => misplaced t .extraEquals
  | _, _ => misplaced ⟨t.span.before, t.item⟩ .missingComma

/-- Take a token after a completed value, inside a container or not. -/
def follow (r : ValueReader) (t : Placed Token) : Except Fault ValueReader :=
  match r.expecting with
  | .nothing .. =>
    if t.item = .blank then .ok r else misplaced ⟨t.span.before, t.item⟩ .extraText
  | _ => r.separate t

/-- Take a token at the start of a value. -/
def startValue (r : ValueReader) (t : Placed Token) : Except Fault ValueReader :=
  match t.item with
  | .blank => .ok r
  | .openBracket => r.enter t (.array t.span []) .item
  | .openBrace => r.enter t (.inline t.span [] []) .key
  | .word cs => .ok { r with expecting := .word t.span cs }
  | .dot => .ok { r with expecting := .word t.span ['.'] }
  | .text _ cs fault =>
    let content := match fault with
      | some fault => .error fault
      | none => .ok (.text (String.ofList cs))
    .ok (complete t.span (.scalar content) r.stack)
  | .equals => misplaced t .extraEquals
  | .closeBracket => misplaced ⟨t.span.before, t.item⟩ .missingArray
  | .closeBrace => misplaced ⟨t.span.before, t.item⟩ .missingInline
  | .comma | .newline => (completeAbsent t.span.before r.stack).follow t
  | .flaw fault => .error fault

/-- Complete the value of a word, and take the token after it. -/
def endWord (r : ValueReader) (p : Span) (cs : List Char) (t : Placed Token) :
  Except Fault ValueReader :=
  (completeWord p cs r.stack).follow t

/-- Take a token after a part of a dotted key. -/
def afterKey (r : ValueReader) (before : Path) (t : Placed Token) : Except Fault ValueReader :=
  match t.item, r.stack with
  | .blank, _ => .ok { r with expecting := .equals before }
  | .dot, _ => .ok { r with expecting := .keyPart t.span.after before }
  | .equals, .inline opening entries _ :: stack =>
    .ok ⟨.inline opening entries before.reverse :: stack, .value⟩
  | _, _ => misplaced ⟨t.span.before, t.item⟩ .keyWithoutValue

/-- Take a token. -/
def step (r : ValueReader) (t : Placed Token) : Except Fault ValueReader :=
  match r.expecting with
  | .value => r.startValue t
  | .item => match t.item with
    | .newline => .ok r
    | .closeBracket => r.separate t
    | .comma => misplaced t .extraComma
    | _ => r.startValue t
  | .word p cs =>
    let whole : Span := ⟨p.start, t.span.stop⟩
    match t.item with
    | .dot => .ok { r with expecting := .word whole (cs ++ ['.']) }
    | .word ds =>
      if cs.getLast? = some '.' then .ok { r with expecting := .word whole (cs ++ ds) }
      else r.endWord p cs t
    | .blank =>
      if date cs = some [] then .ok { r with expecting := .gap p cs } else r.endWord p cs t
    | _ => r.endWord p cs t
  | .gap p cs => match t.item with
    | .word ds => .ok { r with expecting := .word ⟨p.start, t.span.stop⟩ (cs ++ ' ' :: ds) }
    | _ => r.endWord p cs t
  | .separator => r.separate t
  | .key => match t.item with
    | .blank | .newline => .ok r
    | .closeBrace => r.separate t
    | .comma => misplaced t .extraComma
    | .dot | .equals => r.afterKey [.absent t.span.before] t
    | _ => match Key.of? t with
      | some k => .ok { r with expecting := .equals [k] }
      | none => misplaced t .keyMissing
  | .keyPart after before => match t.item with
    | .blank => .ok r
    | _ => match Key.of? t with
      | some k => .ok { r with expecting := .equals (k :: before) }
      | none => r.afterKey (.absent after :: before) t
  | .equals before => r.afterKey before t
  | .nothing .. => r.follow t

/-- See the end of the tokens at a place. -/
def finish (r : ValueReader) (stop : Span) : Except Fault (Span × Written) :=
  match r.stack, r.expecting with
  | [], .nothing p v => .ok (p, v)
  | [], .word p cs | [], .gap p cs => .ok (p, .scalar (scalar p cs))
  | [], _ => .ok (stop, .scalar (scalar stop []))
  | .array .. :: _, _ => .error ⟨stop, .unclosedArray⟩
  | .inline .. :: _, _ => .error ⟨stop, .unclosedInline⟩

end ValueReader

/-- Read a value from all of the tokens, which end at a place. -/
def readValue (ts : List (Placed Token)) (stop : Span) : Except Fault (Span × Written) := do
  (← ts.foldlM ValueReader.step ⟨[], .value⟩).finish stop

/-! ### Statements -/

/-- Tokens without the blanks in front of them. -/
def dropBlanks (ts : List (Placed Token)) : List (Placed Token) :=
  ts.dropWhile (·.item = .blank)

/-- Check that nothing but blanks is left of a line. -/
def endLine {α : Type} (a : α) (ts : List (Placed Token)) : Except Fault α :=
  match dropBlanks ts with
  | [] => .ok a
  | t :: _ => ValueReader.misplaced ⟨t.span.before, t.item⟩ .extraText

/-- Read a header after its opening brackets. -/
def readHeader (opening stop : Span) (isNext : Bool) (ts : List (Placed Token)) :
  Except Fault Statement :=
  let unclosed (p : Span) (brackets : String) : Except Fault Statement :=
    .error ⟨p, if isNext then .unclosedTables brackets else .unclosedTable⟩
  let ts := dropBlanks ts
  match ts.head?.bind Key.of? with
  | none =>
    let place := (ts.head?.map (·.span.before)).getD stop
    match ts with
    | ⟨_, .flaw fault⟩ :: _ => .error fault
    | _ => .ok (.header opening [.absent place])
  | some k =>
    let (path, rest) := readPath none (ts.drop 1)
    let path := k :: path
    let last := ((path.getLast?.map (·.span)).getD k.span).after
    match rest, isNext with
    | ⟨p, .closeBracket⟩ :: rest, false =>
      endLine (.header ⟨opening.start, p.stop⟩ path) rest
    | ⟨_, .closeBracket⟩ :: ⟨p, .closeBracket⟩ :: rest, true =>
      endLine (.nextHeader ⟨opening.start, p.stop⟩ path) rest
    | ⟨p, .closeBracket⟩ :: _, true => unclosed p.after "]"
    | ⟨_, .flaw fault⟩ :: _, _ => .error fault
    | _, _ => unclosed last "]]"

/-- Read an entry of a table after the first part of its key. -/
def readEntry (k : Key) (stop : Span) (ts : List (Placed Token)) : Except Fault Statement := do
  let (path, rest) := readPath none ts
  match rest with
  | ⟨_, .equals⟩ :: rest =>
    let (p, v) ← readValue rest stop
    return .entry (k :: path) p v
  | t :: _ => ValueReader.misplaced ⟨t.span.before, t.item⟩ .keyWithoutValue
  | [] => throw ⟨stop, .keyWithoutValue⟩

/-- Read a statement from the tokens of a line that ends at a place. -/
def readStatement (ts : List (Placed Token)) (stop : Span) : Except Fault Statement :=
  match dropBlanks ts with
  | [] => .ok .empty
  | t :: ts =>
    match t.item, ts with
    | .openBracket, ⟨p, .openBracket⟩ :: ts => readHeader ⟨t.span.start, p.stop⟩ stop true ts
    | .openBracket, ts => readHeader t.span stop false ts
    | .dot, ts | .equals, ts => readEntry (.absent t.span.before) stop (t :: ts)
    | .closeBracket, _ => ValueReader.misplaced ⟨t.span.before, t.item⟩ .missingTable
    | _, ts => match Key.of? t with
      | some k => readEntry k stop ts
      | none => ValueReader.misplaced ⟨t.span.before, t.item⟩ .keyMissing

/-- Cut tokens at the line breaks that are outside of brackets and braces; each line has the
place of its end. -/
def lines (last : Span) (depth : Nat) (line : List (Placed Token)) :
  List (Placed Token) → List (List (Placed Token) × Span)
  | [] => [(line.reverse, last)]
  | t :: ts =>
    match t.item with
    | .newline =>
      if depth = 0 then (line.reverse, t.span.before) :: lines last 0 [] ts
      else lines last depth (t :: line) ts
    | .openBracket | .openBrace => lines last (depth + 1) (t :: line) ts
    | .closeBracket | .closeBrace => lines last (depth - 1) (t :: line) ts
    | _ => lines last depth (t :: line) ts

/-- The statements of a document. -/
def statements (document : String) : Except Fault (List Statement) :=
  let last := document.utf8ByteSize
  (lines ⟨last, last⟩ 0 [] (tokens document)).mapM fun (ts, stop) => readStatement ts stop

end LogCourier.Toml
