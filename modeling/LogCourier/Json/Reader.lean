import LogCourier.Json.Lexeme

/-!
# Reading a document

The lexical units of a document, put together to a tree. `Builder.step` takes one unit; the
containers that are still open are kept on a stack, innermost first. `read` takes bytes
that hold one value and nothing else.
-/

namespace LogCourier.Json

/-- A container that is still open, with what it holds so far, last first. -/
inductive Frame
  | array (before : List Json)
  | object (before : List (Text × Json))
  | member (before : List (Text × Json)) (key : Text)

/-- What may come next. -/
inductive Expecting
  | value
  | itemOrEnd
  | item
  | commaOrArrayEnd
  | keyOrEnd
  | key
  | colon
  | commaOrObjectEnd
  | nothing (result : Json)

/-- A document read so far. -/
structure Builder where
  stack : List Frame
  expecting : Expecting

namespace Builder

/-- The builder before a document. -/
def initial : Builder := ⟨[], .value⟩

/-- Put a completed value into the innermost open container. -/
def complete (v : Json) : List Frame → Builder
  | [] => ⟨[], .nothing v⟩
  | .array before :: stack => ⟨.array (v :: before) :: stack, .commaOrArrayEnd⟩
  | .member before key :: stack => ⟨.object ((key, v) :: before) :: stack, .commaOrObjectEnd⟩
  | .object before :: stack => ⟨.object before :: stack, .commaOrObjectEnd⟩

/-- Close the innermost open container. -/
def close : List Frame → Builder
  | .array before :: stack => complete (.array before.reverse) stack
  | .object before :: stack => complete (.object before.reverse) stack
  | stack => ⟨stack, .value⟩

/-- Start a value. -/
def startValue (stack : List Frame) (u : Placed) : Except Fault Builder :=
  match u.lexeme with
  | .openArray => .ok ⟨.array [] :: stack, .itemOrEnd⟩
  | .openObject => .ok ⟨.object [] :: stack, .keyOrEnd⟩
  | .null => .ok (complete .null stack)
  | .bool b => .ok (complete (.bool b) stack)
  | .natural n => .ok (complete (.natural n) stack)
  | .numeral s => .ok (complete (.numeral s) stack)
  | .text t => .ok (complete (.text t) stack)
  | .broken f => .error f
  | .closeArray | .closeObject | .comma | .colon | .stray => .error ⟨.expectedValue, u.start⟩

/-- Take a key of the innermost object. -/
def takeKey (stack : List Frame) (u : Placed) : Except Fault Builder :=
  match u.lexeme, stack with
  | .text t, .object before :: stack => .ok ⟨.member before t :: stack, .colon⟩
  | .broken ⟨.endInText, n⟩, _ => .error ⟨.endInText, n⟩
  | .broken ⟨.controlCharacter, n⟩, _ => .error ⟨.controlCharacter, n⟩
  | .broken ⟨.invalidEscape, n⟩, _ => .error ⟨.invalidEscape, n⟩
  | _, _ => .error ⟨.keyNotText, u.start⟩

/-- Take a lexical unit. -/
def step (b : Builder) (u : Placed) : Except Fault Builder :=
  match b.expecting, u.lexeme with
  | .value, _ => startValue b.stack u
  | .itemOrEnd, .closeArray => .ok (close b.stack)
  | .itemOrEnd, _ => startValue b.stack u
  | .item, .closeArray => .error ⟨.trailingComma, u.start⟩
  | .item, _ => startValue b.stack u
  | .commaOrArrayEnd, .comma => .ok { b with expecting := .item }
  | .commaOrArrayEnd, .closeArray => .ok (close b.stack)
  | .commaOrArrayEnd, _ => .error ⟨.expectedCommaOrListEnd, u.start⟩
  | .keyOrEnd, .closeObject => .ok (close b.stack)
  | .keyOrEnd, _ => takeKey b.stack u
  | .key, .closeObject => .error ⟨.trailingComma, u.start⟩
  | .key, _ => takeKey b.stack u
  | .colon, .colon => .ok { b with expecting := .value }
  | .colon, _ => .error ⟨.expectedColon, u.start⟩
  | .commaOrObjectEnd, .comma => .ok { b with expecting := .key }
  | .commaOrObjectEnd, .closeObject => .ok (close b.stack)
  | .commaOrObjectEnd, _ => .error ⟨.expectedCommaOrObjectEnd, u.start⟩
  | .nothing _, _ => .error ⟨.trailingCharacters, u.start⟩

/-- See the end of a document of the given length. -/
def finish (b : Builder) (length : Nat) : Except Fault Json :=
  match b.expecting with
  | .nothing v => .ok v
  | .value | .item | .key => .error ⟨.endInValue, length⟩
  | .itemOrEnd | .commaOrArrayEnd => .error ⟨.endInList, length⟩
  | .keyOrEnd | .colon | .commaOrObjectEnd => .error ⟨.endInObject, length⟩

end Builder

/-- The tree of a list of lexical units. -/
def ofLexemes (length : Nat) (us : List Placed) : Except Fault Json := do
  (← us.foldlM Builder.step Builder.initial).finish length

/-- The tree of a document given by its glyphs. -/
def ofGlyphs (document : List Utf8.Glyph) : Except Fault Json :=
  ofLexemes document.length (lexemes document)

/-- The tree of a document given by its bytes. -/
def read (document : List UInt8) : Except Fault Json :=
  ofGlyphs (Utf8.glyphs document)

end LogCourier.Json
