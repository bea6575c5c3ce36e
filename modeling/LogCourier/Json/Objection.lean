import LogCourier.Json.Record

/-!
# What is wrong with a document

A document is read from left to right for a certain kind of value, and what is said about one
that is not such a value is the first thing found wrong with it: a fault of the document or a
value that does not fit. `Want` tells what kind of value is asked for. While the builder puts
the document together, its stack of open containers tells what is wanted next, so that each
unit can be looked at before the builder takes it (`Want.objection?`). A value that nobody
asked for is skipped, and some of its faults have other names there.
-/

namespace LogCourier.Json

/-- What is wrong with a document, and where: after a number of glyphs, and after the first
byte of the next one if `begun`. -/
structure Objection where
  words : String
  glyphs : Nat
  begun : Bool
  deriving DecidableEq, Repr

namespace Objection

/-- A fault shows when the first byte of a glyph has been read. -/
def ofFault (f : Fault) : Objection := ⟨f.reason.message, f.glyphs, true⟩

/-- A misfit shows between two glyphs. -/
def ofMisfit (m : Misfit) (glyphs : Nat) : Objection := ⟨m.message, glyphs, false⟩

/-- The wording of an objection to the given bytes. -/
def text (o : Objection) (document : List UInt8) : String :=
  let before := (bytesBefore o.glyphs document).length + if o.begun then 1 else 0
  o.words ++ " at " ++ place (document.take before)

end Objection

/-- What kind of value is wanted. -/
inductive Want
  | anything
  | text
  | natural (limit : Nat) (width : String)
  | optional (want : Want)
  | list (want : Want)
  | record (shape : Shape) (wants : List Want)

/-- The misfit that a reading ends in. -/
def misfit? {α : Type} : Except Misfit α → Option Misfit
  | .ok _ => none
  | .error m => some m

/-- A unit that starts a value, as a value of its own: an opening mark is an empty container. -/
def Lexeme.start? : Lexeme → Option Json
  | .openArray => some (.array [])
  | .openObject => some (.object [])
  | .null => some .null
  | .bool b => some (.bool b)
  | .natural n => some (.natural n)
  | .numeral s => some (.numeral s)
  | .text t => some (.text t)
  | .closeArray | .closeObject | .comma | .colon | .stray | .broken _ => none

namespace Placed

/-- What is wrong with a text that is no string: a surrogate has no partner, or some bytes are
no character. -/
def textFlaw (u : Placed) : Objection :=
  match u.lone with
  | some f => .ofFault f
  | none => .ofMisfit .wrongText u.stop

/-- What is wrong with a number that is refused: it may be too large to be read at all. -/
def numberFlaw (u : Placed) (spelling : List Char) (m : Misfit) : Objection :=
  match Number.read spelling with
  | .ok _ => .ofMisfit m u.stop
  | .error read => .ofFault ⟨.numberTooLarge, u.start + read - 1⟩

/-- What is wrong with a unit that starts a value which is refused. A container is refused
before it is opened, and anything else after it has been read. -/
def refused (u : Placed) (m : Misfit) : Objection :=
  match u.lexeme with
  | .openArray | .openObject => .ofMisfit m u.start
  | .text t => if (Utf8.characters? t).isNone then u.textFlaw else .ofMisfit m u.stop
  | .natural n => u.numberFlaw (Decimal.digits n) m
  | .numeral s => u.numberFlaw s m
  | _ => .ofMisfit m u.stop

end Placed

namespace Want

/-- What is wanted of a value that is there. -/
def core : Want → Want
  | optional w => w.core
  | w => w

/-- Whether values are skipped. -/
def skips (w : Want) : Bool :=
  match w.core with
  | anything => true
  | _ => false

/-- What is wanted of an item of an array. -/
def item (w : Want) (index : Nat) : Want :=
  match w.core with
  | list w => w
  | record _ wants => wants.getD index anything
  | _ => anything

/-- What is wanted of the value of a member of an object. -/
def member (w : Want) (key : Text) : Want :=
  match w.core with
  | record shape wants => wants.getD ((shape.names.map Text.ofString).idxOf key) anything
  | _ => anything

/-- What is wanted of the next value inside some open containers. -/
def within (top : Want) : List Frame → Want
  | [] => top
  | .array before :: stack => (top.within stack).item before.length
  | .object _ :: _ => anything
  | .member _ key :: stack => (top.within stack).member key

/-- What is wanted of the innermost open container. -/
def inside (top : Want) : List Frame → Want
  | [] => anything
  | _ :: stack => top.within stack

/-- Why a value is not wanted, as far as its start tells. -/
def refusal? : Want → Json → Option Misfit
  | anything, _ | optional _, .null | list _, .array _ | record .., .array _
  | record .., .object _ => none
  | text, v => misfit? (string v)
  | natural limit width, v => misfit? (naturalBelow limit width v)
  | optional w, v => w.refusal? v
  | list _, v => some (.wrongType v.kind "a sequence")
  | record shape _, v => some (.wrongType v.kind shape.title)

/-- What is wrong with a unit where a value is wanted. -/
def value? (w : Want) (u : Placed) : Option Objection :=
  match u.lexeme with
  | .broken _ => if w.skips then none else u.lone.map .ofFault
  | l => (l.start?.bind w.refusal?).map u.refused

/-- What is wrong with a unit where a key of an object is wanted. -/
def key? (w : Want) (u : Placed) : Option Objection :=
  if w.skips then none
  else match u.lexeme with
    | .broken _ => u.lone.map .ofFault
    | .text t => if (Utf8.characters? t).isNone then some u.textFlaw else none
    | _ => none

/-- What is wrong with the end of the innermost array: a record may have too few fields. -/
def short? (top : Want) (stack : List Frame) (u : Placed) : Option Objection :=
  match (top.inside stack).core, stack with
  | record shape _, .array before :: _ =>
    if before.length < shape.needed then
      some (.ofMisfit (.wrongLength before.length shape.sized) u.stop)
    else none
  | _, _ => none

/-- Whether the innermost array has as many items as wanted. -/
def isFull (top : Want) (stack : List Frame) : Bool :=
  match (top.inside stack).core, stack with
  | record shape _, .array before :: _ => shape.names.length ≤ before.length
  | _, _ => false

/-- What is wrong with a unit that does not end the innermost array. -/
def surplus? (top : Want) (stack : List Frame) (u : Placed) : Option Objection :=
  if top.isFull stack then some (.ofFault ⟨.trailingCharacters, u.start⟩) else none

/-- What is wrong with the end of the innermost object: a record may lack a field. -/
def lacking? (top : Want) (stack : List Frame) (u : Placed) : Option Objection :=
  match (top.inside stack).core, stack with
  | record shape _, .object before :: _ =>
    let missing := (shape.names.take shape.needed).find? fun name => occurrences name before = 0
    missing.map fun name => .ofMisfit (.missingField name) u.stop
  | _, _ => none

/-- What is wrong with the last key of the innermost object: a record may have its field
already. This is noticed at the given place, when what follows the key has been found. -/
def repeated? (top : Want) (stack : List Frame) (place : Nat) : Option Objection :=
  match (top.inside stack).core, stack with
  | record shape _, .member before key :: _ =>
    let repeated := shape.names.find? fun name =>
      key == .ofString name ∧ occurrences name before ≠ 0
    repeated.map fun name => .ofMisfit (.duplicateField name) place
  | _, _ => none

/-- What is wrong with the next unit, in view of what is wanted. -/
def objection? (top : Want) (b : Builder) (u : Placed) : Option Objection :=
  match b.expecting, u.lexeme with
  | .value, _ => (top.within b.stack).value? u
  | .item, .closeArray | .commaOrArrayEnd, .comma => none
  | .itemOrEnd, .closeArray | .commaOrArrayEnd, .closeArray => top.short? b.stack u
  | .commaOrArrayEnd, _ => top.surplus? b.stack u
  | .itemOrEnd, _ | .item, _ => top.surplus? b.stack u <|> (top.within b.stack).value? u
  | .keyOrEnd, .closeObject | .commaOrObjectEnd, .closeObject => top.lacking? b.stack u
  | .keyOrEnd, _ | .key, _ => (top.inside b.stack).key? u
  | .colon, .closeObject => top.repeated? b.stack u.stop
  | .colon, _ => top.repeated? b.stack u.start
  | .commaOrObjectEnd, _ | .nothing _, _ => none

/-- Whether a fault that the builder meets is one of something that is skipped. -/
def skipsFault (top : Want) (b : Builder) (f : Fault) : Bool :=
  match b.expecting, f.reason with
  | .item, .trailingComma => (top.inside b.stack).skips
  | .value, _ | .itemOrEnd, _ | .item, _ => (top.within b.stack).skips
  | _, _ => (top.inside b.stack).skips

/-- The name of a fault in something that is skipped. -/
def skipped (e : Expecting) (f : Fault) : Objection :=
  match f.reason, e with
  | .controlCharacter, _ => ⟨f.reason.message, f.glyphs, false⟩
  | .endInNumber, _ => .ofFault { f with reason := .invalidNumber }
  | .endInValue, .key => .ofFault { f with reason := .endInObject }
  | .trailingComma, .item => .ofFault { f with reason := .expectedValue }
  | .trailingComma, _ => .ofFault { f with reason := .keyNotText }
  | _, _ => .ofFault f

/-- What a fault is called that the builder meets. -/
def faultOf (top : Want) (b : Builder) (f : Fault) : Objection :=
  if top.skipsFault b f then skipped b.expecting f else .ofFault f

/-- What is wrong with the end of a document of the given length. -/
def end? (top : Want) (length : Nat) (b : Builder) : Option Objection :=
  let early :=
    match b.expecting with
    | .colon => top.repeated? b.stack length
    | .item => if top.isFull b.stack then some (.ofFault ⟨.trailingCharacters, length⟩) else none
    | _ => none
  early <|>
    match b.finish length with
    | .error f => some (top.faultOf b f)
    | .ok _ => none

/-- The first thing that is wrong with the units that come next. -/
def first? (top : Want) (length : Nat) (b : Builder) : List Placed → Option Objection
  | [] => top.end? length b
  | u :: us =>
    match top.objection? b u with
    | some o => some o
    | none =>
      match b.step u with
      | .error f => some (top.faultOf b f)
      | .ok b => top.first? length b us

/-- The first thing that is wrong with a document. -/
def wrong? (top : Want) (document : List UInt8) : Option Objection :=
  let glyphs := Utf8.glyphs document
  top.first? glyphs.length .initial (lexemes glyphs)

/-- What is said about a document that is not what is wanted. -/
def complaint (top : Want) (document : List UInt8) : String :=
  ((top.wrong? document).map (·.text document)).getD ""

end Want

end LogCourier.Json
