import LogCourier.Text.Utf8

/-!
# JSON values

A JSON document as a tree. A text is a list of glyphs: an escaped lone surrogate or a
stray byte stands in it as the mark `none`, so that a document with such a text is still
well formed, while only a text of characters can be taken as a string.
-/

namespace LogCourier

/-- A JSON text: its characters, with `none` where a document names something that is no
character. -/
abbrev Json.Text := List Utf8.Glyph

/-- A JSON value. A number written with digits only is `natural`, any other keeps its
spelling; an object keeps its members in the order of the document. -/
inductive Json
  | null
  | bool (value : Bool)
  | natural (value : Nat)
  | numeral (spelling : List Char)
  | text (content : Json.Text)
  | array (items : List Json)
  | object (members : List (Json.Text × Json))
  deriving BEq, Inhabited

namespace Json

/-- The JSON text of a string. -/
def Text.ofString (s : String) : Text :=
  s.toList.map some

/-- The JSON value of a string. -/
def ofString (s : String) : Json :=
  .text (.ofString s)

/-- The JSON value of an optional string, `null` for none. -/
def ofString? : Option String → Json
  | none => .null
  | some s => .ofString s

/-- The JSON value of an optional number, `null` for none. -/
def ofNat? : Option Nat → Json
  | none => .null
  | some n => .natural n

/-- An object with the given members. -/
def record (members : List (String × Json)) : Json :=
  .object (members.map fun m => (.ofString m.1, m.2))

end Json

end LogCourier
