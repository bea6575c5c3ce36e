import LogCourier.Toml.Statement

/-!
# TOML documents

A document read to a table: its statements are carried out in order on the table of the
document. Everything that the format forbids (a key given twice, a table opened twice, a
value extended like a table) makes the document unreadable, and so does a key or a value
that was kept with its fault.
-/

namespace LogCourier.Toml

namespace Entries

/-- The value of a key, with its place. -/
def value? (key : String) (es : Entries) : Option (Span × Value) :=
  es.lookup key

/-- Give a key that is there already another value. -/
def replace (key : String) (v : Span × Value) (es : Entries) : Entries :=
  es.map fun e => if e.1 = key then (key, v) else e

/-- Add a value under a dotted key. The tables on the way are made by it or by other
dotted keys; a table that is only implied by a header, and the last table of an array, may
be passed but not added to. -/
def add (v : Span × Value) : (path : List (Placed String)) → Entries → Except Fault Entries
  | [], es => .ok es
  | [⟨p, key⟩], es =>
    match es.value? key with
    | some _ => .error ⟨p, .keyAgain⟩
    | none => .ok (es ++ [(key, v)])
  | ⟨p, key⟩ :: next :: path, es =>
    match es.value? key with
    | none => do
      let t ← add v (next :: path) []
      return es ++ [(key, p, .table .dotted t)]
    | some (q, .table .dotted t) => do
      let t ← add v (next :: path) t
      return es.replace key (q, .table .dotted t)
    | some (q, .table .implied t) => do
      if path.isEmpty then throw ⟨next.span, .keyAgain⟩
      let t ← add v (next :: path) t
      return es.replace key (q, .table .implied t)
    | some (q, .tables ((r, t) :: ts)) => do
      if path.isEmpty then throw ⟨next.span, .keyAgain⟩
      let t ← add v (next :: path) t
      return es.replace key (q, .tables ((r, t) :: ts))
    | some (_, .table .headed _) => .error ⟨p, .keyAgain⟩
    | some _ => .error ⟨p, .notExtensible⟩

/-- Carry out the header of a table, or of one more table of an array, that takes the given
place. -/
def declare (place : Span) (isNext : Bool) :
  (path : List (Placed String)) → Entries → Except Fault Entries
  | [], es => .ok es
  | [⟨p, key⟩], es =>
    match es.value? key, isNext with
    | none, false => .ok (es ++ [(key, place, .table .headed [])])
    | none, true => .ok (es ++ [(key, place, .tables [(place, [])])])
    | some (_, .table .implied t), false => .ok (es.replace key (place, .table .headed t))
    | some (q, .tables ts), true => .ok (es.replace key (q, .tables ((place, []) :: ts)))
    | some _, _ => .error ⟨p, .keyAgain⟩
  | ⟨p, key⟩ :: next :: path, es =>
    match es.value? key with
    | none => do
      let t ← declare place isNext (next :: path) []
      return es ++ [(key, p, .table .implied t)]
    | some (_, .table .inline _) => .error ⟨p, .notExtensible⟩
    | some (q, .table kind t) => do
      let t ← declare place isNext (next :: path) t
      return es.replace key (q, .table kind t)
    | some (q, .tables ((r, t) :: ts)) => do
      let t ← declare place isNext (next :: path) t
      return es.replace key (q, .tables ((r, t) :: ts))
    | some _ => .error ⟨p, .notExtensible⟩

/-- Change the table that a header with the given path has opened. -/
def modifyAt (f : Entries → Except Fault Entries) :
  (path : List (Placed String)) → Entries → Except Fault Entries
  | [], es => f es
  | ⟨_, key⟩ :: path, es =>
    match es.value? key with
    | some (q, .table kind t) => do
      let t ← modifyAt f path t
      return es.replace key (q, .table kind t)
    | some (q, .tables ((r, t) :: ts)) => do
      let t ← modifyAt f path t
      return es.replace key (q, .tables ((r, t) :: ts))
    | _ => .ok es

end Entries

/-- The names of a dotted key. -/
def Path.names (path : Path) : Except Fault (List (Placed String)) :=
  path.mapM fun k => return ⟨k.span, ← k.name⟩

/-- The value that is written. -/
def Written.value : Written → Except Fault Value
  | .scalar v => v
  | .array items => do
    let vs ← items.attach.mapM fun ⟨(p, w), _⟩ => return (p, ← w.value)
    return .array vs
  | .inline entries => do
    let read ← entries.attach.mapM fun ⟨(path, p, w), _⟩ =>
      return (← path.names, p, ← w.value)
    let es ← read.foldlM (fun es (path, v) => Entries.add v path es) []
    return .table .inline es
decreasing_by
  all_goals simp_wf
  all_goals
    have := List.sizeOf_lt_of_mem ‹_›
    simp at this
    omega

/-- A document read so far: its table, and the path of the last header. -/
structure Document where
  root : Entries
  here : List (Placed String)

/-- Carry out a statement. -/
def Document.step (d : Document) : Statement → Except Fault Document
  | .empty => return d
  | .header p path => do
    let path ← path.names
    return ⟨← Entries.declare p false path d.root, path⟩
  | .nextHeader p path => do
    let path ← path.names
    return ⟨← Entries.declare p true path d.root, path⟩
  | .entry path p v => do
    let path ← path.names
    let v ← v.value
    return { d with root := ← Entries.modifyAt (Entries.add (p, v) path) d.here d.root }

/-- The table of a document. -/
def read (document : String) : Except Fault Entries := do
  return (← (← statements document).foldlM Document.step ⟨[], []⟩).root

end LogCourier.Toml
