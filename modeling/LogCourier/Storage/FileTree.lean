import LogCourier.Storage.FilePath

/-!
# A tree of files

Directories and regular files, without links, with the operations that the program needs:
reading, writing, making directories and renaming. A path is followed from the root or
from the working directory, segment by segment.
-/

namespace LogCourier

/-- Why an operation on files fails. -/
inductive FileFault
  | notFound
  | exists_
  | notDirectory
  | isDirectory
  | busy
  | nameTooLong
  | invalidName
  | wholeTree
  deriving DecidableEq, Repr

/-- The wording of why an operation on files fails. -/
def FileFault.message : FileFault → String
  | notFound => "No such file or directory (os error 2)"
  | exists_ => "File exists (os error 17)"
  | notDirectory => "Not a directory (os error 20)"
  | isDirectory => "Is a directory (os error 21)"
  | busy => "Device or resource busy (os error 16)"
  | nameTooLong => "File name too long (os error 36)"
  | invalidName => "file name contained an unexpected NUL byte"
  | wholeTree => "failed to create whole tree"

/-- What stands at a place of the tree. -/
inductive FileEntry
  | file (content : List UInt8)
  | directory
  deriving DecidableEq, Repr

/-- A place in the tree: the names on the way from the root. -/
abbrev Place := List String

/-- A tree of files, by the places that are not empty, and the working directory. The root
is a directory without being listed. -/
structure FileTree where
  entries : List (Place × FileEntry)
  here : Place
  deriving Repr

namespace FileTree

/-- What stands at a place. -/
def get? (t : FileTree) (p : Place) : Option FileEntry :=
  if p = [] then some .directory else t.entries.lookup p

/-- Put something at a place. -/
def put (t : FileTree) (p : Place) (e : FileEntry) : FileTree :=
  { t with entries := t.entries.filter (·.1 ≠ p) ++ [(p, e)] }

/-- Empty a place and all below it. -/
def remove (t : FileTree) (p : Place) : FileTree :=
  { t with entries := t.entries.filter fun e => ¬ p.isPrefixOf e.1 }

/-- Follow the segments of a path through directories. -/
def walk (t : FileTree) (p : Place) : List String → Except FileFault Place
  | [] => .ok p
  | s :: ss =>
    if s = "" ∨ s = "." then walk t p ss
    else if s = ".." then walk t p.dropLast ss
    else if 255 < s.utf8ByteSize then .error .nameTooLong
    else match t.get? (p ++ [s]) with
      | some .directory => walk t (p ++ [s]) ss
      | some (.file _) => .error .notDirectory
      | none => .error .notFound

/-- What a path leads to: a directory that it names without a name of its own, or a name
in a directory. The flag tells of slashes at the end. -/
inductive Target
  | directory (place : Place)
  | name (parent : Place) (name : String) (slash : Bool)

/-- Follow a path up to its last name. -/
def locate (t : FileTree) (path : String) : Except FileFault Target := do
  if path = "" then throw .notFound
  if path.toList.contains (Char.ofNat 0) then throw .invalidName
  let segments := path.splitOn "/"
  let start := if segments.head? = some "" then [] else t.here
  let named := (segments.reverse.dropWhile (· = "")).reverse
  match named.getLast? with
  | none => return .directory []
  | some last =>
    let parent ← t.walk start named.dropLast
    if last = "." ∨ last = ".." then return .directory (← t.walk parent [last])
    if 255 < last.utf8ByteSize then throw .nameTooLong
    return .name parent last (named.length < segments.length)

/-- The content of a file. -/
def readFile (t : FileTree) (path : String) : Except FileFault (List UInt8) := do
  match ← t.locate path with
  | .directory _ => throw .isDirectory
  | .name parent name slash =>
    match t.get? (parent ++ [name]) with
    | none => throw .notFound
    | some .directory => throw .isDirectory
    | some (.file content) => if slash then throw .notDirectory else return content

/-- Write a file. -/
def writeFile (t : FileTree) (path : String) (content : List UInt8) :
  Except FileFault FileTree := do
  match ← t.locate path with
  | .directory _ => throw .isDirectory
  | .name parent name slash =>
    match t.get? (parent ++ [name]) with
    | some .directory => throw .isDirectory
    | some (.file _) =>
      if slash then throw .notDirectory else return t.put (parent ++ [name]) (.file content)
    | none =>
      if slash then throw .isDirectory else return t.put (parent ++ [name]) (.file content)

/-- Make a directory. -/
def makeDirectory (t : FileTree) (path : String) : Except FileFault FileTree := do
  match ← t.locate path with
  | .directory _ => throw .exists_
  | .name parent name _ =>
    match t.get? (parent ++ [name]) with
    | some _ => throw .exists_
    | none => return t.put (parent ++ [name]) .directory

/-- Whether a path leads to a directory. -/
def isDirectory (t : FileTree) (path : String) : Bool :=
  match t.locate path with
  | .ok (.directory _) => true
  | .ok (.name parent name _) => t.get? (parent ++ [name]) = some .directory
  | .error _ => false

/-- Make a directory unless there is one, and those on the way to it; `depth` bounds their
number. The result has the tree as far as it was made. -/
def makeDirectoriesWithin (t : FileTree) : (depth : Nat) → String →
  FileTree × Except FileFault Unit
  | _, "" => (t, .ok ())
  | 0, _ => (t, .error .wholeTree)
  | depth + 1, path =>
    match t.makeDirectory path with
    | .ok t => (t, .ok ())
    | .error .notFound =>
      match FilePath.parent? path with
      | none => (t, .error .wholeTree)
      | some parent =>
        match makeDirectoriesWithin t depth parent with
        | (t, .error e) => (t, .error e)
        | (t, .ok ()) =>
          match t.makeDirectory path with
          | .ok t => (t, .ok ())
          | .error e => if t.isDirectory path then (t, .ok ()) else (t, .error e)
    | .error e => if t.isDirectory path then (t, .ok ()) else (t, .error e)

/-- Make a directory unless there is one, and those on the way to it. -/
def makeDirectories (t : FileTree) (path : String) : FileTree × Except FileFault Unit :=
  t.makeDirectoriesWithin (path.length + 1) path

/-- Give a file another name; a file of that name is replaced. -/
def rename (t : FileTree) (source target : String) : Except FileFault FileTree := do
  match ← t.locate source, ← t.locate target with
  | .name parent name slash, .name newParent newName newSlash =>
    match t.get? (parent ++ [name]) with
    | none => throw .notFound
    | some .directory => throw .isDirectory
    | some (.file content) =>
      if slash ∨ newSlash then throw .notDirectory
      match t.get? (newParent ++ [newName]) with
      | some .directory => throw .isDirectory
      | _ => return (t.remove (parent ++ [name])).put (newParent ++ [newName]) (.file content)
  | _, _ => throw .busy

end FileTree

end LogCourier
