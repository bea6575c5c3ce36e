/-!
# Paths of files

The text of a path is read as segments with slashes between them. Empty segments and
points for the current directory say nothing, except in front. From a path come its file
name, the path of its directory, and the path of a neighbour with another name.
-/

namespace LogCourier

namespace FilePath

/-- The segments of a path, without those at its end that say nothing; the first one stays
in any case. -/
def segments (path : String) : List String :=
  let rec trim : List String → List String
    | [] => []
    | s :: before =>
      if (s = "" ∨ s = ".") ∧ before ≠ [] then trim before else s :: before
  (trim (path.splitOn "/").reverse).reverse

/-- The text of segments. -/
def ofSegments : List String → String
  | [""] => "/"
  | ss => "/".intercalate ss

/-- The name of the file of a path, if it has one. -/
def fileName? (path : String) : Option String :=
  match (segments path).getLast? with
  | some s => if s = "" ∨ s = "." ∨ s = ".." then none else some s
  | none => none

/-- The path of the directory of a path, which is empty for a plain name; the root and the
empty path have none. -/
def parent? (path : String) : Option String :=
  match segments path with
  | [] | [""] => none
  | [_] => some ""
  | ss => some (ofSegments (segments ("/".intercalate ss.dropLast)))

/-- Add a name to a path. -/
def join (path name : String) : String :=
  if path.isEmpty ∨ path.toList.getLast? = some '/' then path ++ name else path ++ "/" ++ name

/-- The path of a neighbour with the given name; of a path without a file name it is a
file in the directory that it names. -/
def withFileName (path name : String) : String :=
  match fileName? path with
  | some _ => join ((parent? path).getD "") name
  | none => join path name

end FilePath

end LogCourier
