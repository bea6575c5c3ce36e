import LogCourier.Cursor
import LogCourier.Device
import LogCourier.Storage.FilePath

/-!
# The file of the cursor

The cursor is kept as decimal text in a file. It is written to a neighbour of the file,
which then takes the place of the file at once; a file that holds no number counts as 0.
-/

namespace LogCourier

namespace CursorFile

/-- The neighbour that is written first. -/
def temporary (path : String) : String :=
  FilePath.withFileName path ((FilePath.fileName? path).getD "cursor" ++ ".tmp")

/-- Note a file that cannot be read. -/
def noteUnreadable (path reason : String) : DeviceWork Unit :=
  DeviceWork.log .warn "Failed to read state file; starting from row 0"
    [("path", .text path), ("error", .text reason)]

/-- The cursor in the content of the file. -/
def readContent (path : String) (content : List UInt8) : DeviceWork Cursor := do
  match Utf8.decode? content with
  | none =>
    noteUnreadable path "stream did not contain valid UTF-8"
    return .zero
  | some text =>
    match Cursor.parse? text with
    | some cursor => return cursor
    | none =>
      DeviceWork.log .warn "State file does not hold a row number; starting from row 0"
        [("path", .text path)]
      return .zero

/-- The persisted cursor. -/
def load (path : String) : DeviceWork Cursor := do
  match ← DeviceWork.readFile path with
  | .ok content => readContent path content
  | .error e =>
    if e.isMissing then
      DeviceWork.log .debug "No state file yet; starting from row 0" [("path", .text path)]
    else noteUnreadable path e.reason
    return .zero

/-- The failure of a step of writing. -/
def failure (step path : String) (e : FileError) : Failure :=
  .io ("Failed to " ++ step ++ " " ++ path ++ ": " ++ e.reason)

/-- Make the directory of the file. -/
def prepare (path : String) : DeviceWork (Except Failure Unit) := do
  match FilePath.parent? path with
  | none | some "" => return .ok ()
  | some parent =>
    return (← DeviceWork.makeDirectories parent).mapError (failure "create state directory" parent)

/-- Write the neighbour, and put it in the place of the file. -/
def replace (path : String) (c : Cursor) : DeviceWork (Except Failure Unit) := do
  match ← DeviceWork.writeFile (temporary path) (Utf8.bytes c.text) with
  | .error e => return .error (failure "write" (temporary path) e)
  | .ok () =>
    return (← DeviceWork.rename (temporary path) path).mapError (failure "replace state file" path)

/-- Persist a cursor. -/
def store (path : String) (c : Cursor) : DeviceWork (Except Failure Unit) := do
  match ← prepare path with
  | .error e => return .error e
  | .ok () =>
    match ← replace path c with
    | .error e => return .error e
    | .ok () =>
      DeviceWork.record (.lastRowUpdated c.row)
      DeviceWork.log .debug "Cursor persisted" [("cursor", .text c.text)]
      return .ok ()

end CursorFile

end LogCourier
