import LogCourier.Observe.LogLine
import LogCourier.Text.Blank
import LogCourier.Text.Case
import LogCourier.Text.Decimal

/-!
# Filters of log lines

Which log lines are written. A filter is given as directives with commas between them: the
name of a level, or a target with a level after an equals sign, where a target alone asks
for everything. A directive with a target is for lines whose origin starts with it, and of
all directives for a line the one with the longest target decides. Without any directive
only errors are written.
-/

namespace LogCourier

/-- A part of a filter: the lines of the origins that start with `target` are written if
their rank is `least` or more. -/
structure LogDirective where
  target : String
  least : Nat
  deriving DecidableEq, Repr

/-- Which log lines are written. -/
structure LogFilter where
  directives : List LogDirective
  deriving DecidableEq, Repr

namespace LogFilter

/-- The lowest rank of each name of a threshold; the last one excludes all lines. -/
def thresholds : List (String × Nat) := [
  ("trace", LogLevel.trace.rank), ("debug", LogLevel.debug.rank), ("info", LogLevel.info.rank),
  ("warn", LogLevel.warn.rank), ("error", LogLevel.error.rank), ("", LogLevel.error.rank),
  ("off", LogLevel.error.rank + 1)]

/-- Read a threshold: a name in any case, or the number of levels that are written. -/
def threshold? (s : String) : Option Nat :=
  match Decimal.readBelow UInt64.size s.toList with
  | .ok n => if n ≤ LogLevel.error.rank + 1 then some (LogLevel.error.rank + 1 - n) else none
  | .error _ => thresholds.lookup (Text.lowerAscii s)

/-- Whether a character may start a target. -/
def startsTarget (c : Char) : Bool :=
  c.isAlphanum || c = '-' || c = ':' || c = '_'

/-- Read a directive. -/
def directive? (s : String) : Option LogDirective :=
  let cs := Text.trimChars s.toList
  if ¬ (cs.head?.elim true startsTarget) then none
  else
    let target := cs.takeWhile (· ≠ '=')
    if target.length < cs.length then
      (threshold? (String.ofList (cs.drop (target.length + 1)))).map (⟨String.ofList target, ·⟩)
    else match threshold? (String.ofList cs) with
      | some least => some ⟨"", least⟩
      | none => some ⟨String.ofList cs, LogLevel.trace.rank⟩

/-- The filter of directives; without any, only errors pass. -/
def ofDirectives (ds : List LogDirective) : LogFilter :=
  ⟨if ds.isEmpty then [⟨"", LogLevel.error.rank⟩] else ds⟩

/-- Read a filter; directives that cannot be read are left out. -/
def ofText (s : String) : LogFilter :=
  ofDirectives (((s.splitOn ",").filter (· ≠ "")).filterMap directive?)

/-- Read a filter of which every directive can be read. -/
def ofText? (s : String) : Option LogFilter :=
  if s.isEmpty then some (ofDirectives [])
  else ((s.splitOn ",").mapM directive?).map ofDirectives

/-- The directive that decides on the lines of an origin: of those with the longest target
the last one. -/
def decisive (f : LogFilter) (origin : String) : Option LogDirective :=
  (f.directives.filter fun d => d.target.toList.isPrefixOf origin.toList).foldl (fun best d =>
    match best with
    | some b => if b.target.length ≤ d.target.length then some d else some b
    | none => some d) none

/-- Whether a line of the program with the given name is written. -/
def shows (f : LogFilter) (origin : String) (l : LogLine) : Bool :=
  match f.decisive origin with
  | some d => d.least ≤ l.level.rank
  | none => false

end LogFilter

end LogCourier
