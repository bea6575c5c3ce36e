import LogCourier.CommandLine
import LogCourier.Host

/-!
# The command

The program on a real host: the arguments and the environment are read, the work is held,
and its end becomes an exit code.
-/

namespace LogCourier

namespace Main

/-- The variables of the environment that are looked at. -/
def variableNames : List String :=
  Environment.textVariables.map Prod.fst ++ Environment.readVariables.map Prod.fst
    ++ [Program.filterVariable]

/-- The environment. -/
def environment : IO Environment :=
  variableNames.filterMapM fun name => do
    return (← IO.getEnv name).map fun value => (name, value)

/-- Report a failure. -/
def fail (message : String) : IO UInt32 := do
  IO.eprintln ("Error: " ++ message)
  return 1

/-- A host for given settings. -/
def hostFor (filter : LogFilter) (isJson : Bool) (interval : Nat) : IO Host := do
  return ⟨filter, isJson, interval, ← IO.mkRef .empty, ← IO.mkRef none⟩

/-- The number of cycles that no run reaches. -/
def unboundedRounds : Nat := 0x4000000000000000

/-- Run the program with options. -/
def run (o : Program.Options) : IO UInt32 := do
  let env ← environment
  let bare ← hostFor ⟨[]⟩ false 0
  match ← bare.hold (Program.settings o env) with
  | none => return Program.abortCode
  | some (.error e) => fail e.message
  | some (.ok s) =>
    let h ← hostFor (Program.filter env s) s.logging.isJson s.job.interval
    let interrupt ← h.watch .sigint .interrupt
    let terminate ← h.watch .sigterm .terminate
    let outcome ← h.hold (Program.run s unboundedRounds)
    interrupt.stop
    terminate.stop
    match outcome with
    | none => return Program.abortCode
    | some (.error message) => fail message
    | some (.ok ()) => return 0

end Main

end LogCourier

open LogCourier in
/-- Carry out what the arguments ask for. -/
def main (arguments : List String) : IO UInt32 := do
  match CommandLine.read arguments with
  | .run o => Main.run o
  | .help =>
    IO.println CommandLine.helpText
    return 0
  | .version =>
    IO.println CommandLine.versionText
    return 0
  | .misuse =>
    IO.eprintln CommandLine.usage
    return 2
