import TrialSeries.Program
import Std.Time.DateTime.Timestamp

/-!
# The command line

The program in the real file system: its output goes to standard output, its events and complaints
go to standard error.
-/

namespace TrialSeries

/-- The number of a failure, which may be reported with either sign. -/
def failureNumber (code : UInt32) : Nat := min code.toNat (-code).toNat

/-- The failure that the file system reports. -/
def FileError.ofSystem : IO.Error → FileError
  | .noFileOrDirectory _ _ _ => .notFound
  | .inappropriateType _ code _ => if failureNumber code = 21 then .isFolder else .notFolder
  | .permissionDenied _ _ _ => .noPermission
  | error => .other (toString error)

/-- The result of an action, or the failure that the file system reports. -/
def attempt {α : Type} (action : IO α) : IO (Except FileError α) := do
  try return .ok (← action)
  catch error => return .error (.ofSystem error)

/-- The text of the file at a path. -/
def readText (path : String) : IO (Except FileError String) := do
  match ← attempt (IO.FS.readBinFile path) with
  | .error error => return .error error
  | .ok content => match String.fromUTF8? content with
    | some text => return .ok text
    | none => return .error .notText

def currentTimestamp : IO Timestamp := do
  let nanoseconds := (← Std.Time.Timestamp.now).toNanosecondsSinceUnixEpoch.val
  return ⟨nanoseconds / 1_000_000_000, (nanoseconds % 1_000_000_000).toNat⟩

/-- The clock for work that began at a given count of nanoseconds. -/
def currentClock (start : Nat) : IO Clock := do
  let elapsed := (← IO.monoNanosNow) - start
  return ⟨← currentTimestamp, .nearest false elapsed 1_000_000_000⟩

/-- The file system and the clock of the machine. -/
def systemEnvironment (start : Nat) : Environment IO where
  read path := readText path
  isPresent path := return (← attempt (IO.FS.realPath path)).isOk
  write path text := attempt (IO.FS.writeFile path text)
  clock := currentClock start

/-- Shows what a call amounts to. -/
def Outcome.show (outcome : Outcome) : IO Unit := do
  let time := (← currentTimestamp).display
  for event in outcome.events do
    IO.eprintln (time ++ " " ++ event.terminalLine)
  for complaint in outcome.complaints do
    IO.eprintln complaint
  IO.print outcome.output

end TrialSeries

def main (words : List String) : IO UInt32 := do
  let environment := TrialSeries.systemEnvironment (← IO.monoNanosNow)
  let outcome ← TrialSeries.Program.run environment words
  outcome.show
  return outcome.exitCode.toUInt32
